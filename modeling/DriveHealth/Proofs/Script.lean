import DriveHealth.Proofs.Rehearsal
import DriveHealth.Proofs.Leaves
import Mathlib.Data.List.Forall2
set_option autoImplicit false

/-!
Scripts: the acts of a rehearsal. On a drive with one fixed reply to each command, a course that is not refused
is the script. One script is kept by another if all that it does is done there too, in the same order.
-/

namespace DriveHealth

variable {Cmd Reply α β σ : Type}

/-- The reply to a command is always the same. -/
def Channel.Memoryless (ch : Channel Cmd Reply σ) : Prop := ∀ c s s', (ch.send c s).1 = (ch.send c s').1

namespace Procedure

variable (f : Cmd → Except Fault Reply)

def script : Procedure Cmd Reply α → List (Act Cmd Reply)
  | .done _ => []
  | .say kind text next => .said kind text :: next.script
  | .record w next => .wrote w :: next.script
  | .ask c accepts next => .sent c (f c) (succeeds accepts (f c)) :: (next (f c)).script
  | .excuse c next => .forgiven c :: next.script

theorem exists_send_of_mem_exchanges {ch : Channel Cmd Reply σ} {p : Procedure Cmd Reply α} {s : σ} {t : Tolerance}
    {x : Cmd × Except Fault Reply} (hx : x ∈ (p.course ch s t).acts.flatMap Act.exchanges) :
    ∃ s, (ch.send x.1 s).1 = x.2 := by
  induction p generalizing s t with
  | done a => simp [course] at hx
  | say kind text next ih => exact ih (by simpa [course, Act.exchanges] using hx)
  | record w next ih => exact ih (by simpa [course, Act.exchanges] using hx)
  | ask c accepts next ih =>
    simp only [course, Course.acts_after, List.flatMap_cons, Act.exchanges, List.mem_append,
      List.mem_singleton] at hx
    obtain rfl | hx := hx
    · exact ⟨s, rfl⟩
    · exact ih _ hx
  | excuse c next ih =>
    cases ht : t.spend c with
    | some u => exact ih (by simpa [course, ht, Act.exchanges] using hx)
    | none => simp [course, ht, Act.exchanges] at hx

theorem course_script_of_agree (ch : Channel Cmd Reply σ) (p : Procedure Cmd Reply α) (s : σ) (t : Tolerance)
    (agree : ∀ x ∈ (p.course ch s t).acts.flatMap Act.exchanges, f x.1 = x.2)
    (h : (p.course ch s t).result.isSome) : (p.course ch s t).acts = p.script f := by
  induction p generalizing s t with
  | done a => rfl
  | say kind text next ih => exact congrArg _ (ih s t agree h)
  | record w next ih => exact congrArg _ (ih s t agree h)
  | ask c accepts next ih =>
    simp only [course, Course.acts_after, List.flatMap_cons, Act.exchanges, List.singleton_append,
      List.forall_mem_cons] at agree
    rw [course, Course.acts_after, script, agree.1, ih _ _ t agree.2 h]
  | excuse c next ih =>
    cases ht : t.spend c with
    | some u =>
      simp only [course, script, ht, Course.acts_after, Course.result_after] at h agree ⊢
      rw [ih s u (by simpa [Act.exchanges] using agree) h]
    | none => simp [course, ht] at h

/-- A course that is not refused, with one fixed reply to each command, is the script. -/
theorem course_script (ch : Channel Cmd Reply σ) (hch : ∀ c s, (ch.send c s).1 = f c)
    (p : Procedure Cmd Reply α) (s : σ) (t : Tolerance) (h : (p.course ch s t).result.isSome) :
    (p.course ch s t).acts = p.script f := by
  refine course_script_of_agree f ch p s t (fun x hx => ?_) h
  obtain ⟨s', hs'⟩ := exists_send_of_mem_exchanges hx
  rw [← hs', hch]

theorem course_script_log [DecidableEq Cmd] (ch : Channel Cmd Reply σ) (p : Procedure Cmd Reply α) (s : σ)
    (t : Tolerance) (once : ∀ f : Cmd → Except Fault Reply, (p.commands f).Nodup) :
    let k := p.course ch.logged (s, []) t
    k.result.isSome → (k.channel.2.map (·.1)).Nodup ∧ k.acts = p.script (replies k.channel.2) := by
  intro k h
  have hk : k = ⟨(p.course ch s t).acts, (p.course ch s t).result, (p.course ch s t).channel,
      (p.course ch s t).acts.flatMap Act.exchanges⟩ := by
    simp only [k, course_logged, List.nil_append]
  have hnodup : (((p.course ch s t).acts.flatMap Act.exchanges).map (·.1)).Nodup := by
    simpa using p.nodup_commands_course ch s t [] List.nodup_nil fun f _ => once f
  rw [hk] at h ⊢
  exact ⟨hnodup, course_script_of_agree _ ch p s t (replies_of_mem hnodup) h⟩

/-- A run in whose text no refusal is read leaves the text and the report of the script. -/
theorem run_script (ch : Channel Cmd Reply σ) (hch : ∀ c s, (ch.send c s).1 = f c) (name : Cmd → String)
    (trace : Bool) (p : Procedure Cmd Reply α) (s : σ) {r : Recorder}
    (shown : r.transcript.suppressed = false) :
    let last := (p.run ch name trace s r).recorder
    ∃ es, last.transcript.events = r.transcript.events ++ es ∧ ((∀ e ∈ es, ¬ e.IsRefusal) →
      es = (p.script f).flatMap (Act.events name trace) ∧
        last.report = ((p.script f).flatMap Act.writes).foldl Report.apply r.report) := by
  intro last
  have hlast : last = Act.performAll name trace (p.course ch s r.tolerance).acts r :=
    congrArg (·.recorder) (run_eq_course ch name trace p s r)
  refine ⟨_, by rw [hlast]; exact Act.events_performAll _ _ _ shown, fun hes => ?_⟩
  have hfinished : (p.course ch s r.tolerance).result.isSome := by
    obtain hw | ⟨before, c, hc⟩ := p.course_ends ch s r.tolerance
    · exact hw.finished
    · refine absurd ⟨c, rfl⟩ (hes (Event.refusal c) ?_)
      simp [hc.acts_eq, Act.events]
  have hscript := course_script f ch hch p s r.tolerance hfinished
  exact ⟨by rw [hscript], by rw [hlast, Act.report_performAll, hscript]⟩

@[simp] theorem script_pure (a : α) : (pure a : Procedure Cmd Reply α).script f = [] := rfl

@[simp] theorem script_bind (p : Procedure Cmd Reply α) (g : α → Procedure Cmd Reply β) :
    (p >>= g).script f = p.script f ++ (g (p.answer f)).script f := by
  show (p.bind g).script f = _
  induction p with
  | done a => rfl
  | say kind text next ih => exact congrArg (_ :: ·) ih
  | record w next ih => exact congrArg (_ :: ·) ih
  | ask c accepts next ih => exact congrArg (_ :: ·) (ih (f c))
  | excuse c next ih => exact congrArg (_ :: ·) ih

@[simp] theorem script_ite (c : Prop) [Decidable c] (p q : Procedure Cmd Reply α) :
    (if c then p else q).script f = if c then p.script f else q.script f := by
  split <;> rfl

@[simp] theorem script_print (text : String) :
    (print text : Procedure Cmd Reply Unit).script f = [.said .plain text] := rfl

@[simp] theorem script_info (text : String) :
    (info text : Procedure Cmd Reply Unit).script f = [.said .info text] := rfl

@[simp] theorem script_warn (text : String) :
    (warn text : Procedure Cmd Reply Unit).script f = [.said .warning text] := rfl

@[simp] theorem script_fail (c : FailureClass) (text : String) :
    (fail c text : Procedure Cmd Reply Unit).script f = [.said .error text, .forgiven c] := rfl

@[simp] theorem script_set (key : String) (value : Datum) :
    (set key value : Procedure Cmd Reply Unit).script f = [.wrote (.set key value)] := rfl

@[simp] theorem script_setIn (key field : String) (value : Datum) :
    (setIn key field value : Procedure Cmd Reply Unit).script f = [.wrote (.setIn key field value)] := rfl

@[simp] theorem script_send (c : Cmd) :
    (send c).script f = [.sent c (f c) (succeeds (fun _ => true) (f c))] := rfl

@[simp] theorem script_forM {ι : Type} (g : ι → Procedure Cmd Reply Unit) (l : List ι) :
    (forM l g).script f = l.flatMap fun i => (g i).script f := by
  induction l with
  | nil => rfl
  | cons i l ih => rw [List.forM_cons, script_bind, ih, List.flatMap_cons]

end Procedure

/-- All leaves that the first write brings, the second brings too. -/
def Report.Write.Within (w w' : Report.Write) : Prop :=
  ∀ key path leaf, w.LeafAt key path leaf → w'.LeafAt key path leaf

theorem Report.Write.within_record (key : String) {fs fs' : Fields} (hne : fs ≠ [])
    (h : ∀ field value, fs.get? field = some value → fs'.get? field = some value) :
    Within (.set key (.record fs)) (.set key (.record fs')) := by
  rintro _ path leaf (hleaf | _)
  obtain hnil | ⟨field, value, rest, rfl, hget, hleaf⟩ := hleaf.record_inv
  · exact absurd hnil hne
  · exact .set (.field (h _ _ hget) hleaf)

namespace Act

inductive Within : Act Cmd Reply → Act Cmd Reply → Prop where
  | refl (a : Act Cmd Reply) : Within a a
  | wrote {w w' : Report.Write} (h : w.Within w') : Within (.wrote w) (.wrote w')

instance : Std.Refl (Within : Act Cmd Reply → Act Cmd Reply → Prop) := ⟨.refl⟩

/-- All that the first acts do the second ones do, in the same order. -/
def Keeps : List (Act Cmd Reply) → List (Act Cmd Reply) → Prop := List.SublistForall₂ Within

def targets (acts : List (Act Cmd Reply)) : List (String × Option String) :=
  (acts.flatMap writes).map Report.Write.target

@[simp] theorem targets_nil : targets ([] : List (Act Cmd Reply)) = [] := rfl

@[simp] theorem targets_append (acts rest : List (Act Cmd Reply)) :
    targets (acts ++ rest) = targets acts ++ targets rest := by
  simp [targets]

@[simp] theorem targets_said (kind : EventKind) (text : String) (rest : List (Act Cmd Reply)) :
    targets (.said kind text :: rest) = targets rest := rfl

@[simp] theorem targets_wrote (w : Report.Write) (rest : List (Act Cmd Reply)) :
    targets (.wrote w :: rest) = w.target :: targets rest := rfl

@[simp] theorem targets_sent (c : Cmd) (reply : Except Fault Reply) (success : Bool)
    (rest : List (Act Cmd Reply)) : targets (.sent c reply success :: rest) = targets rest := rfl

@[simp] theorem targets_forgiven (c : FailureClass) (rest : List (Act Cmd Reply)) :
    targets (.forgiven c :: rest) = targets rest := rfl

@[simp] theorem targets_ite (c : Prop) [Decidable c] (acts acts' : List (Act Cmd Reply)) :
    targets (if c then acts else acts') = if c then targets acts else targets acts' := by
  split <;> rfl

@[simp] theorem targets_flatMap {ι : Type} (l : List ι) (g : ι → List (Act Cmd Reply)) :
    targets (l.flatMap g) = l.flatMap fun i => targets (g i) := by
  induction l with
  | nil => rfl
  | cons i l ih => rw [List.flatMap_cons, targets_append, ih, List.flatMap_cons]

namespace Keeps

variable {acts acts' rest rest' : List (Act Cmd Reply)}

theorem refl (acts : List (Act Cmd Reply)) : Keeps acts acts := List.SublistForall₂.is_refl.refl acts

theorem append (h : Keeps acts acts') (hrest : Keeps rest rest') : Keeps (acts ++ rest) (acts' ++ rest') := by
  obtain ⟨l, hl, hsub⟩ := List.sublistForall₂_iff.1 h
  obtain ⟨l', hl', hsub'⟩ := List.sublistForall₂_iff.1 hrest
  exact List.sublistForall₂_iff.2 ⟨l ++ l', List.rel_append hl hl', hsub.append hsub'⟩

/-- What is done on one condition is kept by what is done on a weaker one. -/
theorem ite {c d : Prop} [Decidable c] [Decidable d] (hcd : c → d) (h : c → Keeps acts acts') :
    Keeps (if c then acts else []) (if d then acts' else []) := by
  by_cases hc : c
  · rw [if_pos hc, if_pos (hcd hc)]
    exact h hc
  · rw [if_neg hc]
    exact .nil

theorem ite_same {c d : Prop} [Decidable c] [Decidable d] (hcd : c → d) :
    Keeps (if c then acts else []) (if d then acts else []) := ite hcd fun _ => refl acts

theorem sublist_events (name : Cmd → String) (trace : Bool) (h : Keeps acts acts') :
    (acts.flatMap (events name trace)).Sublist (acts'.flatMap (events name trace)) := by
  induction h with
  | nil => exact List.nil_sublist _
  | cons ha h ih =>
    simp only [List.flatMap_cons]
    cases ha with
    | refl => exact ih.append_left _
    | wrote => exact ih
  | cons_right h ih =>
    rw [List.flatMap_cons]
    exact ih.trans (List.sublist_append_right _ _)

theorem exists_within (h : Keeps acts acts') {w : Report.Write} (hw : w ∈ acts.flatMap writes) :
    ∃ w' ∈ acts'.flatMap writes, w.Within w' := by
  induction h with
  | nil => simp at hw
  | cons ha h ih =>
    rw [List.flatMap_cons, List.mem_append] at hw
    simp only [List.flatMap_cons, List.mem_append]
    obtain hw | hw := hw
    · cases ha with
      | refl => exact ⟨w, .inl hw, fun _ _ _ => id⟩
      | wrote hwithin =>
        obtain rfl := List.mem_singleton.1 hw
        exact ⟨_, .inl (List.mem_singleton_self _), hwithin⟩
    · obtain ⟨w', hmem, hwithin⟩ := ih hw
      exact ⟨w', .inr hmem, hwithin⟩
  | cons_right h ih =>
    obtain ⟨w', hmem, hwithin⟩ := ih hw
    exact ⟨w', by simp [hmem], hwithin⟩

theorem leafAt (h : Keeps acts acts') (ha : (targets acts').Pairwise Report.Apart) {key : String}
    {path : List Datum.Step} {leaf : Datum}
    (hleaf : ((acts.flatMap writes).foldl Report.apply {}).LeafAt key path leaf) :
    ((acts'.flatMap writes).foldl Report.apply {}).LeafAt key path leaf := by
  obtain ⟨w, hmem, hw⟩ | hnone := Report.leafAt_foldl _ hleaf
  · obtain ⟨w', hmem', hwithin⟩ := h.exists_within hmem
    exact Report.leafAt_foldl_of_pairwise ha hmem' (hwithin _ _ _ hw)
  · exact absurd hnone Report.not_leafAt_empty

end Keeps

end Act

end DriveHealth
