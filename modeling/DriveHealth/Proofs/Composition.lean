import DriveHealth.Proofs.Always
import DriveHealth.Proofs.Script
set_option autoImplicit false

/-!
Courses of what is put together: one procedure and then another, and procedures that only write. The latter do
the same on every drive and under every tolerance.
-/

namespace DriveHealth

variable {Cmd Reply α β σ : Type}

def Act.Writing : Act Cmd Reply → Prop
  | .said _ _ => True
  | .wrote _ => True
  | _ => False

@[simp] theorem Act.writing_said (kind : EventKind) (text : String) :
    (Act.said kind text : Act Cmd Reply).Writing ↔ True := Iff.rfl

@[simp] theorem Act.writing_wrote (w : Report.Write) : (Act.wrote w : Act Cmd Reply).Writing ↔ True := Iff.rfl

/-- A course goes on with a second procedure, under the tolerance that is left, unless it was refused. -/
inductive Course.GoesOn (ch : Channel Cmd Reply σ) (g : α → Procedure Cmd Reply β) (k : Course Cmd Reply α σ) :
    Course Cmd Reply β σ → Prop where
  | refused (h : k.result = none) : k.GoesOn ch g ⟨k.acts, none, k.channel⟩
  | further {a : α} (h : k.result = some a) (u : Tolerance) :
    k.GoesOn ch g ⟨k.acts ++ ((g a).course ch k.channel u).acts, ((g a).course ch k.channel u).result,
      ((g a).course ch k.channel u).channel⟩

theorem Course.GoesOn.after {ch : Channel Cmd Reply σ} {g : α → Procedure Cmd Reply β}
    {k : Course Cmd Reply α σ} {k' : Course Cmd Reply β σ} (h : k.GoesOn ch g k') (a : Act Cmd Reply) :
    (k.after a).GoesOn ch g (k'.after a) := by
  cases h with
  | refused h => exact .refused (k := k.after a) h
  | further h u => exact .further (k := k.after a) h u

namespace Procedure

theorem course_bind (ch : Channel Cmd Reply σ) (p : Procedure Cmd Reply α) (g : α → Procedure Cmd Reply β)
    (s : σ) (t : Tolerance) : (p.course ch s t).GoesOn ch g ((p >>= g).course ch s t) := by
  show (p.course ch s t).GoesOn ch g ((p.bind g).course ch s t)
  induction p generalizing s t with
  | done a => exact .further (k := ⟨[], some a, s⟩) rfl t
  | say kind text next ih => exact (ih s t).after _
  | record w next ih => exact (ih s t).after _
  | ask c accepts next ih => exact (ih _ _ t).after _
  | excuse c next ih =>
    cases ht : t.spend c with
    | some u => simpa only [course, bind, ht] using (ih s u).after (.forgiven c)
    | none => simpa only [course, bind, ht] using .refused (k := ⟨[.refused c], none, s⟩) rfl

theorem always.script {p : Procedure Cmd Reply α} {P : Act Cmd Reply → Prop} {Q : α → Prop} (h : p.always P Q)
    (f : Cmd → Except Fault Reply) : ∀ a ∈ p.script f, P a := by
  induction p with
  | done a => exact List.forall_mem_nil _
  | say kind text next ih => exact List.forall_mem_cons.2 ⟨h.1, ih h.2⟩
  | record w next ih => exact List.forall_mem_cons.2 ⟨h.1, ih h.2⟩
  | ask c accepts next ih => exact List.forall_mem_cons.2 ⟨(h (f c)).1, ih _ (h (f c)).2⟩
  | excuse c next ih => exact List.forall_mem_cons.2 ⟨h.1, ih h.2.2⟩

/-- What only writes does what its script says, since the replies in the script do not matter. -/
theorem course_writing {p : Procedure Cmd Reply α} {Q : α → Prop} (h : p.always Act.Writing Q)
    (f : Cmd → Except Fault Reply) (ch : Channel Cmd Reply σ) (s : σ) (t : Tolerance) :
    p.course ch s t = ⟨p.script f, some (p.answer f), s⟩ := by
  induction p with
  | done a => rfl
  | say kind text next ih => exact congrArg (Course.after _) (ih h.2)
  | record w next ih => exact congrArg (Course.after _) (ih h.2)
  | ask c accepts next ih => exact absurd (h (.error (.io ""))).1 id
  | excuse c next ih => exact absurd h.1 id

theorem acts_writing {p : Procedure Cmd Reply α} {Q : α → Prop} (h : p.always Act.Writing Q)
    (f : Cmd → Except Fault Reply) (ch : Channel Cmd Reply σ) (s : σ) (t : Tolerance) :
    (p.course ch s t).acts = p.script f := by
  rw [course_writing h f]

theorem exchanges_writing {p : Procedure Cmd Reply α} {Q : α → Prop} (h : p.always Act.Writing Q)
    (ch : Channel Cmd Reply σ) (s : σ) (t : Tolerance) : (p.course ch s t).acts.flatMap Act.exchanges = [] := by
  refine List.flatMap_eq_nil_iff.2 fun a ha => ?_
  cases a with
  | said | wrote => rfl
  | _ => exact absurd ((h.course ch s t).1 _ ha) id

theorem acts_fail (c : FailureClass) (text : String) (ch : Channel Cmd Reply σ) (s : σ) (t : Tolerance) :
    ((fail c text).course ch s t).acts =
      [.said .error text, if (t.spend c).isSome then .forgiven c else .refused c] := by
  cases ht : t.spend c <;> simp [fail, course, ht]

end Procedure

theorem Report.get?_foldl_of_last {ws : List Report.Write} {key : String} {value : Datum}
    (h : ws.reverse.find? (·.key = key) = some (.set key value)) (r : Report) :
    (ws.foldl Report.apply r).get? key = some value := by
  rw [← List.foldr_reverse]
  generalize ws.reverse = latest at h ⊢
  induction latest with
  | nil => cases h
  | cons w latest ih =>
    by_cases hw : w.key = key
    · obtain rfl : w = .set key value := by simpa [hw] using h
      exact Report.get?_set_self _ key value
    · have h : latest.find? (·.key = key) = some (.set key value) := by simpa [hw] using h
      exact (Report.get?_apply_of_ne _ w (Ne.symm hw)).trans (ih h)

theorem Report.get?_foldl_of_ne {ws : List Report.Write} {key : String} (h : ∀ w ∈ ws, w.key ≠ key) (r : Report) :
    (ws.foldl Report.apply r).get? key = r.get? key := by
  induction ws generalizing r with
  | nil => rfl
  | cons w ws ih =>
    obtain ⟨hw, hws⟩ := List.forall_mem_cons.1 h
    exact (ih hws _).trans (Report.get?_apply_of_ne r w (Ne.symm hw))

theorem Report.get?_foldl_of_mem {ws : List Report.Write} (once : (ws.map Report.Write.key).Nodup) {key : String}
    {value : Datum} (h : .set key value ∈ ws) (r : Report) : (ws.foldl Report.apply r).get? key = some value := by
  induction ws generalizing r with
  | nil => cases h
  | cons w ws ih =>
    rw [List.map_cons, List.nodup_cons] at once
    obtain rfl | h := List.mem_cons.1 h
    · have hrest : ∀ w ∈ ws, w.key ≠ key := fun w hw hkey => once.1 (List.mem_map.2 ⟨w, hw, hkey⟩)
      exact (Report.get?_foldl_of_ne hrest _).trans (r.get?_set_self key value)
    · exact ih once.2 h _

theorem Act.mem_events {name : Cmd → String} {trace : Bool} {a : Act Cmd Reply} {e : Event}
    (he : e ∈ a.events name trace) : a = .said e.kind e.text ∨
      (∃ c reply success, a = .sent c reply success ∧ e = ⟨.info, Procedure.traceLine (name c) success⟩) ∨
      ∃ c, a = .refused c ∧ e = Event.refusal c := by
  cases a with
  | said kind text =>
    rw [events] at he
    split at he
    · cases he
    · exact .inl (by rw [List.mem_singleton.1 he])
  | sent c reply success =>
    rw [events] at he
    split at he
    · exact .inr (.inl ⟨c, reply, success, rfl, List.mem_singleton.1 he⟩)
    · cases he
  | refused c => exact .inr (.inr ⟨c, rfl, List.mem_singleton.1 he⟩)
  | wrote w => cases he
  | forgiven c => cases he

theorem Act.flatMap_events_said (name : Cmd → String) (trace : Bool) (kind : EventKind) {texts : List String}
    (h : ∀ text ∈ texts, text.isEmpty = false) :
    (texts.map (Act.said kind · : String → Act Cmd Reply)).flatMap (Act.events name trace) =
      texts.map (⟨kind, ·⟩) := by
  rw [List.flatMap_map, List.map_eq_flatMap]
  exact List.flatMap_congr fun text htext => by simp [Act.events, h text htext]

theorem Act.flatMap_writes_said (kind : EventKind) (texts : List String) :
    (texts.map (Act.said kind · : String → Act Cmd Reply)).flatMap Act.writes = [] := by
  simp [Act.writes]

namespace Procedure

variable (ch : Channel Cmd Reply σ) (name : Cmd → String) (trace : Bool) {p : Procedure Cmd Reply α} {s : σ}
  {r : Recorder} {acts : List (Act Cmd Reply)} (h : (p.course ch s r.tolerance).acts = acts)

include h

theorem events_run (shown : r.transcript.suppressed = false) :
    (p.run ch name trace s r).recorder.transcript.events =
      r.transcript.events ++ acts.flatMap (Act.events name trace) := by
  rw [run_eq_course, Act.events_performAll _ _ _ shown, h]

theorem report_run : (p.run ch name trace s r).recorder.report =
    (acts.flatMap Act.writes).foldl Report.apply r.report := by
  rw [run_eq_course, Act.report_performAll, h]

theorem mem_events_run (shown : r.transcript.suppressed = false) {kind : EventKind} {text : String}
    (hmem : .said kind text ∈ acts) (hne : text.isEmpty = false) :
    ⟨kind, text⟩ ∈ (p.run ch name trace s r).recorder.transcript.events := by
  rw [events_run ch name trace h shown]
  exact List.mem_append_right _ (List.mem_flatMap.2 ⟨_, hmem, by simp [Act.events, hne]⟩)

theorem get?_run {key : String} {value : Datum}
    (hlast : (acts.flatMap Act.writes).reverse.find? (·.key = key) = some (.set key value)) :
    (p.run ch name trace s r).recorder.report.get? key = some value := by
  rw [report_run ch name trace h]
  exact Report.get?_foldl_of_last hlast r.report

end Procedure

theorem Procedure.course_send_bind (c : Cmd) (g : Except Fault Reply → Procedure Cmd Reply β)
    (ch : Channel Cmd Reply σ) (s : σ) (t : Tolerance) :
    (send c >>= g).course ch s t =
      ((g (ch.send c s).1).course ch (ch.send c s).2 t).after
        (.sent c (ch.send c s).1 (succeeds (fun _ => true) (ch.send c s).1)) := rfl

theorem Ata.Exam.course_read_bind (f : Taskfile) (decode : List UInt8 → Except Fault α)
    (g : Except Fault α → Exam β) (ch : Channel Taskfile Response σ) (s : σ) (t : Tolerance) :
    (read f decode >>= g).course ch s t =
      ((g ((ch.send f s).1.bind fun r => r.sector.bind decode)).course ch (ch.send f s).2 t).after
        (.sent f (ch.send f s).1 (Procedure.succeeds (fun _ => true) (ch.send f s).1)) := rfl

theorem Scsi.Exam.course_read_bind (c : Command) (decode : List UInt8 → Except Fault α)
    (g : Except Fault α → Exam β) (ch : Channel Command (List UInt8) σ) (s : σ) (t : Tolerance) :
    (read c decode >>= g).course ch s t =
      ((g ((ch.send c s).1.bind decode)).course ch (ch.send c s).2 t).after
        (.sent c (ch.send c s).1 (Procedure.succeeds (fun _ => true) (ch.send c s).1)) := rfl

theorem Nvme.Exam.course_read_bind (c : Command) (decode : List UInt8 → Except Fault α)
    (g : Except Fault α → Exam β) (ch : Channel Command (List UInt8) σ) (s : σ) (t : Tolerance) :
    (read c decode >>= g).course ch s t =
      ((g ((ch.send c s).1.bind decode)).course ch (ch.send c s).2 t).after
        (.sent c (ch.send c s).1 (Procedure.succeeds (fun bs => (decode bs).isOk) (ch.send c s).1)) := rfl

end DriveHealth
