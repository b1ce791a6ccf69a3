import DriveHealth.Proofs.Course
set_option autoImplicit false

/-!
Rehearsals: what a procedure would send if it were never refused and each command had one fixed answer.
A course that sends no command twice follows the rehearsal with its own replies for as long as it goes on.
-/

namespace DriveHealth

/-- The replies in a log, by command; the first one if there are several. -/
def replies {Cmd Reply : Type} [DecidableEq Cmd] (log : List (Cmd × Except Fault Reply)) (c : Cmd) :
    Except Fault Reply :=
  (log.lookup c).getD (.error (.io "not sent"))

theorem replies_of_mem {Cmd Reply : Type} [DecidableEq Cmd] {log : List (Cmd × Except Fault Reply)}
    (once : (log.map (·.1)).Nodup) : ∀ x ∈ log, replies log x.1 = x.2 := by
  induction log with
  | nil => simp
  | cons y log ih =>
    obtain ⟨c, reply⟩ := y
    rw [List.map_cons, List.nodup_cons] at once
    intro x hx
    obtain rfl | hx := List.mem_cons.1 hx
    · simp [replies]
    · have hne : (x.1 == c) = false :=
        beq_eq_false_iff_ne.2 fun h => once.1 (List.mem_map.2 ⟨x, hx, h⟩)
      rw [← ih once.2 x hx, replies, replies, List.lookup_cons, hne]

theorem mem_of_replies_eq_ok {Cmd Reply : Type} [DecidableEq Cmd] {log : List (Cmd × Except Fault Reply)} {c : Cmd}
    {a : Reply} (h : replies log c = .ok a) : (c, .ok a) ∈ log := by
  rw [replies] at h
  cases hlog : log.lookup c with
  | none => simp [hlog] at h
  | some reply =>
    obtain rfl : reply = .ok a := by simpa [hlog] using h
    obtain ⟨before, after, rfl, -⟩ := List.lookup_eq_some_iff.1 hlog
    simp

namespace Procedure

variable {Cmd Reply α β σ : Type} (f : Cmd → Except Fault Reply)

def answer : Procedure Cmd Reply α → α
  | .done a => a
  | .say _ _ next => next.answer
  | .record _ next => next.answer
  | .ask c _ next => (next (f c)).answer
  | .excuse _ next => next.answer

def commands : Procedure Cmd Reply α → List Cmd
  | .done _ => []
  | .say _ _ next => next.commands
  | .record _ next => next.commands
  | .ask c _ next => c :: (next (f c)).commands
  | .excuse _ next => next.commands

@[simp] theorem answer_pure (a : α) : (pure a : Procedure Cmd Reply α).answer f = a := rfl

@[simp] theorem answer_bind (p : Procedure Cmd Reply α) (g : α → Procedure Cmd Reply β) :
    (p >>= g).answer f = (g (p.answer f)).answer f := by
  show (p.bind g).answer f = _
  induction p with
  | done a => rfl
  | say kind text next ih => exact ih
  | record w next ih => exact ih
  | ask c accepts next ih => exact ih (f c)
  | excuse c next ih => exact ih

@[simp] theorem answer_send (c : Cmd) : (send c).answer f = f c := rfl

@[simp] theorem commands_pure (a : α) : (pure a : Procedure Cmd Reply α).commands f = [] := rfl

@[simp] theorem commands_bind (p : Procedure Cmd Reply α) (g : α → Procedure Cmd Reply β) :
    (p >>= g).commands f = p.commands f ++ (g (p.answer f)).commands f := by
  show (p.bind g).commands f = _
  induction p with
  | done a => rfl
  | say kind text next ih => exact ih
  | record w next ih => exact ih
  | ask c accepts next ih => exact congrArg (c :: ·) (ih (f c))
  | excuse c next ih => exact ih

@[simp] theorem commands_ite (c : Prop) [Decidable c] (p q : Procedure Cmd Reply α) :
    (if c then p else q).commands f = if c then p.commands f else q.commands f := by
  split <;> rfl

@[simp] theorem commands_print (text : String) :
    (print text : Procedure Cmd Reply Unit).commands f = [] := rfl

@[simp] theorem commands_info (text : String) :
    (info text : Procedure Cmd Reply Unit).commands f = [] := rfl

@[simp] theorem commands_warn (text : String) :
    (warn text : Procedure Cmd Reply Unit).commands f = [] := rfl

@[simp] theorem commands_fail (c : FailureClass) (text : String) :
    (fail c text : Procedure Cmd Reply Unit).commands f = [] := rfl

@[simp] theorem commands_set (key : String) (value : Datum) :
    (set key value : Procedure Cmd Reply Unit).commands f = [] := rfl

@[simp] theorem commands_setIn (key field : String) (value : Datum) :
    (setIn key field value : Procedure Cmd Reply Unit).commands f = [] := rfl

@[simp] theorem commands_send (c : Cmd) : (send c).commands f = [c] := rfl

@[simp] theorem commands_forM {ι : Type} (g : ι → Procedure Cmd Reply Unit) (l : List ι) :
    (forM l g).commands f = l.flatMap fun i => (g i).commands f := by
  induction l with
  | nil => rfl
  | cons i l ih => rw [List.forM_cons, commands_bind, ih, List.flatMap_cons]

/-- A course follows the rehearsal with its own replies, to the end if it is not refused. -/
theorem course_commands (ch : Channel Cmd Reply σ) (p : Procedure Cmd Reply α) (s : σ) (t : Tolerance)
    (agree : ∀ x ∈ (p.course ch s t).acts.flatMap Act.exchanges, f x.1 = x.2) :
    ((p.course ch s t).acts.flatMap Act.exchanges).map (·.1) <+: p.commands f ∧
      ((p.course ch s t).result.isSome →
        ((p.course ch s t).acts.flatMap Act.exchanges).map (·.1) = p.commands f) := by
  induction p generalizing s t with
  | done a => simp [course, commands]
  | say kind text next ih => exact ih s t agree
  | record w next ih => exact ih s t agree
  | ask c accepts next ih =>
    have hc : f c = (ch.send c s).1 := agree (c, (ch.send c s).1) (by simp [course, Act.exchanges])
    have hrest : ∀ x ∈ ((next (ch.send c s).1).course ch (ch.send c s).2 t).acts.flatMap Act.exchanges,
        f x.1 = x.2 := fun x hx => agree x (by
      simp only [course, Course.acts_after, List.flatMap_cons]
      exact List.mem_append_right _ hx)
    obtain ⟨hp, he⟩ := ih (ch.send c s).1 (ch.send c s).2 t hrest
    simp only [course, Course.acts_after, Course.result_after, List.flatMap_cons, Act.exchanges, commands,
      hc, List.map_cons, List.singleton_append]
    exact ⟨by simpa using hp, fun hr => congrArg (c :: ·) (he hr)⟩
  | excuse c next ih =>
    cases ht : t.spend c with
    | some u =>
      simp only [course, ht] at agree ⊢
      exact ih s u agree
    | none => simp [course, ht, Act.exchanges]

theorem nodup_commands_course [DecidableEq Cmd] (ch : Channel Cmd Reply σ) (p : Procedure Cmd Reply α)
    (s : σ) (t : Tolerance) (before : List (Cmd × Except Fault Reply))
    (once : (before.map (·.1)).Nodup)
    (h : ∀ f : Cmd → Except Fault Reply, (∀ x ∈ before, f x.1 = x.2) →
      (before.map (·.1) ++ p.commands f).Nodup) :
    (before.map (·.1) ++ ((p.course ch s t).acts.flatMap Act.exchanges).map (·.1)).Nodup := by
  -- the induction carries the exchanges so far: rehearsals that agree with them repeat none of them
  induction p generalizing s t before with
  | done a => simpa [course] using once
  | say kind text next ih => exact ih s t before once h
  | record w next ih => exact ih s t before once h
  | ask c accepts next ih =>
    have hc : (before.map (·.1) ++ [c]).Nodup :=
      (h (replies before) (replies_of_mem once)).sublist
        (List.Sublist.append_left (by simp [commands]) _)
    have hf : ∀ f : Cmd → Except Fault Reply, (∀ x ∈ before ++ [(c, (ch.send c s).1)], f x.1 = x.2) →
        ((before ++ [(c, (ch.send c s).1)]).map (·.1) ++ (next (ch.send c s).1).commands f).Nodup := by
      intro f hf
      have hfc : f c = (ch.send c s).1 := hf (c, _) (by simp)
      have hall := h f fun x hx => hf x (List.mem_append_left _ hx)
      simpa [commands, hfc] using hall
    have hnext := ih (ch.send c s).1 (ch.send c s).2 t (before ++ [(c, (ch.send c s).1)])
      (by simpa using hc) hf
    simpa [course, Act.exchanges] using hnext
  | excuse c next ih =>
    cases ht : t.spend c with
    | some u => simpa [course, ht, Act.exchanges] using ih s u before once h
    | none => simpa [course, ht, Act.exchanges] using once

end Procedure

end DriveHealth
