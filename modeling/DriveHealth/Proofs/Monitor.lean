import DriveHealth.Proofs.Always
set_option autoImplicit false

/-!
Monitors keep a state along the acts of a procedure and say which act may come next. What a monitor
demands is taken apart along the procedure, as is done for what holds always.
-/

namespace DriveHealth

structure Monitor (Cmd Reply κ : Type) where
  allows : κ → Act Cmd Reply → Prop
  after : κ → Act Cmd Reply → κ

variable {Cmd Reply α β κ σ : Type}

namespace Monitor

variable (m : Monitor Cmd Reply κ)

/-- Every act is allowed in the state that the acts before it lead to. -/
def Accepts : κ → List (Act Cmd Reply) → Prop
  | _, [] => True
  | q, a :: acts => m.allows q a ∧ Accepts (m.after q a) acts

def final (q : κ) (acts : List (Act Cmd Reply)) : κ := acts.foldl m.after q

structure Ignores (q : κ) (a : Act Cmd Reply) : Prop where
  allowed : m.allows q a
  unmoved : m.after q a = q

@[simp] theorem accepts_nil (q : κ) : m.Accepts q [] ↔ True := Iff.rfl

@[simp] theorem accepts_cons (q : κ) (a : Act Cmd Reply) (acts : List (Act Cmd Reply)) :
    m.Accepts q (a :: acts) ↔ m.allows q a ∧ m.Accepts (m.after q a) acts := Iff.rfl

@[simp] theorem final_nil (q : κ) : m.final q [] = q := rfl

@[simp] theorem final_cons (q : κ) (a : Act Cmd Reply) (acts : List (Act Cmd Reply)) :
    m.final q (a :: acts) = m.final (m.after q a) acts := rfl

theorem accepts_append {q : κ} {acts acts' : List (Act Cmd Reply)} :
    m.Accepts q (acts ++ acts') ↔ m.Accepts q acts ∧ m.Accepts (m.final q acts) acts' := by
  induction acts generalizing q with
  | nil => simp
  | cons a acts ih => simp [ih, and_assoc]

theorem final_append (q : κ) (acts acts' : List (Act Cmd Reply)) :
    m.final q (acts ++ acts') = m.final (m.final q acts) acts' := List.foldl_append

theorem Accepts.forall {m : Monitor Cmd Reply κ} {P : Act Cmd Reply → Prop}
    (hP : ∀ q a, m.allows q a → P a) {q : κ} {acts : List (Act Cmd Reply)} (h : m.Accepts q acts) :
    ∀ a ∈ acts, P a := by
  induction acts generalizing q with
  | nil => simp
  | cons a acts ih => exact List.forall_mem_cons.2 ⟨hP q a h.1, ih h.2⟩

end Monitor

namespace Procedure

variable {m : Monitor Cmd Reply κ} {q : κ} {Q Q' : κ → α → Prop}

/-- Whatever the replies, every act is allowed from state `q` on, and the last state and the result
satisfy `Q`. -/
def watched (m : Monitor Cmd Reply κ) : Procedure Cmd Reply α → κ → (κ → α → Prop) → Prop
  | .done a, q, Q => Q q a
  | .say kind text next, q, Q =>
    m.allows q (.said kind text) ∧ next.watched m (m.after q (.said kind text)) Q
  | .record w next, q, Q => m.allows q (.wrote w) ∧ next.watched m (m.after q (.wrote w)) Q
  | .ask c accepts next, q, Q =>
    ∀ reply, m.allows q (.sent c reply (succeeds accepts reply)) ∧
      (next reply).watched m (m.after q (.sent c reply (succeeds accepts reply))) Q
  | .excuse c next, q, Q =>
    m.allows q (.refused c) ∧ m.allows q (.forgiven c) ∧ next.watched m (m.after q (.forgiven c)) Q

theorem watched.mono {p : Procedure Cmd Reply α} (h : p.watched m q Q) (hQ : ∀ q a, Q q a → Q' q a) :
    p.watched m q Q' := by
  induction p generalizing q with
  | done a => exact hQ _ _ h
  | say kind text next ih => exact ⟨h.1, ih h.2⟩
  | record w next ih => exact ⟨h.1, ih h.2⟩
  | ask c accepts next ih => exact fun reply => ⟨(h reply).1, ih reply (h reply).2⟩
  | excuse c next ih => exact ⟨h.1, h.2.1, ih h.2.2⟩

theorem watched.course {p : Procedure Cmd Reply α} (h : p.watched m q Q) (ch : Channel Cmd Reply σ)
    (s : σ) (t : Tolerance) :
    m.Accepts q (p.course ch s t).acts ∧
      ∀ a, (p.course ch s t).result = some a → Q (m.final q (p.course ch s t).acts) a := by
  induction p generalizing q s t with
  | done a => exact ⟨trivial, fun b hb => by cases hb; exact h⟩
  | say kind text next ih => simpa [Procedure.course, h.1] using ih h.2 s t
  | record w next ih => simpa [Procedure.course, h.1] using ih h.2 s t
  | ask c accepts next ih =>
    have hr := h (ch.send c s).1
    simpa [Procedure.course, hr.1] using ih (ch.send c s).1 hr.2 (ch.send c s).2 t
  | excuse c next ih =>
    cases ht : t.spend c with
    | some u => simpa [Procedure.course, ht, h.2.1] using ih h.2.2 s u
    | none => simpa [Procedure.course, ht] using h.1

@[simp] theorem watched_pure (a : α) :
    (pure a : Procedure Cmd Reply α).watched m q Q ↔ Q q a := Iff.rfl

@[simp ↓] theorem watched_bind (p : Procedure Cmd Reply β) (f : β → Procedure Cmd Reply α) :
    (p >>= f).watched m q Q ↔ p.watched m q fun q b => (f b).watched m q Q := by
  show (p.bind f).watched m q Q ↔ _
  induction p generalizing q with
  | done a => rfl
  | say kind text next ih => exact and_congr_right fun _ => ih
  | record w next ih => exact and_congr_right fun _ => ih
  | ask c accepts next ih => exact forall_congr' fun reply => and_congr_right fun _ => ih reply
  | excuse c next ih => exact and_congr_right fun _ => and_congr_right fun _ => ih

@[simp ↓] theorem watched_ite (c : Prop) [Decidable c] (p p' : Procedure Cmd Reply α) :
    (if c then p else p').watched m q Q ↔ if c then p.watched m q Q else p'.watched m q Q := by
  split <;> rfl

theorem watched_send {c : Cmd} {Q : κ → Except Fault Reply → Prop} :
    (send c : Procedure Cmd Reply _).watched m q Q ↔
      ∀ reply, m.allows q (.sent c reply (succeeds (fun _ => true) reply)) ∧
        Q (m.after q (.sent c reply (succeeds (fun _ => true) reply))) reply := Iff.rfl

section

variable {Q : κ → Unit → Prop}

theorem watched_print (text : String) :
    (print text : Procedure Cmd Reply Unit).watched m q Q ↔
      m.allows q (.said .plain text) ∧ Q (m.after q (.said .plain text)) () := Iff.rfl

theorem watched_info (text : String) :
    (info text : Procedure Cmd Reply Unit).watched m q Q ↔
      m.allows q (.said .info text) ∧ Q (m.after q (.said .info text)) () := Iff.rfl

theorem watched_warn (text : String) :
    (warn text : Procedure Cmd Reply Unit).watched m q Q ↔
      m.allows q (.said .warning text) ∧ Q (m.after q (.said .warning text)) () := Iff.rfl

theorem watched_fail (c : FailureClass) (text : String) :
    (fail c text : Procedure Cmd Reply Unit).watched m q Q ↔
      m.allows q (.said .error text) ∧
        m.allows (m.after q (.said .error text)) (.refused c) ∧
        m.allows (m.after q (.said .error text)) (.forgiven c) ∧
        Q (m.after (m.after q (.said .error text)) (.forgiven c)) () := Iff.rfl

theorem watched_set (key : String) (value : Datum) :
    (set key value : Procedure Cmd Reply Unit).watched m q Q ↔
      m.allows q (.wrote (.set key value)) ∧ Q (m.after q (.wrote (.set key value))) () := Iff.rfl

theorem watched_iff {p : Procedure Cmd Reply Unit} (h : p.watched m q fun q' _ => q' = q) :
    p.watched m q Q ↔ Q q () := by
  refine ⟨fun hQ => ?_, fun hQ => h.mono fun q' _ hq => by rw [hq]; exact hQ⟩
  -- one path is enough, and any reply will do on it
  suffices hlast : ∀ q₀ : κ, (p.watched m q₀ fun q' _ => q' = q) → p.watched m q₀ Q → Q q () from
    hlast q h hQ
  clear h hQ
  intro q₀ h hQ
  induction p generalizing q₀ with
  | done a =>
    cases h
    exact hQ
  | say kind text next ih => exact ih _ h.2 hQ.2
  | record w next ih => exact ih _ h.2 hQ.2
  | ask c accepts next ih => exact ih (.error (.io "")) _ (h _).2 (hQ _).2
  | excuse c next ih => exact ih _ h.2.2 hQ.2.2

theorem watched_forM {ι : Type} {is : List ι} {f : ι → Procedure Cmd Reply Unit}
    (h : ∀ i ∈ is, (f i).watched m q fun q' _ => q' = q) : (forM is f).watched m q Q ↔ Q q () := by
  induction is with
  | nil => rfl
  | cons i is ih =>
    obtain ⟨hi, his⟩ := List.forall_mem_cons.1 h
    rw [List.forM_cons, watched_bind, watched_iff hi, ih his]

theorem watched_forM_print {ls : List String} (h : ∀ l ∈ ls, m.Ignores q (.said .plain l)) :
    (forM ls print : Procedure Cmd Reply Unit).watched m q Q ↔ Q q () :=
  watched_forM fun l hl => ⟨(h l hl).allowed, (h l hl).unmoved⟩

end

end Procedure

end DriveHealth
