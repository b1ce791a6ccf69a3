import DriveHealth.Proofs.Composition
set_option autoImplicit false

/-!
Routines have the drive and the recorder in their hands. A command is sent bare, and is traced only by a routine
that sees to it; a failure that is not forgiven stops nothing, but is an answer that whoever called the routine
may heed or not. A procedure leaves all this to `run`, and `Port.Does` tells the routines that do the same.
-/

namespace DriveHealth

abbrev Routine (σ α : Type) := StateM (σ × Recorder) α

/-- How the commands for a drive are sent, called, and chosen to be traced. -/
structure Port (Cmd Reply σ : Type) where
  channel : Channel Cmd Reply σ
  name : Cmd → String
  level : DebugLevels → Nat

namespace Routine

variable {Cmd Reply α β σ : Type}

def say (kind : EventKind) (text : String) : Routine σ Unit := modify fun (s, r) => (s, r.emit kind text)

def write (w : Report.Write) : Routine σ Unit := modify fun (s, r) => (s, r.write w)

/-- Whether a failure is forgiven. -/
def allow (c : FailureClass) : Routine σ Bool := fun (s, r) => ((r.excuse c).1, s, (r.excuse c).2)

def failed (c : FailureClass) (text : String) : Routine σ Bool := do
  say .error text
  allow c

/-- Writes what a procedure writes. There is no drive to answer its commands. -/
def present : Procedure Cmd Reply α → Routine σ α
  | .done a => pure a
  | .say kind text next => do
    say kind text
    present next
  | .record w next => do
    write w
    present next
  | .ask _ _ next => present (next (.error (.io "")))
  | .excuse _ next => present next

def presentIf (wanted : Prop) [Decidable wanted] (p : Procedure Cmd Reply Unit) : Routine σ Unit :=
  if wanted then present p else pure ()

/-- Goes on with the rest if the answer is yes. -/
def heed (answered : Routine σ Bool) (stopped : β) (rest : Routine σ β) : Routine σ β := do
  if ← answered then rest else return stopped

/-- A section that is not wanted stops nothing. -/
def heedIf (wanted : Prop) [Decidable wanted] (answered : Routine σ Bool) (stopped : β) (rest : Routine σ β) :
    Routine σ β :=
  heed (if wanted then answered else pure true) stopped rest

end Routine

namespace Port

variable {Cmd Reply α β γ σ : Type} (port : Port Cmd Reply σ)

def command (c : Cmd) : Routine σ (Except Fault Reply) := fun (s, r) =>
  ((port.channel.send c s).1, (port.channel.send c s).2, r)

def trace (name : String) (success : Bool) : Routine σ Unit := modify fun (s, r) =>
  (s, if port.level r.debug > 0 then r.emit .info (Procedure.traceLine name success) else r)

/-- Hands on the outcome of a command, traced if that is asked for. -/
def logged (name : String) (outcome : Except Fault α) : Routine σ (Except Fault α) := do
  port.trace name outcome.isOk
  return outcome

def issue (c : Cmd) : Routine σ (Except Fault Reply) := do
  let reply ← port.command c
  port.logged (port.name c) reply

/-- A procedure as a routine, stopped by the interpreter where a failure is not forgiven. -/
def carryOut (p : Procedure Cmd Reply α) : Routine σ (Option α) := fun (s, r) =>
  let out := p.run port.channel port.name (port.level r.debug > 0) s r
  (out.result, out.channel, out.recorder)

/-- The routine does what the procedure does, and answers with what is made of its result. -/
def Does (m : Routine σ β) (p : Procedure Cmd Reply α) (answer : Option α → β) : Prop :=
  m = answer <$> port.carryOut p

/-- The routine answers whether the procedure came to its end. -/
abbrev Says (m : Routine σ Bool) (p : Procedure Cmd Reply α) : Prop := port.Does m p Option.isSome

abbrev Ends (m : Routine σ Unit) (p : Procedure Cmd Reply α) : Prop := port.Does m p fun _ => ()

theorem carryOut_say (kind : EventKind) (text : String) (p : Procedure Cmd Reply α) :
    port.carryOut (.say kind text p) = Routine.say kind text >>= fun _ => port.carryOut p := rfl

theorem carryOut_record (w : Report.Write) (p : Procedure Cmd Reply α) :
    port.carryOut (.record w p) = Routine.write w >>= fun _ => port.carryOut p := rfl

theorem carryOut_ask (c : Cmd) (accepts : Reply → Bool) (next : Except Fault Reply → Procedure Cmd Reply α) :
    port.carryOut (.ask c accepts next) = port.command c >>= fun reply =>
      port.trace (port.name c) (Procedure.succeeds accepts reply) >>= fun _ => port.carryOut (next reply) := by
  funext ⟨s, r⟩
  show _ = port.carryOut (next (port.channel.send c s).1) ((port.channel.send c s).2,
    if port.level r.debug > 0 then
      r.emit .info (Procedure.traceLine (port.name c) (Procedure.succeeds accepts (port.channel.send c s).1))
    else r)
  by_cases h : port.level r.debug > 0
  · have hdebug (line : String) : port.level (r.emit .info line).debug > 0 := h
    simp only [carryOut, Procedure.run, h, hdebug, decide_true, if_true]
    rfl
  · simp only [carryOut, Procedure.run, h, decide_false, if_false]
    rfl

theorem carryOut_excuse (c : FailureClass) (p : Procedure Cmd Reply α) :
    port.carryOut (.excuse c p) = Routine.allow c >>= fun go => if go then port.carryOut p else pure none := by
  funext ⟨s, r⟩
  have hdebug : (r.excuse c).2.debug = r.debug := by
    rw [Recorder.excuse]
    cases r.tolerance.spend c <;> rfl
  show _ = (if (r.excuse c).1 then port.carryOut p else pure none) (s, (r.excuse c).2)
  cases hgo : (r.excuse c).1 with
  | true => simp only [carryOut, Procedure.run, hgo, hdebug, if_true]
  | false => simp only [carryOut, Procedure.run, hgo]; rfl

theorem bind_bind (p : Procedure Cmd Reply α) (f : α → Procedure Cmd Reply β) (g : β → Procedure Cmd Reply γ) :
    (p >>= f) >>= g = p >>= fun a => f a >>= g := by
  show (p.bind f).bind g = p.bind fun a => (f a).bind g
  induction p with
  | done a => rfl
  | say kind text next ih => rw [Procedure.bind, Procedure.bind, Procedure.bind, ih]
  | record w next ih => rw [Procedure.bind, Procedure.bind, Procedure.bind, ih]
  | ask c accepts next ih =>
    simp only [Procedure.bind]
    exact congrArg _ (funext ih)
  | excuse c next ih => rw [Procedure.bind, Procedure.bind, Procedure.bind, ih]

/-- What a routine goes on with after a procedure. -/
def further (f : α → Procedure Cmd Reply β) : Option α → Routine σ (Option β)
  | some a => port.carryOut (f a)
  | none => pure none

theorem carryOut_bind (p : Procedure Cmd Reply α) (f : α → Procedure Cmd Reply β) :
    port.carryOut (p >>= f) = port.carryOut p >>= port.further f := by
  show port.carryOut (p.bind f) = _
  induction p with
  | done a => rfl
  | say kind text next ih => rw [Procedure.bind, carryOut_say, carryOut_say, bind_assoc, ih]
  | record w next ih => rw [Procedure.bind, carryOut_record, carryOut_record, bind_assoc, ih]
  | ask c accepts next ih =>
    simp only [Procedure.bind, carryOut_ask, bind_assoc]
    exact bind_congr fun reply => bind_congr fun _ => ih reply
  | excuse c next ih =>
    simp only [Procedure.bind, carryOut_excuse, bind_assoc]
    refine bind_congr fun go => ?_
    cases go with
    | true => exact ih
    | false => rfl

theorem carryOut_writing {p : Procedure Cmd Reply α} (h : p.always Act.Writing fun _ => True) :
    port.carryOut p = some <$> Routine.present p := by
  induction p with
  | done a => rfl
  | say kind text next ih => rw [carryOut_say, ih h.2, Routine.present, map_bind]
  | record w next ih => rw [carryOut_record, ih h.2, Routine.present, map_bind]
  | ask c accepts next ih => exact absurd (h (.error (.io ""))).1 id
  | excuse c next ih => exact absurd h.1 id

section

variable {port : Port Cmd Reply σ} {answer : Option α → β}

theorem Ends.apply {m : Routine σ Unit} {p : Procedure Cmd Reply α} (h : port.Ends m p) (s : σ) (r : Recorder) :
    let out := p.run port.channel port.name (port.level r.debug > 0) s r
    m (s, r) = ((), out.channel, out.recorder) :=
  congrFun h (s, r)

theorem Does.say {kind : EventKind} {text : String} {m : Routine σ β} {p : Procedure Cmd Reply α}
    (h : port.Does m p answer) : port.Does (Routine.say kind text >>= fun _ => m) (.say kind text p) answer := by
  rw [Does, carryOut_say, map_bind, ← h]

theorem says_failed (c : FailureClass) (text : String) :
    port.Says (Routine.failed c text) (Procedure.fail c text : Procedure Cmd Reply Unit) := by
  refine Does.say ?_
  rw [Does, carryOut_excuse, map_bind]
  refine (bind_pure _).symm.trans (bind_congr fun go => ?_)
  cases go <;> rfl

theorem Does.present {p : Procedure Cmd Reply γ} (hp : p.always Act.Writing fun _ => True)
    {m : γ → Routine σ β} {f : γ → Procedure Cmd Reply α} (h : ∀ a, port.Does (m a) (f a) answer) :
    port.Does (Routine.present p >>= m) (p >>= f) answer := by
  rw [Does, carryOut_bind, carryOut_writing port hp, map_bind, bind_map_left]
  exact bind_congr h

theorem Does.presentIf {wanted : Prop} {_ : Decidable wanted} {p : Procedure Cmd Reply Unit}
    (hp : p.always Act.Writing fun _ => True) {m : Routine σ β} {q : Procedure Cmd Reply α}
    (h : port.Does m q answer) :
    port.Does (Routine.presentIf wanted p >>= fun _ => m) (if wanted then p >>= fun _ => q else q) answer := by
  by_cases hw : wanted
  · rw [Routine.presentIf, if_pos hw, if_pos hw]
    exact Does.present hp fun _ => h
  · rw [Routine.presentIf, if_neg hw, if_neg hw]
    exact h

theorem says_present {p : Procedure Cmd Reply α} (hp : p.always Act.Writing fun _ => True) :
    port.Says (Routine.present p >>= fun _ => pure true) p := by
  rw [Says, Does, carryOut_writing port hp, ← comp_map]
  rfl

theorem ends_present {p : Procedure Cmd Reply Unit} (hp : p.always Act.Writing fun _ => True) :
    port.Ends (Routine.present p) p := by
  rw [Ends, Does, carryOut_writing port hp, ← comp_map]
  exact (id_map _).symm

theorem Does.ask {c : Cmd} {accepts : Reply → Bool} {m : Except Fault Reply → Routine σ β}
    {next : Except Fault Reply → Procedure Cmd Reply α} (h : ∀ reply, port.Does (m reply) (next reply) answer) :
    port.Does (port.command c >>= fun reply =>
      port.trace (port.name c) (Procedure.succeeds accepts reply) >>= fun _ => m reply)
      (.ask c accepts next) answer := by
  rw [Does, carryOut_ask, map_bind]
  refine bind_congr fun reply => ?_
  rw [map_bind]
  exact bind_congr fun _ => h reply

/-- A command that is issued is sent and then traced by whether there was a reply. -/
theorem Does.issue {c : Cmd} {m : Except Fault Reply → Routine σ β}
    {f : Except Fault Reply → Procedure Cmd Reply α} (h : ∀ reply, port.Does (m reply) (f reply) answer) :
    port.Does (port.issue c >>= m) (Procedure.send c >>= f) answer := by
  have hissue : port.issue c >>= m = port.command c >>= fun reply =>
      port.trace (port.name c) (Procedure.succeeds (fun _ => true) reply) >>= fun _ => m reply := by
    simp only [Port.issue, Port.logged, bind_assoc, pure_bind]
    refine bind_congr fun reply => ?_
    cases reply <;> rfl
  rw [hissue]
  exact Does.ask h

theorem Does.ends {m : Routine σ Bool} {p : Procedure Cmd Reply Unit} (hm : port.Says m p) :
    port.Ends (m >>= fun _ => pure ()) p := by
  rw [Ends, Does, hm, bind_map_left]
  rfl

theorem Does.heed {m : Routine σ Bool} {p : Procedure Cmd Reply γ} (hm : port.Says m p) {rest : Routine σ β}
    {q : Procedure Cmd Reply α} (h : port.Does rest q answer) :
    port.Does (Routine.heed m (answer none) rest) (p >>= fun _ => q) answer := by
  rw [Does, Routine.heed, carryOut_bind, map_bind, hm, bind_map_left]
  refine bind_congr fun x => ?_
  cases x with
  | none => rfl
  | some _ => exact h

theorem Does.heedIf {wanted : Prop} [Decidable wanted] {m : Routine σ Bool} {p : Procedure Cmd Reply γ}
    (hm : port.Says m p) {rest : Routine σ β} {q : Procedure Cmd Reply α} (h : port.Does rest q answer) :
    port.Does (Routine.heedIf wanted m (answer none) rest) (if wanted then p >>= fun _ => q else q) answer := by
  by_cases hw : wanted
  · rw [Routine.heedIf, if_pos hw, if_pos hw]
    exact Does.heed hm h
  · rw [Routine.heedIf, if_neg hw, if_neg hw]
    exact h

section

variable {wanted : Prop} {_ : Decidable wanted} {m : Routine σ Bool} {p : Procedure Cmd Reply γ}
  {q : Procedure Cmd Reply α}

theorem Says.heedIf {rest : Routine σ Bool} (hm : port.Says m p) (h : port.Says rest q) :
    port.Says (Routine.heedIf wanted m false rest) (if wanted then p >>= fun _ => q else q) := Does.heedIf hm h

theorem Ends.heedIf {rest : Routine σ Unit} (hm : port.Says m p) (h : port.Ends rest q) :
    port.Ends (Routine.heedIf wanted m () rest) (if wanted then p >>= fun _ => q else q) := Does.heedIf hm h

end

end

end Port

end DriveHealth
