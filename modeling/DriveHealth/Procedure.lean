import DriveHealth.Fault
import DriveHealth.Recorder
set_option autoImplicit false

/-!
Procedures: what is done with a drive, as data. A procedure sends commands, writes text and report
entries, and decides by the replies how to go on. It cannot see the recorder, so nothing that was
written before can change what it does; and an excuse that is refused ends it on the spot.
-/

namespace DriveHealth

inductive Procedure (Cmd Reply α : Type) where
  | done (a : α)
  | say (kind : EventKind) (text : String) (next : Procedure Cmd Reply α)
  | record (w : Report.Write) (next : Procedure Cmd Reply α)
  /-- Sends a command. `accepts` tells a reply that counts as a success when commands are traced. -/
  | ask (c : Cmd) (accepts : Reply → Bool) (next : Except Fault Reply → Procedure Cmd Reply α)
  /-- Goes on only if the tolerance allows it. -/
  | excuse (c : FailureClass) (next : Procedure Cmd Reply α)

/-- A way to reach a drive. Its state `σ` may change with every command. -/
structure Channel (Cmd Reply σ : Type) where
  send : Cmd → σ → Except Fault Reply × σ

namespace Procedure

variable {Cmd Reply α β σ : Type}

def bind : Procedure Cmd Reply α → (α → Procedure Cmd Reply β) → Procedure Cmd Reply β
  | .done a, f => f a
  | .say kind text next, f => .say kind text (next.bind f)
  | .record w next, f => .record w (next.bind f)
  | .ask c accepts next, f => .ask c accepts fun r => (next r).bind f
  | .excuse c next, f => .excuse c (next.bind f)

instance : Monad (Procedure Cmd Reply) where
  pure := .done
  bind := bind

def print (text : String) : Procedure Cmd Reply Unit := .say .plain text (.done ())

def info (text : String) : Procedure Cmd Reply Unit := .say .info text (.done ())

def warn (text : String) : Procedure Cmd Reply Unit := .say .warning text (.done ())

/-- Writes an error and goes on only if the tolerance allows it. -/
def fail (c : FailureClass) (text : String) : Procedure Cmd Reply Unit :=
  .say .error text (.excuse c (.done ()))

def set (key : String) (value : Datum) : Procedure Cmd Reply Unit :=
  .record (.set key value) (.done ())

def setIn (key field : String) (value : Datum) : Procedure Cmd Reply Unit :=
  .record (.setIn key field value) (.done ())

def send (c : Cmd) : Procedure Cmd Reply (Except Fault Reply) :=
  .ask c (fun _ => true) .done

def unsupported (what : String) : Procedure Cmd Reply Unit :=
  info s!"{what} not supported by this build\n"

def traceLine (name : String) (success : Bool) : String :=
  let status := if success then "0" else "-1"
  s!"REPORT-IOCTL: {name} returned {status}\n"

/-- The outcome of a procedure: its result, unless an excuse was refused. -/
structure Outcome (α σ : Type) where
  result : Option α
  channel : σ
  recorder : Recorder

/-- Runs a procedure. Commands are traced by name if `trace` is set. -/
def run (ch : Channel Cmd Reply σ) (name : Cmd → String) (trace : Bool) :
    Procedure Cmd Reply α → σ → Recorder → Outcome α σ
  | .done a, s, r => ⟨some a, s, r⟩
  | .say kind text next, s, r => run ch name trace next s (r.emit kind text)
  | .record w next, s, r => run ch name trace next s (r.write w)
  | .ask c accepts next, s, r =>
    let (reply, s) := ch.send c s
    let success := match reply with
      | .ok x => accepts x
      | .error _ => false
    let r := if trace then r.emit .info (traceLine (name c) success) else r
    run ch name trace (next reply) s r
  | .excuse c next, s, r =>
    let (go, r) := r.excuse c
    if go then run ch name trace next s r else ⟨none, s, r⟩

end Procedure

end DriveHealth
