import DriveHealth.Text.Line
set_option autoImplicit false

namespace DriveHealth

inductive EventKind where
  | plain
  | json
  | info
  | warning
  | error
  deriving DecidableEq, Repr

structure Event where
  kind : EventKind
  text : String
  deriving DecidableEq, Repr

def Event.joined (es : List Event) : List Char := es.flatMap (·.text.toList)

def Event.render (es : List Event) : List String :=
  (Text.filledLines (Event.joined es)).map String.ofList

structure Transcript where
  events : List Event := []
  suppressed : Bool := false
  deriving DecidableEq, Repr

namespace Transcript

def isEmpty (t : Transcript) : Bool := t.events.isEmpty

def emit (kind : EventKind) (text : String) (t : Transcript) : Transcript :=
  if t.suppressed || text.isEmpty then t else { t with events := t.events ++ [⟨kind, text⟩] }

def suppress (on : Bool) (t : Transcript) : Transcript := { t with suppressed := on }

def switch (on : Bool) (t : Transcript) : Bool × Transcript := (t.suppressed, t.suppress on)

def clear (t : Transcript) : Transcript := { t with events := [] }

def lines (t : Transcript) : List String := Event.render t.events

def drain (t : Transcript) : List String × Transcript := (t.lines, t.clear)

@[simp] theorem events_clear (t : Transcript) : t.clear.events = [] := rfl

@[simp] theorem suppressed_clear (t : Transcript) : t.clear.suppressed = t.suppressed := rfl

@[simp] theorem suppressed_emit (kind : EventKind) (text : String) (t : Transcript) :
    (t.emit kind text).suppressed = t.suppressed := by
  unfold emit; split <;> rfl

theorem events_emit (kind : EventKind) (text : String) (t : Transcript) :
    (t.emit kind text).events =
      t.events ++ if t.suppressed || text.isEmpty then [] else [⟨kind, text⟩] := by
  unfold emit; split <;> simp [*]

end Transcript

end DriveHealth
