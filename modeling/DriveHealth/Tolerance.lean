import DriveHealth.Text.Blank
set_option autoImplicit false

namespace DriveHealth

inductive FailureClass where
  /-- A section of the output is lost. -/
  | optional
  /-- The rest of the output makes no sense. -/
  | mandatory
  deriving DecidableEq, Repr

def FailureClass.refusal : FailureClass → String
  | .optional => "An optional SMART command failed\n"
  | .mandatory => "ERROR: A mandatory SMART command failed.\n"

structure Tolerance where
  /-- Mandatory failures that may still be passed over. -/
  permissive : Nat := 0
  conservative : Bool := false
  deriving DecidableEq, Repr

/-- What is left after a failure, or `none` if the call has to end. -/
def Tolerance.spend (t : Tolerance) : FailureClass → Option Tolerance
  | .optional => if t.conservative then none else some t
  | .mandatory => if t.permissive = 0 then none else some { t with permissive := t.permissive - 1 }

inductive ToleranceMode where
  | normal
  | conservative
  | permissive
  | veryPermissive
  deriving DecidableEq, Repr

namespace ToleranceMode

def all : List ToleranceMode := [.normal, .conservative, .permissive, .veryPermissive]

def name : ToleranceMode → String
  | .normal => "normal"
  | .conservative => "conservative"
  | .permissive => "permissive"
  | .veryPermissive => "verypermissive"

def ofName? (s : String) : Option ToleranceMode := all.find? (·.name = s)

def parse? (s : String) : Option ToleranceMode :=
  ofName? (String.ofList ((Text.trim s).toList.map Char.toLower))

def tolerance : ToleranceMode → Tolerance
  | .normal => ⟨0, false⟩
  | .conservative => ⟨0, true⟩
  | .permissive => ⟨1, false⟩
  | .veryPermissive => ⟨255, false⟩

theorem ofName?_name (m : ToleranceMode) : ofName? m.name = some m := by cases m <;> decide

end ToleranceMode

end DriveHealth
