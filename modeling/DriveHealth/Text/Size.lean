import DriveHealth.Text.Binary64
import DriveHealth.Text.Number
set_option autoImplicit false

namespace DriveHealth.Text

def scaleUnits : Binary64 → String → List String → Binary64 × String
  | x, unit, [] => (x, unit)
  | x, unit, next :: units =>
    if x.ge 1000 then scaleUnits (x.divNat 1000) next units else (x, unit)

/-- A byte count in the largest unit that leaves at least 1. Plain bytes and values from 100 on have
no decimals, values from 10 on one, and the others two. -/
def siSize (bytes : Nat) : String :=
  let (x, unit) := scaleUnits (.ofNat bytes) "B" ["KB", "MB", "GB", "TB", "PB", "EB"]
  let places := if unit = "B" || x.ge 100 then 0 else if x.ge 10 then 1 else 2
  s!"{x.fixed places} {unit}"

def capacity (bytes : Nat) : String := s!"{grouped bytes} bytes [{siSize bytes}]"

end DriveHealth.Text
