import DriveHealth.Ata.Sections
import DriveHealth.Ata.Taskfile
import DriveHealth.Procedure
set_option autoImplicit false

namespace DriveHealth.Ata

abbrev Exam (α : Type) := Procedure Taskfile Response α

namespace Exam

open Procedure

variable {α : Type}

def read (t : Taskfile) (decode : List UInt8 → Except Fault α) : Exam (Except Fault α) := do
  let reply ← send t
  return reply.bind fun r => r.sector.bind decode

def unread (what : String) (e : Fault) : Exam Unit :=
  fail .optional s!"Read {what} failed: {e.message}\n\n"

def show? (what : String) (t : Taskfile) (decode : List UInt8 → Except Fault α)
    (present : α → Exam Unit) : Exam Unit := do
  match ← read t decode with
  | .ok a => present a
  | .error e => unread what e

def onOff (on : Bool) : String := if on then "Enabled" else "Disabled"

end Exam

end DriveHealth.Ata
