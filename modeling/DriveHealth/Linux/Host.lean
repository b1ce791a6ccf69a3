import DriveHealth.Nvme.Command
import DriveHealth.Scsi.Sense
import DriveHealth.Text.Number
import DriveHealth.Text.Regex
set_option autoImplicit false

namespace DriveHealth.Linux

inductive Transfer where
  | none
  | inward (length : Nat)
  | outward (octets : List UInt8)
  deriving DecidableEq, Repr

/-- A SCSI command that was passed through. The device wrote the first `senseLength` octets of the
sense buffer. -/
structure Completion where
  status : Nat := 0
  hostStatus : Nat := 0
  driverStatus : Nat := 0
  senseBuffer : List UInt8 := []
  senseLength : Nat := 0
  data : List UInt8 := []
  deriving DecidableEq, Repr

namespace Completion

def sense (c : Completion) : List UInt8 := c.senseBuffer.take c.senseLength

/-- The driver had nothing to report, or only that there is sense data. -/
def driverOk (c : Completion) : Bool := c.driverStatus % 16 == 0 || c.driverStatus % 16 == 8

def statusText (c : Completion) : Option Scsi.Sense → String
  | some x =>
    s!"sense key 0x{Text.hex 1 x.key}, asc 0x{Text.hex 2 x.asc}, ascq 0x{Text.hex 2 x.ascq}"
  | none => s!"SCSI status 0x{Text.hex 2 c.status}"

/-- Accepts a command that succeeded. If registers of an ATA command were asked for, a bad status that
brings them is a success too. -/
def check (c : Completion) (wantsRegisters : Bool) : Except String Unit :=
  if c.hostStatus ≠ 0 then .error s!"host status 0x{Text.hex 4 c.hostStatus}"
  else if !c.driverOk then .error s!"driver status 0x{Text.hex 4 c.driverStatus}"
  else if c.status = 0 then .ok ()
  else
    let sense := Scsi.Sense.ofOctets? c.sense
    if wantsRegisters && sense.any Scsi.Sense.carriesAta then .ok () else .error (c.statusText sense)

end Completion

structure NvmeCompletion where
  status : Nat := 0
  data : List UInt8 := []
  deriving DecidableEq, Repr

structure Host (σ : Type) where
  hasDeviceDirectory : σ → Bool
  hasDriveDatabase : σ → Bool
  deviceFiles : σ → Except Fault (List String) × σ
  openFile : String → σ → Except Fault Unit × σ
  scsi : String → List UInt8 → Transfer → σ → Except Fault Completion × σ
  nvme : String → Nvme.Command → σ → Except Fault NvmeCompletion × σ
  regex : Text.Regex.Library

end DriveHealth.Linux
