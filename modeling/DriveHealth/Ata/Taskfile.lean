import DriveHealth.Block
set_option autoImplicit false

namespace DriveHealth.Ata

def sectorSize : Nat := 512

inductive Direction where
  | none
  | inward
  | outward
  deriving DecidableEq, Repr

structure Taskfile where
  command : UInt8
  features : UInt8 := 0
  sectorCount : UInt8 := 1
  lbaLow : UInt8 := 0
  lbaMid : UInt8 := 0
  lbaHigh : UInt8 := 0
  /-- A command with 48-bit addresses. -/
  extended : Bool := false
  direction : Direction := .inward
  dataOut : List UInt8 := []
  /-- Asks for the registers to be sent back. -/
  wantsRegisters : Bool := false
  deriving DecidableEq, Repr

namespace Taskfile

def identifyDevice : Taskfile := { command := 0xec }

def smart (feature : UInt8) : Taskfile :=
  { command := 0xb0, features := feature, lbaMid := 0x4f, lbaHigh := 0xc2 }

def smartReadData : Taskfile := smart 0xd0

def smartReadThresholds : Taskfile := smart 0xd1

def smartReadLog (address : UInt8) : Taskfile := { smart 0xd5 with lbaLow := address }

def smartWriteLog (address : UInt8) (sector : List UInt8) : Taskfile :=
  { smart 0xd6 with
    lbaLow := address, direction := .outward, dataOut := sector, wantsRegisters := true }

def smartReturnStatus : Taskfile :=
  { smart 0xda with sectorCount := 0, direction := .none, wantsRegisters := true }

def readLogExt (address page : UInt8) : Taskfile :=
  { command := 0x2f, lbaLow := address, lbaMid := page, extended := true }

def name (t : Taskfile) : String :=
  if t.command = 0xec then "IDENTIFY DEVICE"
  else if t.command = 0x2f then "READ LOG EXT"
  else if t.command = 0xb0 then
    if t.features = 0xd0 then "SMART READ DATA"
    else if t.features = 0xd1 then "SMART READ THRESHOLDS"
    else if t.features = 0xd5 then "SMART READ LOG"
    else if t.features = 0xd6 then "SMART WRITE LOG"
    else if t.features = 0xda then "SMART RETURN STATUS"
    else "ATA command"
  else "ATA command"

end Taskfile

structure Response where
  data : List UInt8 := []
  sectorCount : UInt8 := 0
  lbaMid : UInt8 := 0
  lbaHigh : UInt8 := 0
  deriving DecidableEq, Repr

namespace Response

def sector (r : Response) : Except Fault (List UInt8) :=
  if r.data.length < sectorSize then .error (.malformed (.shortSector r.data.length))
  else .ok (r.data.take sectorSize)

/-- The health verdict of SMART RETURN STATUS, if the registers hold one of its two signatures. -/
def smartPassed? (r : Response) : Option Bool :=
  if r.lbaMid = 0x4f ∧ r.lbaHigh = 0xc2 then some true
  else if r.lbaMid = 0xf4 ∧ r.lbaHigh = 0x2c then some false
  else none

end Response

/-- The request for the state of an SCT feature: action 4, function 2, then the feature code. -/
def sctStateRequest (feature : Nat) : List UInt8 :=
  (littleOctets 2 4 ++ littleOctets 2 2 ++ littleOctets 2 feature).rightpad sectorSize 0

end DriveHealth.Ata
