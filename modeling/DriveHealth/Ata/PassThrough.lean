import DriveHealth.Ata.Taskfile
set_option autoImplicit false

namespace DriveHealth.Ata

def Direction.protocolCode : Direction → UInt8
  | .none => 3
  | .inward => 4
  | .outward => 5

def Direction.transferFlags : Direction → UInt8
  | .none => 0
  | .inward => 0x08 ||| 0x04 ||| 0x02
  | .outward => 0x04 ||| 0x02

def Taskfile.passThrough (t : Taskfile) : List UInt8 :=
  [0x85,
    (t.direction.protocolCode <<< 1) ||| (if t.extended then 1 else 0),
    (if t.wantsRegisters then 0x20 else 0) ||| t.direction.transferFlags,
    0, t.features, 0, t.sectorCount, 0, t.lbaLow, 0, t.lbaMid, 0, t.lbaHigh, 0, t.command, 0]

end DriveHealth.Ata
