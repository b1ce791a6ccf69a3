import DriveHealth.Block
import DriveHealth.Text.Blank
import DriveHealth.Text.Utf8
set_option autoImplicit false

namespace DriveHealth.Scsi

structure Inquiry where
  peripheralType : Nat
  vendor : String
  product : String
  revision : String
  deriving DecidableEq, Repr

namespace Inquiry

def text (bs : List UInt8) : String :=
  String.ofList (Text.stripped Text.isBlank (Text.Utf8.decodeLossy bs))

def decode (bs : List UInt8) : Except Fault Inquiry :=
  match Block.ofOctets? 36 bs with
  | none => .error (.malformed (.shortInquiry bs.length))
  | some b => .ok {
      peripheralType := b.byte 0 % 32
      vendor := text (b.slice 8 8).octets
      product := text (b.slice 16 16).octets
      revision := text (b.slice 32 4).octets }

/-- Bridges in front of ATA disks give this vendor. -/
def isAta (i : Inquiry) : Bool := i.vendor == "ATA"

def typeName (i : Inquiry) : String :=
  match i.peripheralType with
  | 0x00 => "disk"
  | 0x01 => "tape"
  | 0x05 => "CD/DVD"
  | 0x07 => "optical disk"
  | 0x0d => "enclosure"
  | 0x14 => "host managed zoned block"
  | _ => "other"

end Inquiry

structure Capacity where
  blocks : Nat
  blockLength : Nat
  deriving DecidableEq, Repr

namespace Capacity

/-- The reply gives the last address, so there is one block more. -/
def decode (bs : List UInt8) : Except Fault Capacity :=
  match Block.ofOctets? 8 bs with
  | none => .error (.malformed .shortCapacity)
  | some b => .ok ⟨b.big 0 4 + 1, b.big 4 4⟩

def bytes (c : Capacity) : Nat := c.blocks * c.blockLength

end Capacity

end DriveHealth.Scsi
