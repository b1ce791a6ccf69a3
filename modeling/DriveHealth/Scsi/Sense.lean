import DriveHealth.Ata.Taskfile
set_option autoImplicit false

namespace DriveHealth.Scsi

inductive SenseFormat where
  | fixed
  | descriptor
  deriving DecidableEq, Repr

/-- The format that the response code names; its top bit does not count. -/
def senseFormat? : List UInt8 → Option SenseFormat
  | [] => none
  | b :: _ =>
    let code := b &&& 0x7f
    if code = 0x70 ∨ code = 0x71 then some .fixed
    else if code = 0x72 ∨ code = 0x73 then some .descriptor
    else none

structure Sense where
  key : Nat
  asc : Nat
  ascq : Nat
  deriving DecidableEq, Repr

namespace Sense

def carriesAta (s : Sense) : Bool := s.key == 1 || (s.key == 0 && s.asc == 0 && s.ascq == 0x1d)

def ofOctets? (bs : List UInt8) : Option Sense := do
  match ← senseFormat? bs with
  | .fixed =>
    let b ← Block.ofOctets? 14 bs
    return ⟨b.byte 2 % 16, b.byte 12, b.byte 13⟩
  | .descriptor =>
    let b ← Block.ofOctets? 4 bs
    return ⟨b.byte 1 % 16, b.byte 2, b.byte 3⟩

end Sense

structure AtaRegisters where
  sectorCount : UInt8
  lbaMid : UInt8
  lbaHigh : UInt8
  deriving DecidableEq, Repr

namespace AtaRegisters

/-- Walks a list of descriptors, each a type, a length and that many octets. The first one of type 9
with 12 octets left holds the registers. -/
def inDescriptors (bs : List UInt8) : Option AtaRegisters :=
  match bs with
  | type :: len :: rest =>
    if h : type = 9 ∧ 12 ≤ bs.length then
      let b : Block 12 := ⟨bs, h.2⟩
      some ⟨b.octet 5, b.octet 9, b.octet 11⟩
    else inDescriptors (rest.drop len.toNat)
  | _ => none
termination_by bs.length
decreasing_by simp; omega

/-- In fixed format the registers are in the information fields; in descriptor format they are in
a descriptor of their own, within the additional length that octet 7 gives. -/
def ofSense? (bs : List UInt8) : Option AtaRegisters := do
  match ← senseFormat? bs with
  | .fixed =>
    let b ← Block.ofOctets? 12 bs
    return ⟨b.octet 6, b.octet 10, b.octet 9⟩
  | .descriptor =>
    let b ← Block.ofOctets? 8 bs
    inDescriptors ((bs.drop 8).take (b.byte 7))

end AtaRegisters

end DriveHealth.Scsi
