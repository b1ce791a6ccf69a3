set_option autoImplicit false

/-!
UTF-8, read one octet at a time. Where the octets are ill-formed, the longest start of a
character that was read so far counts as one error, and reading goes on with the octet that broke
it off.
-/

namespace DriveHealth.Text.Utf8

/-- A character part way through: the octets it still lacks, the range of the next one, and the
bits collected so far. -/
structure Pending where
  owed : Nat
  low : Nat
  high : Nat
  bits : Nat
  deriving DecidableEq, Repr

/-- Reads the first octet of a character: what it completes, and what it leaves pending. The ranges
of the second octet keep out overlong forms, surrogates and what lies above U+10FFFF. -/
def start (b : Nat) : List (Option Char) × Option Pending :=
  if b ≤ 0x7f then ([some (Char.ofNat b)], none)
  else if 0xc2 ≤ b ∧ b ≤ 0xdf then ([], some ⟨1, 0x80, 0xbf, b - 0xc0⟩)
  else if b = 0xe0 then ([], some ⟨2, 0xa0, 0xbf, b - 0xe0⟩)
  else if b = 0xed then ([], some ⟨2, 0x80, 0x9f, b - 0xe0⟩)
  else if 0xe1 ≤ b ∧ b ≤ 0xef then ([], some ⟨2, 0x80, 0xbf, b - 0xe0⟩)
  else if b = 0xf0 then ([], some ⟨3, 0x90, 0xbf, b - 0xf0⟩)
  else if b = 0xf4 then ([], some ⟨3, 0x80, 0x8f, b - 0xf0⟩)
  else if 0xf1 ≤ b ∧ b ≤ 0xf3 then ([], some ⟨3, 0x80, 0xbf, b - 0xf0⟩)
  else ([none], none)

/-- Reads one octet. An octet that cannot go on with the pending character ends it as an error and
is read again as a first octet. -/
def step : Option Pending → Nat → List (Option Char) × Option Pending
  | none, b => start b
  | some p, b =>
    if p.low ≤ b ∧ b ≤ p.high then
      let bits := p.bits * 64 + (b - 0x80)
      if p.owed ≤ 1 then ([some (Char.ofNat bits)], none)
      else ([], some ⟨p.owed - 1, 0x80, 0xbf, bits⟩)
    else (none :: (start b).1, (start b).2)

def characters : Option Pending → List UInt8 → List (Option Char)
  | none, [] => []
  | some _, [] => [none]
  | p, b :: bs => (step p b.toNat).1 ++ characters (step p b.toNat).2 bs

/-- Reads octets as text, with U+FFFD in the place of each error. -/
def decodeLossy (bs : List UInt8) : List Char :=
  (characters none bs).map (·.getD '\uFFFD')

def decode? (bs : List UInt8) : Option (List Char) := (characters none bs).mapM id

end DriveHealth.Text.Utf8
