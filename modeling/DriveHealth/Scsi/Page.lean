import DriveHealth.Block
import DriveHealth.Text.Number
set_option autoImplicit false

namespace DriveHealth.Scsi

structure Exceptions where
  asc : Nat
  ascq : Nat
  temperature : Option Nat
  deriving DecidableEq, Repr

namespace Exceptions

/-- A temperature is there if the parameter has at least three octets; 0 and 255 stand for none. -/
def decode (bs : List UInt8) : Except Fault Exceptions :=
  match Block.ofOctets? 10 bs with
  | none => .error (.malformed .malformedExceptions)
  | some b =>
    if b.byte 0 % 64 = 0x2f then
      let temperature := do
        let b ← Block.ofOctets? 11 bs
        if 3 ≤ b.byte 7 ∧ b.byte 10 ≠ 0 ∧ b.byte 10 ≠ 0xff then some (b.byte 10) else none
      .ok ⟨b.byte 8, b.byte 9, temperature⟩
    else .error (.malformed .malformedExceptions)

def passed (e : Exceptions) : Bool := e.asc == 0

def statusText (e : Exceptions) : String :=
  if e.asc = 0 then "OK"
  else if e.asc = 0x5d ∧ e.ascq = 0xff then
    "FAILURE PREDICTION THRESHOLD EXCEEDED (false positive test)"
  else if e.asc = 0x5d then "FAILURE PREDICTION THRESHOLD EXCEEDED"
  else if e.asc = 0x0b ∧ e.ascq = 0x01 then "WARNING - SPECIFIED TEMPERATURE EXCEEDED"
  else s!"FAILURE PREDICTION (asc=0x{Text.hex 2 e.asc}, ascq=0x{Text.hex 2 e.ascq})"

end Exceptions

structure Caching where
  writeCacheEnabled : Bool
  readCacheDisabled : Bool
  deriving DecidableEq, Repr

namespace Caching

/-- The page follows a header of 8 octets and the block descriptors, whose length the header gives. -/
def decode (bs : List UInt8) : Except Fault Caching :=
  match Block.ofOctets? 8 bs with
  | none => .error (.malformed .shortModeSense)
  | some header =>
    match Block.ofOctets? 3 (bs.drop (8 + header.big 6 2)) with
    | none => .error (.malformed .noCachingPage)
    | some page =>
      if page.byte 0 % 64 = 0x08 then
        .ok ⟨(page.byte 2).testBit 2, (page.byte 2).testBit 0⟩
      else .error (.malformed .noCachingPage)

end Caching

end DriveHealth.Scsi
