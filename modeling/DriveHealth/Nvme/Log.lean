import DriveHealth.Block
set_option autoImplicit false

namespace DriveHealth.Nvme

structure Health where
  criticalWarning : Nat
  kelvin : Nat
  spare : Nat
  spareThreshold : Nat
  used : Nat
  unitsRead : Nat
  unitsWritten : Nat
  hostReads : Nat
  hostWrites : Nat
  busyTime : Nat
  powerCycles : Nat
  powerOnHours : Nat
  unsafeShutdowns : Nat
  mediaErrors : Nat
  errorLogEntries : Nat
  warningMinutes : Nat
  criticalMinutes : Nat
  deriving DecidableEq, Repr

namespace Health

def ofBlock (b : Block 512) : Health where
  criticalWarning := b.byte 0
  kelvin := b.little 1 2
  spare := b.byte 3
  spareThreshold := b.byte 4
  used := b.byte 5
  unitsRead := b.little 32 16
  unitsWritten := b.little 48 16
  hostReads := b.little 64 16
  hostWrites := b.little 80 16
  busyTime := b.little 96 16
  powerCycles := b.little 112 16
  powerOnHours := b.little 128 16
  unsafeShutdowns := b.little 144 16
  mediaErrors := b.little 160 16
  errorLogEntries := b.little 176 16
  warningMinutes := b.little 192 4
  criticalMinutes := b.little 196 4

def decode (bs : List UInt8) : Except Fault Health :=
  return ofBlock (← Block.require 512 "SMART/Health log" bs)

def celsius (h : Health) : Int := (h.kelvin : Int) - 273

def passed (h : Health) : Bool := h.criticalWarning == 0

end Health

structure ErrorEntry where
  errorCount : Nat
  submissionQueue : Nat
  commandId : Nat
  status : Nat
  lba : Nat
  nsid : Nat
  deriving DecidableEq, Repr

namespace ErrorEntry

def size : Nat := 64

def ofBlock (b : Block 64) : ErrorEntry where
  errorCount := b.little 0 8
  submissionQueue := b.little 8 2
  commandId := b.little 10 2
  status := b.little 12 2
  lba := b.little 16 8
  nsid := b.little 24 4

/-- The entries of an error log that count an error. Octets after the last whole entry do not count. -/
def decodeAll (bs : List UInt8) : List ErrorEntry :=
  let b : Block (64 * (bs.length / 64)) := ⟨bs, Nat.mul_div_le bs.length 64⟩
  ((b.records 0 64 (bs.length / 64) (by simp)).map ofBlock).filter (·.errorCount != 0)

end ErrorEntry

structure SelfTest where
  code : Nat
  result : Nat
  powerOnHours : Nat
  failingLba : Option Nat
  deriving DecidableEq, Repr

namespace SelfTest

def describe (code : Nat) : String :=
  match code with
  | 0x1 => "Short"
  | 0x2 => "Extended"
  | 0xe => "Vendor specific"
  | _ => "Unknown"

def resultText (result : Nat) : String :=
  match result with
  | 0x0 => "Completed without error"
  | 0x1 => "Aborted: Self-test command"
  | 0x2 => "Aborted: Controller Reset"
  | 0x3 => "Aborted: Namespace removed"
  | 0x4 => "Aborted: Format NVM command"
  | 0x5 => "Fatal or unknown test error"
  | 0x6 => "Completed: unknown failed segment"
  | 0x7 => "Completed: failed segments"
  | 0x8 => "Aborted: unknown reason"
  | 0x9 => "Aborted: sanitize operation"
  | _ => "Unknown result"

/-- The address counts only if the entry says that it is valid. -/
def ofBlock (b : Block 28) : SelfTest where
  code := b.byte 0 / 16
  result := b.byte 0 % 16
  powerOnHours := b.little 4 8
  failingLba := if (b.byte 2).testBit 1 then some (b.little 16 8) else none

end SelfTest

structure SelfTestLog where
  operation : Nat
  completion : Nat
  results : List SelfTest
  deriving DecidableEq, Repr

namespace SelfTestLog

/-- Entries whose result is 15 are unused. -/
def decode (bs : List UInt8) : Except Fault SelfTestLog := do
  let b ← Block.require 564 "self-test log" bs
  return ⟨b.byte 0 % 16, b.byte 1 % 128,
    ((b.records 4 28 20).map SelfTest.ofBlock).filter (·.result != 15)⟩

end SelfTestLog

end DriveHealth.Nvme
