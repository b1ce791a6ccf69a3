import DriveHealth.Ata.Taskfile
import DriveHealth.Text.Number
set_option autoImplicit false

namespace DriveHealth.Ata

structure SelfTest where
  type : Nat
  status : Nat
  hours : Nat
  /-- The first address that failed, if the test did not end well and tells one. -/
  failingLba : Option Nat
  deriving DecidableEq, Repr

namespace SelfTest

def describe (type : Nat) : String :=
  match type with
  | 0x00 => "Offline"
  | 0x01 => "Short offline"
  | 0x02 => "Extended offline"
  | 0x03 => "Conveyance offline"
  | 0x04 => "Selective offline"
  | 0x81 => "Short captive"
  | 0x82 => "Extended captive"
  | 0x83 => "Conveyance captive"
  | 0x84 => "Selective captive"
  | other => s!"Vendor (0x{Text.hex 2 other})"

def statusText (status : Nat) : String :=
  match status / 16 with
  | 0x0 => "Completed without error"
  | 0x1 => "Aborted by host"
  | 0x2 => "Interrupted (host reset)"
  | 0x3 => "Fatal or unknown error"
  | 0x4 => "Completed: unknown failure"
  | 0x5 => "Completed: electrical failure"
  | 0x6 => "Completed: servo/seek failure"
  | 0x7 => "Completed: read failure"
  | 0x8 => "Completed: handling damage??"
  | 0xf => "Self-test routine in progress"
  | _ => "Unknown status"

def remaining (status : Nat) : Nat := status % 16 * 10

def passed (t : SelfTest) : Bool := t.status / 16 == 0

/-- Decodes a descriptor whose address takes `width` octets; an address of all ones is none. -/
def ofBlock {n : Nat} (width : Nat) (b : Block n)
    (h : (5 + width).ble n := by exact Eq.refl true) : SelfTest :=
  let lba := b.little 5 width h
  let header := b.slice 0 5 (by
    have := Nat.le_of_ble_eq_true h
    simp only [Nat.ble_eq]
    omega)
  let status := header.byte 1
  { type := header.byte 0
    status
    hours := header.little 2 2
    failingLba := if lba ≠ (1 <<< (8 * width)) - 1 ∧ status / 16 ≠ 0 then some lba else none }

end SelfTest

/-- The slots of a ring from the newest back to the oldest, when the newest is number `newest` counted
from 1. A number that names no slot stands for an empty ring. -/
def newestFirst {α : Type} (slots : List α) (newest : Nat) : List α :=
  if newest = 0 ∨ slots.length < newest then []
  else (slots.take newest).reverse ++ (slots.drop newest).reverse

structure SelfTestLog where
  revision : Nat
  entries : List SelfTest
  deriving DecidableEq, Repr

namespace SelfTestLog

def used {n : Nat} (slots : List (Block n)) (newest : Nat) : List (Block n) :=
  (newestFirst slots newest).filter fun b => b.octets.any (· != 0)

/-- The SMART log 06: 21 descriptors of 24 octets, addresses of 32 bits. -/
def decode (bs : List UInt8) : Except Fault SelfTestLog := do
  let b ← Block.require 512 "self-test log" bs
  return ⟨b.little 0 2, (used (b.records 2 24 21) (b.byte 508)).map fun d => SelfTest.ofBlock 4 d⟩

/-- The first page of the GP log 07: 19 descriptors of 26 octets, addresses of 48 bits. -/
def decodeExt (bs : List UInt8) : Except Fault SelfTestLog := do
  let b ← Block.require 512 "extended self-test log" bs
  return ⟨b.byte 0, (used (b.records 4 26 19) (b.little 2 2)).map fun d => SelfTest.ofBlock 6 d⟩

end SelfTestLog

end DriveHealth.Ata
