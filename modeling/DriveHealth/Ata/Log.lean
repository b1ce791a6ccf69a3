import DriveHealth.Ata.Taskfile
set_option autoImplicit false

namespace DriveHealth.Ata

structure ErrorCount where
  version : Nat
  count : Nat
  deriving DecidableEq, Repr

namespace ErrorCount

/-- The SMART log 01. -/
def decodeSummary (bs : List UInt8) : Except Fault ErrorCount := do
  let b ← Block.require 512 "summary error log" bs
  return ⟨b.byte 0, b.little 452 2⟩

/-- The GP log 03. -/
def decodeExt (bs : List UInt8) : Except Fault ErrorCount := do
  let b ← Block.require 512 "extended error log" bs
  return ⟨b.little 0 2, b.little 500 2⟩

end ErrorCount

structure Span where
  first : Nat
  last : Nat
  deriving DecidableEq, Repr

structure SelectiveLog where
  revision : Nat
  spans : List Span
  deriving DecidableEq, Repr

def SelectiveLog.decode (bs : List UInt8) : Except Fault SelectiveLog := do
  let b ← Block.require 512 "selective self-test log" bs
  return ⟨b.little 0 2, (b.records 2 16 5).map fun s => ⟨s.little 0 8, s.little 8 8⟩⟩

structure DirectoryEntry where
  address : Nat
  sectors : Nat
  deriving DecidableEq, Repr

structure LogDirectory where
  version : Nat
  entries : List DirectoryEntry
  deriving DecidableEq, Repr

/-- Word `a` of a directory is the size of the log at address `a`; logs of no sectors are not there. -/
def LogDirectory.decode (bs : List UInt8) : Except Fault LogDirectory := do
  let b ← Block.require 512 "log directory" bs
  let sizes := (b.records 2 2 255).mapIdx fun i w => (⟨i + 1, littleEndian w.octets⟩ : DirectoryEntry)
  return ⟨b.little 0 2, sizes.filter (·.sectors != 0)⟩

structure SctTemperatures where
  version : Nat
  current : Option Int
  cycleMin : Option Int
  cycleMax : Option Int
  lifeMin : Option Int
  lifeMax : Option Int
  deriving DecidableEq, Repr

namespace SctTemperatures

/-- A signed octet; the least one stands for an unknown temperature. -/
def degrees (n : Nat) : Option Int :=
  if n = 0x80 then none else some (if n < 0x80 then (n : Int) else (n : Int) - 256)

def decode (bs : List UInt8) : Except Fault SctTemperatures := do
  let b ← Block.require 512 "SCT status" bs
  return {
    version := b.little 0 2
    current := degrees (b.byte 200)
    cycleMin := degrees (b.byte 201)
    cycleMax := degrees (b.byte 202)
    lifeMin := degrees (b.byte 203)
    lifeMax := degrees (b.byte 204) }

end SctTemperatures

def decodeStatisticsPages (bs : List UInt8) : Except Fault (List Nat) := do
  let b ← Block.require 512 "device statistics" bs
  return ((b.slice 9 503).octets.take (b.byte 8)).map UInt8.toNat

def statisticsPageName (page : Nat) : String :=
  match page with
  | 0x00 => "List of supported log pages"
  | 0x01 => "General Statistics"
  | 0x02 => "Free-Fall Statistics"
  | 0x03 => "Rotating Media Statistics"
  | 0x04 => "General Errors Statistics"
  | 0x05 => "Temperature Statistics"
  | 0x06 => "Transport Statistics"
  | 0x07 => "Solid State Device Statistics"
  | _ => "Vendor Specific Statistics"

def decodePendingDefects (bs : List UInt8) : Except Fault Nat :=
  return (← Block.require 512 "pending defects log" bs).little 0 4

end DriveHealth.Ata
