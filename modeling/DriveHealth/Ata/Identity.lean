import DriveHealth.Ata.Taskfile
import DriveHealth.Text.Blank
set_option autoImplicit false

namespace DriveHealth.Ata

structure Identity where
  words : List Nat
  length_words : words.length = 256

namespace Identity

def ofBlock (b : Block 512) : Identity where
  words := (b.records 0 2 256).map fun w => littleEndian w.octets
  length_words := by rw [List.length_map, Block.length_records]

def decode (bs : List UInt8) : Except Fault Identity :=
  return ofBlock (← Block.require 512 "IDENTIFY DEVICE" bs)

def word (id : Identity) (i : Nat) (h : i.blt 256 := by exact Eq.refl true) : Nat :=
  id.words.get ⟨i, id.length_words ▸ Nat.le_of_ble_eq_true h⟩

def bit (id : Identity) (i k : Nat) (h : i.blt 256 := by exact Eq.refl true) : Bool :=
  (id.word i h).testBit k

/-- Words of all zeros or all ones report nothing. -/
def reports (w : Nat) : Bool := w != 0 && w != 0xffff

/-- The two octets of a word in the order in which text is stored: the high one first. -/
def wordOctets (w : Nat) : List Nat := [w / 256 % 256, w % 256]

/-- Text in some of the words, one Latin-1 character an octet, without blanks around it. -/
def textOf (ws : List Nat) : String :=
  String.ofList (Text.stripped Text.isBlank ((ws.flatMap wordOctets).map Char.ofNat))

def range (id : Identity) (start stop : Nat) : List Nat := (id.words.drop start).take (stop - start)

def serial (id : Identity) : String := textOf (id.range 10 20)

def firmware (id : Identity) : String := textOf (id.range 23 27)

def model (id : Identity) : String := textOf (id.range 27 47)

def number (ws : List Nat) : Nat := ws.foldr (fun w n => w + 65536 * n) 0

def hasLba48 (id : Identity) : Bool := id.bit 83 10

def sectors (id : Identity) : Nat :=
  if id.hasLba48 then number (id.range 100 104) else number (id.range 60 62)

/-- Words 117 and 118 count words of 16 bits, if word 106 is valid and says that they hold. A size that is
no multiple of 512 from 512 to 65536 is not believed. -/
def logicalSectorSize (id : Identity) : Nat :=
  let size := 2 * number (id.range 117 119)
  if id.bit 106 14 && !id.bit 106 15 && id.bit 106 12 && 512 ≤ size && size ≤ 65536 && size % 512 == 0
  then size else 512

def capacityBytes (id : Identity) : Nat := min 0xffffffffffffffff (id.sectors * id.logicalSectorSize)

/-- Revolutions per minute; 0 for a solid state device. -/
def rotationRate? (id : Identity) : Option Nat :=
  let w := id.word 217
  if w = 1 then some 0 else if 0x401 ≤ w ∧ w ≤ 0xfffe then some w else none

def smartSupported (id : Identity) : Bool := id.bit 82 0

def smartEnabled (id : Identity) : Bool := id.bit 85 0

def sctFeatureControl (id : Identity) : Bool := id.bit 206 0 && id.bit 206 4

def gpLogging (id : Identity) : Bool := id.bit 84 5

/-- Whether all octets add up to zero, if the last word has the signature of a checksum. -/
def checksumOk? (id : Identity) : Option Bool :=
  if id.word 255 % 256 = 0xa5 then some ((id.words.flatMap wordOctets).foldl (· + ·) 0 % 256 == 0) else none

def describe? (i : Nat) : Option String :=
  if i = 0 then some "General configuration"
  else if 10 ≤ i ∧ i ≤ 19 then some "Serial number"
  else if 23 ≤ i ∧ i ≤ 26 then some "Firmware revision"
  else if 27 ≤ i ∧ i ≤ 46 then some "Model number"
  else if i = 47 then some "Max sectors per DRQ block"
  else if i = 49 then some "Capabilities"
  else if 60 ≤ i ∧ i ≤ 61 then some "Total addressable sectors (28-bit)"
  else if i = 75 then some "Queue depth"
  else if i = 76 then some "Serial ATA capabilities"
  else if i = 80 then some "Major version number"
  else if i = 81 then some "Minor version number"
  else if 82 ≤ i ∧ i ≤ 84 then some "Commands and feature sets supported"
  else if 85 ≤ i ∧ i ≤ 87 then some "Commands and feature sets enabled"
  else if i = 91 then some "Current APM level"
  else if i = 94 then some "Current AAM level"
  else if 100 ≤ i ∧ i ≤ 103 then some "Total addressable sectors (48-bit)"
  else if i = 106 then some "Physical/logical sector size"
  else if 117 ≤ i ∧ i ≤ 118 then some "Logical sector size"
  else if i = 119 then some "Commands and feature sets supported (cont.)"
  else if i = 120 then some "Commands and feature sets enabled (cont.)"
  else if i = 128 then some "Security status"
  else if i = 206 then some "SCT Command Transport"
  else if i = 217 then some "Nominal media rotation rate"
  else if i = 255 then some "Integrity word"
  else none

end Identity

end DriveHealth.Ata
