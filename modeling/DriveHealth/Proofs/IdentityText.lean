import DriveHealth.Proofs.Capacities
import DriveHealth.Proofs.Cuts
set_option autoImplicit false

namespace DriveHealth.Ata

/-- The two octets of each pair change places. -/
def swapped : List UInt8 → List UInt8
  | low :: high :: bs => high :: low :: swapped bs
  | bs => bs

theorem length_swapped (bs : List UInt8) : (swapped bs).length = bs.length := by
  fun_induction swapped bs with
  | case1 low high bs ih => simp only [List.length_cons, ih]
  | case2 bs => rfl

theorem swapped_swapped : ∀ bs : List UInt8, swapped (swapped bs) = bs
  | [] => rfl
  | [_] => rfl
  | low :: high :: bs => by rw [swapped, swapped, swapped_swapped bs]

/-- Text of Latin-1: each octet is the character with its number. -/
def latin1 (bs : List UInt8) : List Char := bs.map fun b => Char.ofNat b.toNat

/-- A text as it is stored in `width` octets. -/
def stored (width : Nat) (text : List UInt8) : List UInt8 := swapped (text.rightpad width 0x20)

theorem length_stored {width : Nat} {text : List UInt8} (h : text.length ≤ width) :
    (stored width text).length = width := by
  rw [stored, length_swapped, List.length_rightpad]
  omega

theorem latin1_rightpad (width : Nat) (text : List UInt8) :
    latin1 (text.rightpad width 0x20) = latin1 text ++ List.replicate (width - text.length) ' ' := by
  rw [latin1, List.rightpad, List.map_append, List.map_replicate]
  rfl

namespace Identity

inductive NameField where
  | serial
  | firmware
  | model
  deriving DecidableEq, Repr

namespace NameField

def first : NameField → Nat
  | serial => 10
  | firmware => 23
  | model => 27

def count : NameField → Nat
  | serial => 10
  | firmware => 4
  | model => 20

def read : NameField → Identity → String
  | serial => Identity.serial
  | firmware => Identity.firmware
  | model => Identity.model

theorem read_eq (f : NameField) (id : Identity) : f.read id = textOf (id.range f.first (f.first + f.count)) := by
  cases f <;> rfl

theorem last_le (f : NameField) : f.first + f.count ≤ 256 := by cases f <;> decide

end NameField

theorem wordOctets_pair (low high : UInt8) :
    wordOctets (littleEndian [low, high]) = (swapped [low, high]).map UInt8.toNat := by
  have hlow := low.toNat_lt
  have hhigh := high.toNat_lt
  simp only [wordOctets, littleEndian, swapped, List.map_cons, List.map_nil, List.cons.injEq, and_true]
  omega

theorem wordOctets_words {bs : List UInt8} {start count : Nat} (h : 2 * (start + count) ≤ bs.length) :
    ((List.range' start count).map fun i => field bs (2 * i) 2).flatMap wordOctets =
      (swapped (stretch bs (2 * start) (2 * count))).map UInt8.toNat := by
  induction count generalizing start with
  | zero => simp [stretch, swapped]
  | succ count ih =>
    obtain ⟨low, high, -, hpair⟩ := exists_stretch_pair bs (2 * start) (by omega)
    have hsplit : stretch bs (2 * start) (2 * (count + 1)) =
        low :: high :: stretch bs (2 * (start + 1)) (2 * count) := by
      rw [Nat.mul_succ 2 count, Nat.add_comm (2 * count), stretch_add, hpair, Nat.mul_succ 2 start]
      rfl
    rw [List.range'_succ, List.map_cons, List.flatMap_cons, ih (by omega), field, hpair, wordOctets_pair, hsplit]
    rfl

/-- What stands in the octets of a name, with the octets of each word in their places and no blanks around it. -/
theorem NameField.read_ofBlock (f : NameField) (b : Block 512) : f.read (ofBlock b) =
    String.ofList (Text.stripped Text.isBlank (latin1 (swapped (stretch b.octets (2 * f.first) (2 * f.count))))) := by
  have hlast := f.last_le
  have hlength := b.le_length
  rw [f.read_eq, range_ofBlock b hlast, Nat.add_sub_cancel_left, textOf, wordOctets_words (by omega), List.map_map]
  rfl

/-- A name is read back as it was stored, whatever else the sector holds, if it has no blanks around it. Two
identities with the same words of a name have the same name. -/
theorem NameField.returns_as_stored (f : NameField) :
    (∀ sector text : List UInt8, 512 ≤ sector.length → text.length ≤ 2 * f.count →
      (∀ c ∈ (latin1 text).head?, Text.isBlank c = false) → (∀ c ∈ (latin1 text).getLast?, Text.isBlank c = false) →
      (decode (patch (2 * f.first) (stored (2 * f.count) text) sector)).map f.read =
        .ok (String.ofList (latin1 text))) ∧
    ∀ id id' : Identity, (∀ i, f.first ≤ i → i < f.first + f.count → id.words[i]? = id'.words[i]?) →
      f.read id = f.read id' := by
  have hlast := f.last_le
  refine ⟨fun sector text whole hfits hhead htail => ?_, fun id id' hwords => ?_⟩
  · have hstored := length_stored hfits
    have hroom : 2 * f.first + (stored (2 * f.count) text).length ≤ sector.length := by omega
    obtain ⟨b, hb⟩ := Checked.exists_block (n := 512) (whole.trans_eq (length_patch hroom).symm)
    have hname := stretch_patch_self hroom
    rw [hstored, ← hb] at hname
    have htrimmed : Text.Trimmed (latin1 text) (latin1 (text.rightpad (2 * f.count) 0x20)) := by
      refine ⟨⟨[], _, latin1_rightpad _ text, by simp, fun c hc => ?_⟩, hhead, htail⟩
      rw [List.eq_of_mem_replicate hc]
      rfl
    rw [← hb, decode, Checked.require_octets]
    refine congrArg Except.ok ?_
    rw [f.read_ofBlock, hname, stored, swapped_swapped, Text.stripped_eq htrimmed]
  · have hrange : id.range f.first (f.first + f.count) = id'.range f.first (f.first + f.count) := by
      refine List.ext_getElem? fun i => ?_
      simp only [range, List.getElem?_take, List.getElem?_drop, Nat.add_sub_cancel_left]
      split
      · exact hwords _ (by omega) (by omega)
      · rfl
    rw [f.read_eq, f.read_eq, hrange]

theorem NameField.returns_as_stored_nextLine :
    let text : List UInt8 := [0x46, 0x85, 0x31]
    let filled : List UInt8 := List.replicate 512 0xff
    let blank : Block 512 := ⟨List.replicate 512 0, by decide +kernel⟩
    let numbered : Block 512 := ⟨patch 20 (stored 20 [0x37]) blank.octets, by decide +kernel⟩
    512 ≤ filled.length ∧ text.length ≤ 2 * firmware.count ∧
      (decode (patch 46 (stored 8 text) filled)).map Identity.firmware = .ok "F\u00851" ∧
      (ofBlock blank).serial ≠ (ofBlock numbered).serial ∧ (ofBlock blank).model = (ofBlock numbered).model := by
  intro text filled blank numbered
  have hwhole : 512 ≤ filled.length := by decide +kernel
  have hfits : text.length ≤ 2 * firmware.count := by decide
  have hhead : ∀ c ∈ (latin1 text).head?, Text.isBlank c = false := by
    rintro _ ⟨⟩
    decide
  have htail : ∀ c ∈ (latin1 text).getLast?, Text.isBlank c = false := by
    rintro _ ⟨⟩
    decide
  exact ⟨hwhole, hfits, (firmware.returns_as_stored.1 filled text hwhole hfits hhead htail).trans rfl,
    by decide +kernel, model.returns_as_stored.2 _ _ (by decide +kernel)⟩

end Identity

end DriveHealth.Ata
