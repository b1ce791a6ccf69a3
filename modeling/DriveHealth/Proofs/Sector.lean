import DriveHealth.Block
import Mathlib.Algebra.Group.Nat.Defs
set_option autoImplicit false

namespace DriveHealth

theorem littleOctets_littleEndian (bs : List UInt8) : littleOctets bs.length (littleEndian bs) = bs := by
  induction bs with
  | nil => rfl
  | cons b bs ih =>
    have hb := b.toNat_lt
    have hrest : littleEndian (b :: bs) / 256 = littleEndian bs := by
      rw [littleEndian]
      omega
    have hfirst : UInt8.ofNat (littleEndian (b :: bs)) = b := by
      refine UInt8.toNat_inj.1 ?_
      rw [littleEndian, UInt8.toNat_ofNat']
      omega
    rw [List.length_cons, littleOctets, hrest, hfirst, ih]

theorem littleEndian_littleOctets_of_lt {width n : Nat} (h : n < 1 <<< (8 * width)) :
    littleEndian (littleOctets width n) = n := by
  rw [littleEndian_littleOctets, Nat.mod_eq_of_lt h]

theorem littleEndian_append (bs cs : List UInt8) :
    littleEndian (bs ++ cs) = littleEndian bs + 256 ^ bs.length * littleEndian cs := by
  induction bs with
  | nil => simp [littleEndian]
  | cons b bs ih =>
    rw [List.cons_append, littleEndian, littleEndian, ih, List.length_cons, Nat.pow_succ, Nat.mul_add,
      Nat.mul_comm (256 ^ bs.length) 256, Nat.mul_assoc, Nat.add_assoc]

namespace Ata

/-- Writes octets over those from `start` on. -/
def patch (start : Nat) (new bs : List UInt8) : List UInt8 :=
  bs.take start ++ (new ++ bs.drop (start + new.length))

/-- The `len` octets from `start` on. -/
def stretch (bs : List UInt8) (start len : Nat) : List UInt8 := (bs.drop start).take len

/-- The little-endian number in the `len` octets from `start` on. -/
def field (bs : List UInt8) (start len : Nat) : Nat := littleEndian (stretch bs start len)

theorem stretch_add (bs : List UInt8) (start len more : Nat) :
    stretch bs start (len + more) = stretch bs start len ++ stretch bs (start + len) more := by
  rw [stretch, List.take_add, List.drop_drop]
  rfl

section

variable {start : Nat} {new bs : List UInt8} (h : start + new.length ≤ bs.length)

include h

theorem length_patch : (patch start new bs).length = bs.length := by
  simp only [patch, List.length_append, List.length_take, List.length_drop]
  omega

theorem getElem?_patch (i : Nat) : (patch start new bs)[i]? =
    if start ≤ i ∧ i < start + new.length then new[i - start]? else bs[i]? := by
  have hstart : (bs.take start).length = start := by
    rw [List.length_take]
    omega
  by_cases hi : i < start
  · rw [patch, List.getElem?_append_left (by omega), List.getElem?_take_of_lt hi, if_neg (by omega)]
  · rw [patch, List.getElem?_append_right (by omega), hstart]
    by_cases hin : i - start < new.length
    · rw [List.getElem?_append_left hin, if_pos (by omega)]
    · rw [List.getElem?_append_right (by omega), List.getElem?_drop, if_neg (by omega)]
      congr 1
      omega

theorem stretch_patch_self : stretch (patch start new bs) start new.length = new := by
  have hstart : (bs.take start).length = start := by
    rw [List.length_take]
    omega
  have hdrop : (patch start new bs).drop start = new ++ bs.drop (start + new.length) := by
    rw [patch, List.drop_append_of_le_length (by omega), List.drop_eq_nil_of_le (by omega), List.nil_append]
  rw [stretch, hdrop, List.take_left]

theorem stretch_patch_of_apart {i len : Nat} (hi : i + len ≤ start ∨ start + new.length ≤ i) :
    stretch (patch start new bs) i len = stretch bs i len := by
  refine List.ext_getElem? fun k => ?_
  simp only [stretch, List.getElem?_take, List.getElem?_drop]
  by_cases hk : k < len
  · rw [if_pos hk, if_pos hk, getElem?_patch h, if_neg (by omega)]
  · rw [if_neg hk, if_neg hk]

end

theorem exists_stretch_pair (bs : List UInt8) (start : Nat) (h : start + 2 ≤ bs.length) :
    ∃ low high, bs[start]? = some low ∧ stretch bs start 2 = [low, high] := by
  refine ⟨bs[start], bs[start + 1], List.getElem?_eq_getElem _, ?_⟩
  rw [stretch, List.drop_eq_getElem_cons (by omega), List.drop_eq_getElem_cons (by omega), List.take_succ_cons,
    List.take_succ_cons, List.take_zero]

theorem byte_eq_field {n : Nat} (b : Block n) (i : Nat) (h : i.blt n) : b.byte i h = field b.octets i 1 := by
  have hi : i < b.octets.length := Nat.lt_of_lt_of_le (Nat.le_of_ble_eq_true h) b.le_length
  rw [field, stretch, List.drop_eq_getElem_cons hi, List.take_succ_cons, List.take_zero]
  rfl

end Ata

end DriveHealth
