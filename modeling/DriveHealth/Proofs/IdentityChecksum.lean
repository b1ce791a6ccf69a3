import DriveHealth.Proofs.Capacities
import Mathlib.Algebra.BigOperators.Group.List.Basic
set_option autoImplicit false

/-!
The checksum of an identity. The words hold the octets of the sector in pairs, so that adding up the octets of the
words adds up the sector, and the sum changes with every single octet.
-/

namespace DriveHealth.Ata.Identity

def octetSum (bs : List UInt8) : Nat := (bs.map UInt8.toNat).sum

theorem octetSum_append (bs cs : List UInt8) : octetSum (bs ++ cs) = octetSum bs + octetSum cs := by
  rw [octetSum, List.map_append, List.sum_append]
  rfl

theorem exists_octetSum_set (bs : List UInt8) (i : Nat) (h : i < bs.length) :
    ∃ rest, ∀ b, octetSum (bs.set i b) = rest + b.toNat := by
  refine ⟨octetSum (bs.take i) + octetSum (bs.drop (i + 1)), fun b => ?_⟩
  have hi : i < (bs.map UInt8.toNat).length := by rwa [List.length_map]
  rw [octetSum, List.map_set, List.sum_set, if_pos hi, ← List.map_take, ← List.map_drop, Nat.add_right_comm]
  rfl

/-- A word has its low octet first in the sector and last in text, and either way the same octets. -/
theorem sum_wordOctets_pair (low high : UInt8) :
    (wordOctets (littleEndian [low, high])).sum = octetSum [low, high] := by
  have hlow := low.toNat_lt
  have hhigh := high.toNat_lt
  simp only [wordOctets, littleEndian, octetSum, List.map_cons, List.map_nil, List.sum_cons, List.sum_nil]
  omega

theorem sum_words {bs : List UInt8} {count : Nat} (h : 2 * count ≤ bs.length) :
    (((List.range count).map fun i => field bs (2 * i) 2).flatMap wordOctets).sum = octetSum (bs.take (2 * count)) := by
  induction count with
  | zero => rfl
  | succ count ih =>
    obtain ⟨low, high, -, hpair⟩ := exists_stretch_pair bs (2 * count) (by omega)
    have hword : (wordOctets (field bs (2 * count) 2)).sum = octetSum (stretch bs (2 * count) 2) := by
      rw [field, hpair, sum_wordOctets_pair]
    have hsplit : bs.take (2 * (count + 1)) = bs.take (2 * count) ++ stretch bs (2 * count) 2 := by
      rw [Nat.mul_succ, List.take_add]
      rfl
    simp only [List.range_succ, List.map_append, List.flatMap_append, List.sum_append, ih (by omega), List.map_cons,
      List.map_nil, List.flatMap_cons, List.flatMap_nil, List.append_nil, hword, hsplit, octetSum_append]

theorem checksumOk?_ofBlock (b : Block 512) : (ofBlock b).checksumOk? =
    if b.octets[510]? = some 0xa5 then some (octetSum (b.octets.take 512) % 256 == 0) else none := by
  have hlength := b.le_length
  obtain ⟨low, high, hlow, hpair⟩ := exists_stretch_pair b.octets 510 (by omega)
  have hsignature : (ofBlock b).word 255 % 256 = 0xa5 ↔ b.octets[510]? = some 0xa5 := by
    have hlt := low.toNat_lt
    have hword : (ofBlock b).word 255 = low.toNat + 256 * (high.toNat + 256 * 0) :=
      (word_ofBlock b 255 rfl).trans (congrArg littleEndian hpair)
    have hoctet : (ofBlock b).word 255 % 256 = low.toNat := by omega
    rw [hoctet, hlow, Option.some.injEq, ← UInt8.toNat_inj]
    rfl
  have hsum : ((ofBlock b).words.flatMap wordOctets).foldl (· + ·) 0 = octetSum (b.octets.take 512) := by
    rw [← List.sum_eq_foldl, words_ofBlock, ← List.range_eq_range']
    exact sum_words hlength
  rw [checksumOk?, hsum, if_congr hsignature rfl rfl]

/-- What the checksum says of a sector: whether it holds, if there is one. -/
def intact? (sector : List UInt8) : Except Fault (Option Bool) := (decode sector).map checksumOk?

theorem intact?_eq {sector : List UInt8} (whole : 512 ≤ sector.length) : intact? sector =
    .ok (if sector[510]? = some 0xa5 then some (octetSum (sector.take 512) % 256 == 0) else none) := by
  have hdecode : decode sector = .ok (ofBlock ⟨sector, whole⟩) := by
    rw [decode, Block.require, dif_pos whole]
    rfl
  rw [intact?, hdecode, ← checksumOk?_ofBlock ⟨sector, whole⟩]
  rfl

theorem intact?_eq_true_iff {sector : List UInt8} (whole : 512 ≤ sector.length) :
    intact? sector = .ok (some true) ↔ sector[510]? = some 0xa5 ∧ octetSum (sector.take 512) % 256 = 0 := by
  rw [intact?_eq whole]
  by_cases h : sector[510]? = some 0xa5 <;> simp [h]

/-- The checksum catches every corruption of a single octet. Where the signature stands, exactly one value of the
last octet makes it hold. Where it holds, any other value of any octet makes it fail, or, in place of the
signature, takes it away. -/
theorem checksum_catches_single_corruptions {sector : List UInt8} (whole : 512 ≤ sector.length) :
    (sector[510]? = some 0xa5 → ∃! b, intact? (sector.set 511 b) = .ok (some true)) ∧
    (intact? sector = .ok (some true) → ∀ i < 512, ∀ b, sector[i]? ≠ some b →
      intact? (sector.set i b) = .ok (if i = 510 then none else some false)) := by
  have hwhole (i : Nat) (b : UInt8) : 512 ≤ (sector.set i b).length := by rwa [List.length_set]
  have hrest (i : Nat) (hi : i < 512) : ∃ rest, ∀ b, octetSum ((sector.set i b).take 512) = rest + b.toNat := by
    obtain ⟨rest, h⟩ := exists_octetSum_set (sector.take 512) i (by rw [List.length_take]; omega)
    exact ⟨rest, fun b => by rw [List.take_set, h b]⟩
  refine ⟨fun hsignature => ?_, fun hintact i hi b hb => ?_⟩
  · obtain ⟨rest, hsum⟩ := hrest 511 (by decide)
    have hiff (b : UInt8) : intact? (sector.set 511 b) = .ok (some true) ↔ (rest + b.toNat) % 256 = 0 := by
      rw [intact?_eq_true_iff (hwhole 511 b), List.getElem?_set_ne (by decide), hsum b]
      exact and_iff_right hsignature
    refine ⟨UInt8.ofNat (256 - rest % 256), (hiff _).2 ?_, fun b hb => UInt8.toNat_inj.1 ?_⟩
    · rw [UInt8.toNat_ofNat']
      omega
    · have hlt := b.toNat_lt
      have hzero := (hiff b).1 hb
      rw [UInt8.toNat_ofNat']
      omega
  · obtain ⟨hsignature, hzero⟩ := (intact?_eq_true_iff whole).1 hintact
    rw [intact?_eq (hwhole i b)]
    by_cases hi510 : i = 510
    · subst hi510
      have hnone : some b ≠ some (0xa5 : UInt8) := fun h => hb (hsignature.trans h.symm)
      rw [List.getElem?_set_self (by omega), if_neg hnone, if_pos rfl]
    · obtain ⟨rest, hsum⟩ := hrest i hi
      have hold := hsum sector[i]
      rw [List.set_getElem_self] at hold
      have hne : sector[i].toNat ≠ b.toNat := fun h =>
        hb (by rw [List.getElem?_eq_getElem (by omega), UInt8.toNat_inj.1 h])
      have hlt := b.toNat_lt
      have hlt' := sector[i].toNat_lt
      have hfails : (octetSum ((sector.set i b).take 512) % 256 == 0) = false := by
        rw [hsum b, beq_eq_false_iff_ne]
        omega
      rw [List.getElem?_set_ne hi510, if_pos hsignature, hfails, if_neg hi510]

theorem checksum_catches_single_corruptions_blank :
    let sector : List UInt8 := List.replicate 510 0 ++ [0xa5, 0x5b]
    512 ≤ sector.length ∧ sector[510]? = some 0xa5 ∧ intact? sector = .ok (some true) ∧ sector[7]? ≠ some 0x10 ∧
      intact? (sector.set 7 0x10) = .ok (some false) ∧ ∃! b, intact? (sector.set 511 b) = .ok (some true) := by
  intro sector
  have hwhole : 512 ≤ sector.length := by decide +kernel
  have hsignature : sector[510]? = some 0xa5 := by decide +kernel
  have hintact : intact? sector = .ok (some true) :=
    (intact?_eq_true_iff hwhole).2 ⟨hsignature, by decide +kernel⟩
  have hother : sector[7]? ≠ some 0x10 := by decide +kernel
  obtain ⟨hone, hall⟩ := checksum_catches_single_corruptions hwhole
  exact ⟨hwhole, hsignature, hintact, hother, hall hintact 7 (by decide) 0x10 hother, hone hsignature⟩

end DriveHealth.Ata.Identity
