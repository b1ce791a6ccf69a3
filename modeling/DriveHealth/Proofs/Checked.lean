import DriveHealth.Block
import DriveHealth.Checked
set_option autoImplicit false

namespace DriveHealth.Checked

variable {α : Type}

/-- Masking all bits but one tells whether that one is set. -/
theorem and_bit (n k : Nat) : ((n &&& (1 <<< k)) != 0) = n.testBit k := by
  cases h : n.testBit k with
  | false =>
    have hzero : n &&& (1 <<< k) = 0 := by
      refine Nat.eq_of_testBit_eq fun i => ?_
      rw [Nat.testBit_and, Nat.one_shiftLeft, Nat.testBit_two_pow, Nat.zero_testBit]
      by_cases hi : k = i
      · simp [← hi, h]
      · simp [hi]
    simp [hzero]
  | true =>
    have hne : n &&& (1 <<< k) ≠ 0 := by
      intro hzero
      have hbit := congrArg (Nat.testBit · k) hzero
      simp [h, Nat.one_shiftLeft] at hbit
    simpa using hne

def octetsAt (bs : List UInt8) (i count : Nat) : Checked (List UInt8) :=
  (List.range count).mapM fun k => do index bs (← add 64 i k)

def little16 (bs : List UInt8) (i : Nat) : Checked Nat := littleEndian <$> octetsAt bs i 2

def little32 (bs : List UInt8) (i : Nat) : Checked Nat := littleEndian <$> octetsAt bs i 4

def big16 (bs : List UInt8) (i : Nat) : Checked Nat := bigEndian <$> octetsAt bs i 2

def big32 (bs : List UInt8) (i : Nat) : Checked Nat := bigEndian <$> octetsAt bs i 4

def littleCopy (size : Nat) (bs : List UInt8) (i : Nat) : Checked Nat := do
  return littleEndian (← slice bs i (← add 64 i size))

def littleFold (bs : List UInt8) : Checked Nat :=
  bs.reverse.foldlM (fun n b => do return (← shl 64 n 8) ||| b.toNat) 0

/-- The whole pieces of `size` octets; what is left at the end is no piece. -/
def chunks (size : Nat) (bs : List UInt8) : List (List UInt8) :=
  (List.range (bs.length / size)).map fun i => (bs.drop (size * i)).take size

def ensure (n : Nat) (what : String) (bs : List UInt8) (k : Checked α) : Checked (Except Fault α) :=
  if bs.length < n then .ok (.error (.malformed (.truncated what n bs.length)))
  else do return .ok (← k)

variable {n : Nat}

theorem blt_of_lt {i : Nat} (h : i < n) : i.blt n := Nat.ble_eq_true_of_le h

theorem index_octets (b : Block n) {i : Nat} (h : i < n) :
    index b.octets i = .ok (b.octet i (blt_of_lt h)) := by
  have hi : i < b.octets.length := Nat.lt_of_lt_of_le h b.le_length
  rw [index_ok hi]
  rfl

theorem octet_head (b : Block n) {k i : Nat} (h : (0 + k).ble n) (hi : i.blt k) :
    (b.slice 0 k h).octet i hi = b.octet i (blt_of_lt (by
      have := Nat.le_of_ble_eq_true h
      have : i < k := Nat.le_of_ble_eq_true hi
      omega)) := by
  simp [Block.octet, Block.slice]

theorem little_head (b : Block n) {k i j : Nat} (h : (0 + k).ble n) (hi : (i + j).ble k) :
    (b.slice 0 k h).little i j hi = b.little i j (Nat.ble_eq_true_of_le (by
      have := Nat.le_of_ble_eq_true h
      have := Nat.le_of_ble_eq_true hi
      omega)) := by
  have hj := Nat.le_of_ble_eq_true hi
  have hmin : min j (k - i) = j := Nat.min_eq_left (by omega)
  simp [Block.little, Block.slice, List.drop_take, List.take_take, hmin]

theorem slice_octets (b : Block n) (start len : Nat) (h : (start + len).ble n := by exact Eq.refl true) :
    slice b.octets start (start + len) = .ok (b.slice start len h).octets := by
  have hn := Nat.le_of_ble_eq_true h
  have hl := b.le_length
  rw [slice_ok (by omega) (by omega), Nat.add_sub_cancel_left]
  rfl

theorem octetsAt_octets (b : Block n) (i count : Nat) (h : (i + count).ble n)
    (hw : i + count ≤ 1 <<< 64) :
    octetsAt b.octets i count = .ok (b.slice i count h).octets := by
  have hn := Nat.le_of_ble_eq_true h
  have hl := b.le_length
  have hstep : ∀ k ∈ List.range count, (do index b.octets (← add 64 i k)) =
      .ok (b.octets.getD (i + k) 0) := by
    intro k hk
    have hk : k < count := List.mem_range.1 hk
    have hi : i + k < b.octets.length := by omega
    rw [add_ok (by omega), ok_bind, index_ok hi]
    simp [List.getD, hi]
  rw [octetsAt, mapM_ok hstep]
  refine congrArg Except.ok (List.ext_getElem ?_ fun k hk hk' => ?_)
  · simp [Block.length_slice]
  · have hi : i + k < b.octets.length := by
      simp only [List.length_map, List.length_range] at hk
      omega
    simp [Block.slice, List.getD, hi]

theorem big_lt (b : Block n) (start len : Nat) (h : (start + len).ble n) :
    b.big start len h < 1 <<< (8 * len) := by
  simpa [Block.big, bigEndian, Block.length_slice] using
    littleEndian_lt (b.slice start len h).octets.reverse

theorem little16_ok {bs : List UInt8} {i : Nat} (h : i + 1 < bs.length) (hw : i + 1 < 1 <<< 64) :
    little16 bs i = .ok (littleEndian [bs[i], bs[i + 1]]) := by
  have hfirst : index bs (i + 0) = .ok bs[i] := index_ok (by omega)
  have hnext : index bs (i + 1) = .ok bs[i + 1] := index_ok h
  have hzero : add 64 i 0 = .ok (i + 0) := add_ok (by omega)
  have hone : add 64 i 1 = .ok (i + 1) := add_ok hw
  have hrange : List.range 2 = [0, 1] := rfl
  rw [little16, octetsAt, hrange, List.mapM_cons, hzero, ok_bind, hfirst, ok_bind, List.mapM_cons, hone,
    ok_bind, hnext]
  rfl

theorem little16_octets (b : Block n) {i : Nat} (h : i + 2 ≤ n) (hw : i + 2 ≤ 1 <<< 64) :
    little16 b.octets i = .ok (b.little i 2 (Nat.ble_eq_true_of_le h)) := by
  rw [little16, octetsAt_octets b i 2 (Nat.ble_eq_true_of_le h) hw]
  rfl

theorem little32_octets (b : Block n) {i : Nat} (h : i + 4 ≤ n) (hw : i + 4 ≤ 1 <<< 64) :
    little32 b.octets i = .ok (b.little i 4 (Nat.ble_eq_true_of_le h)) := by
  rw [little32, octetsAt_octets b i 4 (Nat.ble_eq_true_of_le h) hw]
  rfl

theorem big16_octets (b : Block n) {i : Nat} (h : i + 2 ≤ n) (hw : i + 2 ≤ 1 <<< 64) :
    big16 b.octets i = .ok (b.big i 2 (Nat.ble_eq_true_of_le h)) := by
  rw [big16, octetsAt_octets b i 2 (Nat.ble_eq_true_of_le h) hw]
  rfl

theorem big32_octets (b : Block n) {i : Nat} (h : i + 4 ≤ n) (hw : i + 4 ≤ 1 <<< 64) :
    big32 b.octets i = .ok (b.big i 4 (Nat.ble_eq_true_of_le h)) := by
  rw [big32, octetsAt_octets b i 4 (Nat.ble_eq_true_of_le h) hw]
  rfl

theorem littleCopy_octets (b : Block n) {i size : Nat} (h : i + size ≤ n) (hw : i + size < 1 <<< 64) :
    littleCopy size b.octets i = .ok (b.little i size (Nat.ble_eq_true_of_le h)) := by
  rw [littleCopy, add_ok hw, ok_bind, slice_octets b i size (Nat.ble_eq_true_of_le h)]
  rfl

theorem littleFold_eq (bs : List UInt8) : littleFold bs = .ok (littleEndian bs % (1 <<< 64)) := by
  rw [littleFold, List.foldlM_reverse]
  induction bs with
  | nil => rfl
  | cons b bs ih =>
    have hb := b.toNat_lt
    -- The bits that the shift loses are those above the word.
    have hshift (n : Nat) : (n % (1 <<< 64)) <<< 8 % (1 <<< 64) = (n % (1 <<< 56)) <<< 8 := by
      simp only [Nat.shiftLeft_eq, Nat.reducePow]
      omega
    rw [List.foldrM_cons, ih, ok_bind, shl_ok (by omega), ok_bind, pure_eq_ok, hshift,
      ← Nat.shiftLeft_add_eq_or_of_lt hb]
    simp only [Nat.shiftLeft_eq, Nat.reducePow, littleEndian, Except.ok.injEq]
    omega

theorem littleFold_ok {bs : List UInt8} (hn : bs.length ≤ 8) : littleFold bs = .ok (littleEndian bs) := by
  have h := littleEndian_lt bs
  have hle : 1 <<< (8 * bs.length) ≤ 1 <<< 64 := by
    simp only [Nat.shiftLeft_eq, Nat.one_mul]
    exact Nat.pow_le_pow_right (by omega) (by omega)
  rw [littleFold_eq, Nat.mod_eq_of_lt (by omega)]

theorem octets_records (b : Block n) (start size count : Nat) (h : (start + size * count).ble n) :
    (b.records start size count h).map (·.octets) =
      (List.range count).map fun i => (b.octets.drop (start + size * i)).take size := by
  have hn := Nat.le_of_ble_eq_true h
  refine List.ext_getElem? fun i => ?_
  rw [List.getElem?_map, List.getElem?_map]
  by_cases hi : i < count
  · have hle : size * (i + 1) ≤ size * count := Nat.mul_le_mul_left size hi
    rw [Nat.mul_succ] at hle
    have hfit : (start + size * i + size).ble n := Nat.ble_eq_true_of_le (by omega)
    rw [Block.getElem_records b start size count i h hi hfit]
    simp [hi, Block.slice]
  · have hlen : (b.records start size count h).length ≤ i := by
      rw [Block.length_records]
      omega
    simp [List.getElem?_eq_none hlen, hi]

theorem chunks_octets (b : Block n) (start size count : Nat) (hs : 0 < size)
    (h : (start + size * count).ble n := by exact Eq.refl true) :
    chunks size (b.slice start (size * count) h).octets =
      (b.records start size count h).map (·.octets) := by
  have hcount : (b.slice start (size * count) h).octets.length / size = count := by
    rw [Block.length_slice, Nat.mul_div_cancel_left _ hs]
  rw [chunks, hcount, octets_records]
  refine List.map_congr_left fun i hi => ?_
  have hi : i < count := List.mem_range.1 hi
  have hle : size * (i + 1) ≤ size * count := Nat.mul_le_mul_left size hi
  rw [Nat.mul_succ] at hle
  have hcut : min size (size * count - size * i) = size := Nat.min_eq_left (by omega)
  simp [Block.slice, List.drop_take, List.take_take, List.drop_drop, hcut]

theorem ofOctets?_octets (b : Block n) : Block.ofOctets? n b.octets = some b := dif_pos b.le_length

theorem require_octets (b : Block n) (what : String) : Block.require n what b.octets = .ok b := dif_pos b.le_length

theorem exists_block {bs : List UInt8} (h : n ≤ bs.length) : ∃ b : Block n, b.octets = bs :=
  ⟨⟨bs, h⟩, rfl⟩

theorem ofOctets?_short {bs : List UInt8} (h : bs.length < n) : Block.ofOctets? n bs = none :=
  dif_neg (Nat.not_le.2 h)

theorem ensure_ok {what : String} {bs : List UInt8} {k : Checked α} {f : Block n → α}
    (h : ∀ b : Block n, b.octets = bs → k = .ok (f b)) :
    ensure n what bs k = .ok (do let b ← Block.require n what bs; return f b) := by
  by_cases hn : n ≤ bs.length
  · have hk := h ⟨bs, hn⟩ rfl
    rw [ensure, if_neg (Nat.not_lt.2 hn), hk, Block.require, dif_pos hn]
    rfl
  · rw [ensure, if_pos (Nat.lt_of_not_le hn), Block.require, dif_neg hn]
    rfl

end DriveHealth.Checked
