import DriveHealth.Fault
set_option autoImplicit false

/-!
Blocks of octets as devices send them. A `Block n` has at least `n` octets, and what is read from it
lies within the first `n`, so no read can leave the data that came back.
-/

namespace DriveHealth

/-- The number whose octets these are, least significant first. -/
def littleEndian : List UInt8 → Nat
  | [] => 0
  | b :: bs => b.toNat + 256 * littleEndian bs

/-- The number whose octets these are, most significant first. -/
def bigEndian (bs : List UInt8) : Nat := littleEndian bs.reverse

def littleOctets : Nat → Nat → List UInt8
  | 0, _ => []
  | width + 1, n => UInt8.ofNat n :: littleOctets width (n / 256)

theorem shiftLeft_octets_succ (width : Nat) :
    1 <<< (8 * (width + 1)) = 256 * (1 <<< (8 * width)) := by
  rw [Nat.mul_succ, Nat.add_comm, Nat.shiftLeft_add, Nat.shiftLeft_eq, Nat.shiftLeft_eq]
  omega

theorem littleEndian_lt (bs : List UInt8) : littleEndian bs < 1 <<< (8 * bs.length) := by
  induction bs with
  | nil => simp [littleEndian]
  | cons b bs ih =>
    have hb := b.toNat_lt
    rw [List.length_cons, shiftLeft_octets_succ, littleEndian]
    omega

theorem length_littleOctets (width n : Nat) : (littleOctets width n).length = width := by
  induction width generalizing n with
  | zero => rfl
  | succ width ih => simp [littleOctets, ih]

theorem littleEndian_littleOctets (width n : Nat) :
    littleEndian (littleOctets width n) = n % (1 <<< (8 * width)) := by
  induction width generalizing n with
  | zero => simp [littleOctets, littleEndian, Nat.mod_one]
  | succ width ih =>
    rw [littleOctets, littleEndian, ih, shiftLeft_octets_succ, Nat.mod_mul, UInt8.toNat_ofNat']

/-- At least `n` octets. -/
structure Block (n : Nat) where
  octets : List UInt8
  le_length : n ≤ octets.length

namespace Block

variable {n : Nat}

def ofOctets? (n : Nat) (bs : List UInt8) : Option (Block n) :=
  if h : n ≤ bs.length then some ⟨bs, h⟩ else none

def require (n : Nat) (what : String) (bs : List UInt8) : Except Fault (Block n) :=
  if h : n ≤ bs.length then .ok ⟨bs, h⟩ else .error (.malformed (.truncated what n bs.length))

/-- The octet at `i`. That it lies in the block is found by evaluation, as for all that follow. -/
def octet (b : Block n) (i : Nat) (h : i.blt n := by exact Eq.refl true) : UInt8 :=
  b.octets.get ⟨i, Nat.lt_of_lt_of_le (Nat.le_of_ble_eq_true h) b.le_length⟩

def byte (b : Block n) (i : Nat) (h : i.blt n := by exact Eq.refl true) : Nat := (b.octet i h).toNat

def slice (b : Block n) (start len : Nat) (h : (start + len).ble n := by exact Eq.refl true) :
    Block len where
  octets := (b.octets.drop start).take len
  le_length := by
    have := b.le_length
    have := Nat.le_of_ble_eq_true h
    simp only [List.length_take, List.length_drop]
    omega

def little (b : Block n) (start len : Nat) (h : (start + len).ble n := by exact Eq.refl true) : Nat :=
  littleEndian (b.slice start len h).octets

def big (b : Block n) (start len : Nat) (h : (start + len).ble n := by exact Eq.refl true) : Nat :=
  bigEndian (b.slice start len h).octets

def cut (size : Nat) : (count : Nat) → (bs : List UInt8) → size * count ≤ bs.length → List (Block size)
  | 0, _, _ => []
  | count + 1, bs, h =>
    have hs : size + size * count ≤ bs.length := by
      rw [Nat.mul_succ] at h
      omega
    ⟨bs.take size, by simp only [List.length_take]; omega⟩ ::
      cut size count (bs.drop size) (by simp only [List.length_drop]; omega)

def records (b : Block n) (start size count : Nat)
    (h : (start + size * count).ble n := by exact Eq.refl true) : List (Block size) :=
  cut size count (b.octets.drop start) (by
    have := b.le_length
    have := Nat.le_of_ble_eq_true h
    simp only [List.length_drop]
    omega)

theorem length_slice (b : Block n) (start len : Nat) (h : (start + len).ble n) :
    (b.slice start len h).octets.length = len := by
  have := b.le_length
  have := Nat.le_of_ble_eq_true h
  simp only [slice, List.length_take, List.length_drop]
  omega

theorem length_cut (size count : Nat) (bs : List UInt8) (h : size * count ≤ bs.length) :
    (cut size count bs h).length = count := by
  induction count generalizing bs with
  | zero => rfl
  | succ count ih => simp [cut, ih]

theorem length_records (b : Block n) (start size count : Nat) (h : (start + size * count).ble n) :
    (b.records start size count h).length = count := length_cut _ _ _ _

theorem getElem_records (b : Block n) (start size count i : Nat)
    (h : (start + size * count).ble n) (hi : i < count) (hs : (start + size * i + size).ble n) :
    (b.records start size count h)[i]? = some (b.slice (start + size * i) size hs) := by
  have general : ∀ (m j : Nat) (bs : List UInt8) (hb : size * m ≤ bs.length), j < m →
      ((cut size m bs hb)[j]?).map octets = some ((bs.drop (size * j)).take size) := by
    intro m
    induction m with
    | zero => intro j bs hb hj; omega
    | succ m ih =>
      intro j bs hb hj
      cases j with
      | zero => simp [cut]
      | succ j =>
        rw [cut, List.getElem?_cons_succ, ih j _ _ (by omega), List.drop_drop, Nat.mul_succ,
          Nat.add_comm size]
  have hg := general count i (b.octets.drop start) (by
    have := b.le_length
    have := Nat.le_of_ble_eq_true h
    simp only [List.length_drop]
    omega) hi
  rw [List.drop_drop] at hg
  obtain ⟨r, hr, ho⟩ := Option.map_eq_some_iff.1 hg
  rw [records, hr]
  cases r
  simp only at ho
  subst ho
  rfl

theorem byte_lt (b : Block n) (i : Nat) (h : i.blt n) : b.byte i h < 256 := (b.octet i h).toNat_lt

theorem little_lt (b : Block n) (start len : Nat) (h : (start + len).ble n) :
    b.little start len h < 1 <<< (8 * len) := by
  simpa [little, length_slice] using littleEndian_lt (b.slice start len h).octets

end Block

end DriveHealth
