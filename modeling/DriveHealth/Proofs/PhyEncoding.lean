import DriveHealth.Proofs.CheckedAta
import DriveHealth.Proofs.Sector
set_option autoImplicit false

/-!
How a drive encodes its Phy event counters, and that they are read back. Each counter tells its own size, so
the counters at the beginning of some octets are determined by these: reading finds all of them and stops
where no further one begins.
-/

namespace DriveHealth

namespace Ata.PhyCounter

/-- A counter as it is encoded: a word with the identifier and the size, whose top bit has no meaning, and as
many words as the size says. -/
@[ext] structure Encoded where
  id : Nat
  words : Nat
  value : Nat
  mark : Bool
  id_pos : 0 < id
  id_lt : id < 4096
  words_pos : 0 < words
  words_lt : words < 8
  value_lt : value < 1 <<< (16 * words)

namespace Encoded

def header (c : Encoded) : Nat := c.id + 4096 * c.words + if c.mark then 32768 else 0

def octets (c : Encoded) : List UInt8 := littleOctets 2 c.header ++ littleOctets (2 * c.words) c.value

def counter (c : Encoded) : PhyCounter := ⟨c.id, c.value % (1 <<< 64)⟩

variable (c : Encoded)

theorem header_lt : c.header < 65536 := by
  have := c.id_lt
  have := c.words_lt
  unfold header
  split <;> omega

theorem header_mod : c.header % 4096 = c.id := by
  have := c.id_lt
  unfold header
  split <;> omega

theorem header_div : c.header / 4096 % 8 = c.words := by
  have := c.id_lt
  have := c.words_lt
  unfold header
  split <;> omega

theorem mark_eq : c.mark = decide (32768 ≤ c.header) := by
  have := c.id_lt
  have := c.words_lt
  unfold header
  cases c.mark with
  | false => simp; omega
  | true => simp

theorem length_octets : c.octets.length = 2 * (c.words + 1) := by
  simp only [octets, List.length_append, length_littleOctets]
  omega

theorem littleEndian_header : littleEndian (littleOctets 2 c.header) = c.header :=
  littleEndian_littleOctets_of_lt c.header_lt

theorem littleEndian_value : littleEndian (littleOctets (2 * c.words) c.value) = c.value := by
  refine littleEndian_littleOctets_of_lt ?_
  rw [← Nat.mul_assoc]
  exact c.value_lt

variable {c}

theorem eq_of_append_eq {c' : Encoded} {rest rest' : List UInt8}
    (h : c.octets ++ rest = c'.octets ++ rest') : c = c' ∧ rest = rest' := by
  simp only [octets, List.append_assoc] at h
  obtain ⟨hheader, h⟩ := List.append_inj h (by simp [length_littleOctets])
  have hheader : c.header = c'.header := by
    rw [← c.littleEndian_header, hheader, c'.littleEndian_header]
  have hwords : c.words = c'.words := by rw [← c.header_div, hheader, c'.header_div]
  obtain ⟨hvalue, hrest⟩ := List.append_inj h (by simp [length_littleOctets, hwords])
  refine ⟨Encoded.ext ?_ hwords ?_ ?_, hrest⟩
  · rw [← c.header_mod, hheader, c'.header_mod]
  · rw [← c.littleEndian_value, hvalue, c'.littleEndian_value]
  · rw [c.mark_eq, hheader, c'.mark_eq]

end Encoded

def encode (cs : List Encoded) : List UInt8 := cs.flatMap Encoded.octets

theorem encode_cons (c : Encoded) (cs : List Encoded) : encode (c :: cs) = c.octets ++ encode cs :=
  List.flatMap_cons

theorem length_encode_even (cs : List Encoded) : ∃ k, (encode cs).length = 2 * k := by
  induction cs with
  | nil => exact ⟨0, rfl⟩
  | cons c cs ih =>
    obtain ⟨k, hk⟩ := ih
    refine ⟨c.words + 1 + k, ?_⟩
    rw [encode_cons, List.length_append, c.length_octets, hk]
    omega

theorem walk_encoded (c : Encoded) (rest : List UInt8) : walk (c.octets ++ rest) = c.counter :: walk rest := by
  have hheader : littleEndian [UInt8.ofNat c.header, UInt8.ofNat (c.header / 256)] = c.header :=
    c.littleEndian_header
  have hfront : c.octets ++ rest = UInt8.ofNat c.header :: UInt8.ofNat (c.header / 256) ::
      (littleOctets (2 * c.words) c.value ++ rest) := by
    rw [Encoded.octets, List.append_assoc]
    rfl
  have hlength : (littleOctets (2 * c.words) c.value).length = c.words * 2 := by
    rw [length_littleOctets, Nat.mul_comm]
  have hid := c.id_pos
  have hwords := c.words_pos
  have hgo : ¬(c.id = 0 ∨ c.words * 2 = 0 ∨
      (littleOctets (2 * c.words) c.value ++ rest).length < c.words * 2) := by
    rw [List.length_append]
    omega
  rw [hfront, walk]
  simp only [hheader, c.header_mod, c.header_div]
  rw [if_neg hgo, ← hlength, List.take_left, List.drop_left, c.littleEndian_value]
  rfl

theorem walk_encode (cs : List Encoded) (rest : List UInt8) :
    walk (encode cs ++ rest) = cs.map Encoded.counter ++ walk rest := by
  induction cs with
  | nil => rfl
  | cons c cs ih => rw [encode_cons, List.append_assoc, walk_encoded, ih, List.map_cons, List.cons_append]

/-- Where the walk stops, no counter begins. -/
theorem not_prefix_of_walk {rest : List UInt8} (h : walk rest = []) (c : Encoded) : ¬c.octets <+: rest := by
  rintro ⟨tail, rfl⟩
  simp [walk_encoded] at h

theorem exists_encoded {lo hi : UInt8} (rest : List UInt8) {size : Nat}
    (hid : littleEndian [lo, hi] % 4096 ≠ 0) (hsize : littleEndian [lo, hi] / 4096 % 8 * 2 = size)
    (hpos : size ≠ 0) (hfits : size ≤ rest.length) :
    ∃ c : Encoded, lo :: hi :: rest = c.octets ++ rest.drop size := by
  have hheader : littleEndian [lo, hi] < 65536 := littleEndian_lt [lo, hi]
  have htake : (rest.take size).length = size := by
    rw [List.length_take]
    omega
  have hvalue : littleEndian (rest.take size) < 1 <<< (16 * (littleEndian [lo, hi] / 4096 % 8)) := by
    have hlt := littleEndian_lt (rest.take size)
    have hbits : 8 * size = 16 * (littleEndian [lo, hi] / 4096 % 8) := by omega
    rwa [htake, hbits] at hlt
  generalize hvalue' : littleEndian (rest.take size) = value at hvalue
  have hwords := littleOctets_littleEndian (rest.take size)
  rw [htake, hvalue'] at hwords
  have hfirst := littleOctets_littleEndian [lo, hi]
  generalize littleEndian [lo, hi] = header at *
  refine ⟨⟨header % 4096, header / 4096 % 8, value, decide (32768 ≤ header), by omega, by omega, by omega,
    by omega, hvalue⟩, ?_⟩
  have hback : header % 4096 + 4096 * (header / 4096 % 8) +
      (if decide (32768 ≤ header) = true then 32768 else 0) = header := by
    simp only [decide_eq_true_eq]
    split <;> omega
  rw [Encoded.octets, Encoded.header]
  simp only [hback]
  rw [Nat.mul_comm 2, hsize, hwords, List.append_assoc, List.take_append_drop]
  exact congrArg (· ++ rest) hfirst.symm

theorem exists_encode (bs : List UInt8) :
    ∃ cs rest, bs = encode cs ++ rest ∧ walk rest = [] := by
  induction bs using walk.induct with
  | case1 lo hi rest header id size hend =>
    refine ⟨[], lo :: hi :: rest, rfl, ?_⟩
    rw [walk]
    exact if_pos hend
  | case2 lo hi rest header id size hgo ih =>
    obtain ⟨cs, rest', hcs, hstop⟩ := ih
    obtain ⟨c, hc⟩ := exists_encoded rest (fun hid => hgo (.inl hid)) rfl
      (fun hsize => hgo (.inr (.inl hsize))) (Nat.not_lt.1 fun hfits => hgo (.inr (.inr hfits)))
    refine ⟨c :: cs, rest', ?_, hstop⟩
    rw [hc, encode_cons, List.append_assoc, ← hcs]
  | case3 bs hshort =>
    refine ⟨[], bs, rfl, walk_of_short ?_⟩
    rcases bs with _ | ⟨lo, _ | ⟨hi, rest⟩⟩
    · decide
    · exact Nat.one_lt_two
    · exact absurd rfl (hshort lo hi rest)

theorem prefix_of_encode {cs cs' : List Encoded} {rest : List UInt8} (hstop : walk rest = [])
    (h : encode cs' <+: encode cs ++ rest) : cs' <+: cs := by
  induction cs' generalizing cs with
  | nil => exact List.nil_prefix
  | cons c' cs' ih =>
    rw [encode_cons] at h
    cases cs with
    | nil => exact absurd ((List.prefix_append _ _).trans h) (not_prefix_of_walk hstop c')
    | cons c cs =>
      obtain ⟨tail, htail⟩ := h
      rw [encode_cons, List.append_assoc, List.append_assoc] at htail
      obtain ⟨rfl, hrest⟩ := Encoded.eq_of_append_eq htail
      exact List.cons_prefix_cons.2 ⟨rfl, ih ⟨tail, hrest⟩⟩

theorem walk_of_id {lo hi : UInt8} (h : littleEndian [lo, hi] % 4096 = 0) (rest : List UInt8) :
    walk (lo :: hi :: rest) = [] := by
  rw [walk]
  exact if_pos (.inl h)

def area (bs : List UInt8) : List UInt8 := (bs.drop 4).take 504

theorem decodeAll_eq {bs : List UInt8} (h : 512 ≤ bs.length) : decodeAll bs = .ok (walk (area bs)) := by
  rw [decodeAll, Block.require, dif_pos h]
  rfl

theorem walk_area {cs : List Encoded} {front rest : List UInt8} (hfront : front.length = 4)
    (hfits : (encode cs).length ≤ 504)
    (hend : (encode cs).length < 504 →
      ∃ lo hi more, rest = lo :: hi :: more ∧ littleEndian [lo, hi] % 4096 = 0) :
    walk (area (front ++ (encode cs ++ rest))) = cs.map Encoded.counter := by
  have harea : area (front ++ (encode cs ++ rest)) = encode cs ++ rest.take (504 - (encode cs).length) := by
    rw [area, ← hfront, List.drop_left, List.take_append, List.take_of_length_le hfits]
  rw [harea, walk_encode]
  refine List.append_right_eq_self.2 ?_
  obtain ⟨k, hk⟩ := length_encode_even cs
  rcases Nat.lt_or_ge (encode cs).length 504 with hlt | hge
  · obtain ⟨lo, hi, more, rfl, hid⟩ := hend hlt
    -- there is room for a whole header, as all counters take an even number of octets
    obtain ⟨n, hn⟩ : ∃ n, 504 - (encode cs).length = n + 2 := ⟨502 - (encode cs).length, by omega⟩
    rw [hn, List.take_succ_cons, List.take_succ_cons, walk_of_id hid]
  · have hnone : 504 - (encode cs).length = 0 := by omega
    rw [hnone, List.take_zero, walk_of_short (by decide)]

/-- A drive's counters are read back as they were encoded, and of any reply that is long enough the counters
that are read are all those at the beginning of the area. The walk over the positions of a reply ends, and
with this result. -/
theorem decodeAll_longest :
    (∀ (cs : List Encoded) (front rest : List UInt8), front.length = 4 →
      512 ≤ (front ++ (encode cs ++ rest)).length → (encode cs).length ≤ 504 →
      ((encode cs).length < 504 →
        ∃ lo hi more, rest = lo :: hi :: more ∧ littleEndian [lo, hi] % 4096 = 0) →
      decodeAll (front ++ (encode cs ++ rest)) = .ok (cs.map Encoded.counter)) ∧
    ∀ bs : List UInt8, parseAll bs = .ok (decodeAll bs) ∧ (512 ≤ bs.length →
      ∃ cs, decodeAll bs = .ok (cs.map Encoded.counter) ∧ encode cs <+: area bs ∧
        ∀ cs', encode cs' <+: area bs → cs' <+: cs) := by
  refine ⟨fun cs front rest hfront hlength hfits hend => ?_, fun bs => ⟨parseAll_eq bs, fun hlength => ?_⟩⟩
  · rw [decodeAll_eq hlength, walk_area hfront hfits hend]
  · obtain ⟨cs, rest, harea, hstop⟩ := exists_encode (area bs)
    refine ⟨cs, ?_, ⟨rest, harea.symm⟩, fun cs' hcs' => ?_⟩
    · rw [decodeAll_eq hlength, harea, walk_encode, hstop, List.append_nil]
    · rw [harea] at hcs'
      exact prefix_of_encode hstop hcs'

def twoCounters : List Encoded := [
  ⟨1, 1, 5, true, by decide, by decide, by decide, by decide, by decide⟩,
  ⟨10, 5, (1 <<< 64) + 7, false, by decide, by decide, by decide, by decide, by decide⟩]

theorem decodeAll_longest_twoCounters :
    let bs := List.replicate 4 0xff ++ (encode twoCounters ++ (0 :: 0x70 :: List.replicate 600 0xff))
    512 ≤ bs.length ∧ (encode twoCounters).length = 16 ∧ decodeAll bs = .ok [⟨1, 5⟩, ⟨10, 7⟩] ∧
      ∃ cs, decodeAll (List.replicate 512 0xff) = .ok (cs.map Encoded.counter) ∧
        encode cs <+: area (List.replicate 512 0xff) ∧
        ∀ cs', encode cs' <+: area (List.replicate 512 0xff) → cs' <+: cs := by
  intro bs
  have hlength : 512 ≤ bs.length := by decide +kernel
  refine ⟨hlength, by decide, ?_, ?_⟩
  · exact decodeAll_longest.1 twoCounters _ _ rfl hlength (by decide) fun _ =>
      ⟨0, 0x70, List.replicate 600 0xff, rfl, by decide⟩
  · exact (decodeAll_longest.2 _).2 (Nat.le_of_eq List.length_replicate.symm)

end Ata.PhyCounter

end DriveHealth
