import DriveHealth.Linux.Device
import DriveHealth.Proofs.CheckedScsi
set_option autoImplicit false

namespace DriveHealth.Scsi

theorem AtaRegisters.inDescriptors_take_of_lt {bs : List UInt8} {k : Nat} (h : k < 2) :
    inDescriptors (bs.take k) = none := by
  refine inDescriptors_of_short ?_
  rw [List.length_take]
  omega

/-- A type, and as many octets as the length before them says. An ATA status, of type 9, has twelve. -/
structure SenseDescriptor where
  type : UInt8
  payload : List UInt8
  length_lt : payload.length < 256
  status_length : type = 9 → payload.length = 12

namespace SenseDescriptor

def octets (d : SenseDescriptor) : List UInt8 := d.type :: UInt8.ofNat d.payload.length :: d.payload

def registers (d : SenseDescriptor) (h : d.type = 9) : AtaRegisters :=
  let b : Block 12 := ⟨d.payload, Nat.le_of_eq (d.status_length h).symm⟩
  ⟨b.octet 3, b.octet 7, b.octet 9⟩

def layout (ds : List SenseDescriptor) : List UInt8 := ds.flatMap octets

/-- The first ATA status among some descriptors is `d`, behind `before`. -/
structure FirstStatus (ds before : List SenseDescriptor) (d : SenseDescriptor) : Prop where
  type_eq : d.type = 9
  type_ne : ∀ e ∈ before, e.type ≠ 9
  split : ∃ after, ds = before ++ d :: after

variable {d : SenseDescriptor}

theorem length_octets : d.octets.length = d.payload.length + 2 := rfl

theorem toNat_length : (UInt8.ofNat d.payload.length).toNat = d.payload.length :=
  UInt8.toNat_ofNat_of_lt' d.length_lt

theorem take_octets_append (rest : List UInt8) (k : Nat) : (d.octets ++ rest).take (k + 2) =
    d.type :: UInt8.ofNat d.payload.length :: (d.payload ++ rest).take k := rfl

/-- The walk passes over another descriptor, however much of it is there. -/
theorem inDescriptors_other (h : d.type ≠ 9) (rest : List UInt8) (k : Nat) :
    AtaRegisters.inDescriptors ((d.octets ++ rest).take k) =
      AtaRegisters.inDescriptors (rest.take (k - d.octets.length)) := by
  match k with
  | 0 | 1 =>
    rw [AtaRegisters.inDescriptors_take_of_lt (by omega), AtaRegisters.inDescriptors_take_of_lt (by omega)]
  | k + 2 =>
    have hdrop : ((d.payload ++ rest).take k).drop d.payload.length = rest.take (k - d.payload.length) := by
      rw [List.drop_take, List.drop_left]
    rw [take_octets_append, AtaRegisters.inDescriptors, dif_neg (fun hstatus => h hstatus.1), toNat_length,
      hdrop, length_octets, Nat.add_sub_add_right]

theorem inDescriptors_status (h : d.type = 9) (rest : List UInt8) (k : Nat) :
    AtaRegisters.inDescriptors ((d.octets ++ rest).take k) =
      if 12 ≤ k then some (d.registers h) else none := by
  have hlength := d.status_length h
  match k with
  | 0 | 1 => rw [AtaRegisters.inDescriptors_take_of_lt (by omega), if_neg (by omega)]
  | k + 2 =>
    have hleft : ((d.payload ++ rest).take k).length = min k (12 + rest.length) := by
      rw [List.length_take, List.length_append, hlength]
    rw [take_octets_append, AtaRegisters.inDescriptors]
    by_cases hk : 12 ≤ k + 2
    · rw [dif_pos ⟨h, by simp only [List.length_cons]; omega⟩, if_pos hk]
      simp [registers, Block.octet, List.getElem_append_left, hlength]
    · have hgone : ((d.payload ++ rest).take k).drop (UInt8.ofNat d.payload.length).toNat = [] := by
        refine List.drop_eq_nil_of_le ?_
        rw [toNat_length]
        omega
      rw [dif_neg (fun hstatus => hk (by have := hstatus.2; simp only [List.length_cons] at this; omega)),
        if_neg hk, hgone]
      exact AtaRegisters.inDescriptors_of_short (by decide)

theorem inDescriptors_others {before : List SenseDescriptor} (h : ∀ e ∈ before, e.type ≠ 9)
    (rest : List UInt8) (k : Nat) :
    AtaRegisters.inDescriptors ((layout before ++ rest).take k) =
      AtaRegisters.inDescriptors (rest.take (k - (layout before).length)) := by
  induction before generalizing k with
  | nil => rfl
  | cons e before ih =>
    obtain ⟨he, hbefore⟩ := List.forall_mem_cons.1 h
    rw [layout, List.flatMap_cons, ← layout, List.append_assoc, inDescriptors_other he, ih hbefore,
      List.length_append, Nat.sub_sub]

theorem layout_firstStatus {ds before : List SenseDescriptor} (h : FirstStatus ds before d) :
    ∃ after, layout ds = layout before ++ (d.octets ++ layout after) := by
  obtain ⟨after, rfl⟩ := h.split
  exact ⟨after, by rw [layout, List.flatMap_append, List.flatMap_cons]; rfl⟩

theorem length_firstStatus {ds before : List SenseDescriptor} (h : FirstStatus ds before d) :
    (layout before).length + 12 ≤ (layout ds).length := by
  obtain ⟨after, hlayout⟩ := layout_firstStatus h
  rw [hlayout, List.length_append, List.length_append, length_octets, d.status_length h.type_eq]
  omega

theorem inDescriptors_firstStatus {ds before : List SenseDescriptor} (h : FirstStatus ds before d) (k : Nat) :
    AtaRegisters.inDescriptors ((layout ds).take k) =
      if (layout before).length + 12 ≤ k then some (d.registers h.type_eq) else none := by
  obtain ⟨after, hlayout⟩ := layout_firstStatus h
  have hroom : 12 ≤ k - (layout before).length ↔ (layout before).length + 12 ≤ k := by omega
  simp only [hlayout, inDescriptors_others h.type_ne, inDescriptors_status h.type_eq, hroom]

theorem inDescriptors_noStatus {ds : List SenseDescriptor} (h : ∀ e ∈ ds, e.type ≠ 9) (k : Nat) :
    AtaRegisters.inDescriptors ((layout ds).take k) = none := by
  rw [← List.append_nil (layout ds), inDescriptors_others h, List.take_nil]
  exact AtaRegisters.inDescriptors_of_short (by decide)

end SenseDescriptor

open SenseDescriptor

/-- Sense data in descriptor format: a response code, six octets that are read elsewhere, the length of all
descriptors, and these. -/
structure DescriptorSense where
  code : UInt8
  front : List UInt8
  descriptors : List SenseDescriptor
  code_eq : code &&& 0x7f = 0x72 ∨ code &&& 0x7f = 0x73
  front_length : front.length = 6
  total_lt : (layout descriptors).length < 256

namespace DescriptorSense

variable (s : DescriptorSense)

def header : List UInt8 := s.code :: (s.front ++ [UInt8.ofNat (layout s.descriptors).length])

def octets : List UInt8 := s.header ++ layout s.descriptors

theorem length_header : s.header.length = 8 := by simp [header, s.front_length]

theorem senseFormat?_cons (bs : List UInt8) : senseFormat? (s.code :: bs) = some .descriptor := by
  rw [senseFormat?_of_code rfl, if_neg (not_fixed_of_descriptor s.code_eq), if_pos s.code_eq]

theorem toNat_total : (UInt8.ofNat (layout s.descriptors).length).toNat = (layout s.descriptors).length :=
  UInt8.toNat_ofNat_of_lt' s.total_lt

theorem ofSense?_header (left : List UInt8) : AtaRegisters.ofSense? (s.header ++ left) =
    AtaRegisters.inDescriptors (left.take (layout s.descriptors).length) := by
  have hlength : 8 ≤ (s.header ++ left).length := by
    rw [List.length_append, s.length_header]
    omega
  obtain ⟨b, hb⟩ := Checked.exists_block hlength
  have hformat : senseFormat? b.octets = some .descriptor := by
    rw [hb]
    exact s.senseFormat?_cons _
  have htotal : b.byte 7 = (layout s.descriptors).length := by
    rw [← s.toNat_total]
    simp [Block.byte, Block.octet, hb, header, s.front_length]
  have hleft : b.octets.drop 8 = left := by rw [hb, ← s.length_header, List.drop_left]
  rw [← hb]
  simp [AtaRegisters.ofSense?, hformat, Checked.ofOctets?_octets, htotal, hleft]

theorem ofSense?_cut {n : Nat} (hn : n < 8) (tail : List UInt8) :
    AtaRegisters.ofSense? ((s.octets ++ tail).take n) = none := by
  cases n with
  | zero => rfl
  | succ n =>
    have hshort : Block.ofOctets? 8 ((s.octets ++ tail).take (n + 1)) = none := by
      refine Checked.ofOctets?_short ?_
      rw [List.length_take]
      omega
    have hformat : senseFormat? ((s.octets ++ tail).take (n + 1)) = some .descriptor :=
      s.senseFormat?_cons _
    simp [AtaRegisters.ofSense?, hformat, hshort]

theorem ofSense?_take (tail : List UInt8) (n : Nat) :
    AtaRegisters.ofSense? ((s.octets ++ tail).take n) =
      AtaRegisters.inDescriptors ((layout s.descriptors).take (n - 8)) := by
  rcases Nat.lt_or_ge n 8 with hn | hn
  · rw [s.ofSense?_cut hn, AtaRegisters.inDescriptors_take_of_lt (by omega)]
  · have htake : (s.octets ++ tail).take n = s.header ++ (layout s.descriptors ++ tail).take (n - 8) := by
      rw [octets, List.append_assoc, List.take_append, s.length_header,
        List.take_of_length_le (by rw [s.length_header]; exact hn)]
    rw [htake, s.ofSense?_header, List.take_take, Nat.min_comm, ← List.take_take, List.take_left]

theorem ofSense?_octets {before : List SenseDescriptor} {d : SenseDescriptor}
    (h : FirstStatus s.descriptors before d) :
    AtaRegisters.ofSense? s.octets = some (d.registers h.type_eq) := by
  rw [octets, s.ofSense?_header, inDescriptors_firstStatus h, if_pos (length_firstStatus h)]

end DescriptorSense

theorem AtaRegisters.ofSense?_fixed {b : Block 12}
    (h : b.octet 0 &&& 0x7f = 0x70 ∨ b.octet 0 &&& 0x7f = 0x71) :
    ofSense? b.octets = some ⟨b.octet 6, b.octet 10, b.octet 9⟩ := by
  have hcode : responseCode? b.octets = some (b.octet 0 &&& 0x7f) := by
    rw [responseCode?, List.head?_eq_getElem?, List.getElem?_eq_getElem (by have := b.le_length; omega)]
    rfl
  have hformat : senseFormat? b.octets = some .fixed := by rw [senseFormat?_of_code hcode, if_pos h]
  simp [ofSense?, hformat, Checked.ofOctets?_octets]

section

variable (r : Ata.Response)

theorem smartPassed?_true_iff : r.smartPassed? = some true ↔ r.lbaMid = 0x4f ∧ r.lbaHigh = 0xc2 := by
  unfold Ata.Response.smartPassed?
  split
  case isTrue hpassed => simp [hpassed]
  case isFalse hpassed => split <;> simp [hpassed]

theorem smartPassed?_false_iff : r.smartPassed? = some false ↔ r.lbaMid = 0xf4 ∧ r.lbaHigh = 0x2c := by
  unfold Ata.Response.smartPassed?
  split
  case isTrue hpassed => simp [hpassed]
  case isFalse => split <;> simp [*]

end

theorem responseOf_registers {t : Ata.Taskfile} {x : Linux.Completion} {r : AtaRegisters}
    (ht : t.wantsRegisters) (hx : AtaRegisters.ofSense? x.sense = some r) :
    (Linux.Device.responseOf t x).lbaMid = r.lbaMid ∧ (Linux.Device.responseOf t x).lbaHigh = r.lbaHigh := by
  simp [Linux.Device.responseOf, ht, hx]

/-- Sense data in descriptor format gives the registers of its first ATA status, if the first twelve octets of
that are there, and else none. Sense data in fixed format gives those at their places. Two that hold the same
registers are read alike, and the verdict on the health of the drive is in these only. Reading any sense data
ends. -/
theorem AtaRegisters.read_back :
    (∀ (s : DescriptorSense) (tail : List UInt8) (n : Nat),
      (∀ before d, (h : FirstStatus s.descriptors before d) →
        ofSense? ((s.octets ++ tail).take n) =
          if 8 + (layout before).length + 12 ≤ n then some (d.registers h.type_eq) else none) ∧
      ((∀ d ∈ s.descriptors, d.type ≠ 9) → ofSense? ((s.octets ++ tail).take n) = none)) ∧
    (∀ b : Block 12, b.octet 0 &&& 0x7f = 0x70 ∨ b.octet 0 &&& 0x7f = 0x71 →
      ofSense? b.octets = some ⟨b.octet 6, b.octet 10, b.octet 9⟩ ∧
      ∀ (s : DescriptorSense) before d, (h : FirstStatus s.descriptors before d) →
        d.registers h.type_eq = ⟨b.octet 6, b.octet 10, b.octet 9⟩ →
        ofSense? s.octets = ofSense? b.octets) ∧
    (∀ (t : Ata.Taskfile) (x : Linux.Completion) (r : AtaRegisters), t.wantsRegisters = true →
      ofSense? x.sense = some r →
      ((Linux.Device.responseOf t x).smartPassed? = some true ↔ r.lbaMid = 0x4f ∧ r.lbaHigh = 0xc2) ∧
      ((Linux.Device.responseOf t x).smartPassed? = some false ↔ r.lbaMid = 0xf4 ∧ r.lbaHigh = 0x2c)) ∧
    ∀ bs : List UInt8, parse bs = .ok (ofSense? bs) := by
  have hstatus (s : DescriptorSense) (tail : List UInt8) (n : Nat) (before : List SenseDescriptor)
      (d : SenseDescriptor) (h : FirstStatus s.descriptors before d) :
      ofSense? ((s.octets ++ tail).take n) =
        if 8 + (layout before).length + 12 ≤ n then some (d.registers h.type_eq) else none := by
    have hroom : (layout before).length + 12 ≤ n - 8 ↔ 8 + (layout before).length + 12 ≤ n := by omega
    simp only [s.ofSense?_take, inDescriptors_firstStatus h, hroom]
  refine ⟨fun s tail n => ⟨hstatus s tail n, fun h => ?_⟩, fun b hb => ⟨ofSense?_fixed hb, ?_⟩,
    fun t x r ht hx => ?_, parse_eq⟩
  · rw [s.ofSense?_take, inDescriptors_noStatus h]
  · intro s before d h hregisters
    rw [s.ofSense?_octets h, hregisters, ofSense?_fixed hb]
  · obtain ⟨hmid, hhigh⟩ := responseOf_registers ht hx
    rw [smartPassed?_true_iff, smartPassed?_false_iff, hmid, hhigh]
    exact ⟨Iff.rfl, Iff.rfl⟩

def emptyDescriptor : SenseDescriptor := ⟨0, [], by decide, by decide⟩

def failingStatus : SenseDescriptor :=
  ⟨9, [0, 0, 0, 1, 0, 0, 0, 0xf4, 0, 0x2c, 0, 0x50], by decide, by decide⟩

def failingSense : DescriptorSense where
  code := 0xf2
  front := [1, 0, 0x1d, 0, 0, 0]
  descriptors := [emptyDescriptor, failingStatus]
  code_eq := by decide
  front_length := rfl
  total_lt := by decide

theorem AtaRegisters.read_back_failing :
    let fixed : Block 12 := ⟨[0x70, 0, 0, 0, 0, 0, 1, 0, 0, 0x2c, 0xf4, 0], by decide⟩
    let bare := { failingSense with descriptors := [emptyDescriptor], total_lt := by decide }
    let cut : Linux.Completion := { senseBuffer := failingSense.octets, senseLength := 22 }
    FirstStatus failingSense.descriptors [emptyDescriptor] failingStatus ∧
    ofSense? (failingSense.octets.take 22) = some ⟨1, 0xf4, 0x2c⟩ ∧
    ofSense? (failingSense.octets.take 21) = none ∧
    ofSense? (bare.octets.take 22) = none ∧
    ofSense? failingSense.octets = ofSense? fixed.octets ∧
    (Linux.Device.responseOf .smartReturnStatus cut).smartPassed? = some false := by
  intro fixed bare cut
  have hfirst : FirstStatus failingSense.descriptors [emptyDescriptor] failingStatus :=
    ⟨rfl, by decide, [], rfl⟩
  obtain ⟨hdescriptor, hfixed, hverdict, -⟩ := read_back
  have hsense (n : Nat) : ofSense? (failingSense.octets.take n) =
      if 22 ≤ n then some ⟨1, 0xf4, 0x2c⟩ else none := by
    rw [← List.append_nil failingSense.octets]
    exact (hdescriptor failingSense [] n).1 _ _ hfirst
  refine ⟨hfirst, hsense 22, hsense 21, ?_, ?_, ?_⟩
  · rw [← List.append_nil bare.octets]
    exact (hdescriptor bare [] 22).2 (by decide)
  · exact (hfixed fixed (.inl (by decide))).2 failingSense _ _ hfirst rfl
  · exact (hverdict .smartReturnStatus cut _ rfl (hsense 22)).2.2 ⟨rfl, rfl⟩

end DriveHealth.Scsi
