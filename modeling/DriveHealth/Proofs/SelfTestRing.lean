import DriveHealth.Proofs.CheckedAta
import DriveHealth.Proofs.Sector
import Mathlib.Data.List.Forall2
set_option autoImplicit false

/-!
The rings of the self-test logs. A drive writes one descriptor after the other into the slots of a sector and
starts over when it comes to the end; what is read back is the history of the last tests, newest first.
-/

namespace DriveHealth.Ata

section

variable {α : Type}

/-- The slots of a ring from the one before slot `next` back to slot `next` itself. -/
def recent (slots : List α) (next : Nat) : List α := (slots.take next).reverse ++ (slots.drop next).reverse

theorem recent_length (slots : List α) : recent slots slots.length = recent slots 0 := by simp [recent]

theorem length_recent (slots : List α) (next : Nat) : (recent slots next).length = slots.length := by
  simp only [recent, List.length_append, List.length_reverse, List.length_take, List.length_drop]
  omega

theorem recent_succ_mod {slots : List α} {n : Nat} (hlength : slots.length = n) (hpos : 0 < n) (m : Nat) :
    recent slots ((m + 1) % n) = recent slots (m % n + 1) := by
  subst hlength
  have hm := Nat.mod_lt m hpos
  rcases Nat.lt_or_ge (m % slots.length + 1) slots.length with hlt | hge
  · rw [Nat.add_mod, Nat.mod_eq_of_lt (show 1 < slots.length by omega), Nat.mod_eq_of_lt hlt]
  · have hlast : m % slots.length + 1 = slots.length := by omega
    rw [← Nat.mod_add_mod, hlast, Nat.mod_self, recent_length]

/-- What is written into the next slot comes first, and what stood there is gone. -/
theorem recent_set {slots : List α} {next : Nat} (h : next < slots.length) (x : α) :
    recent (slots.set next x) (next + 1) = (x :: recent slots next).take slots.length := by
  have hold : recent slots next =
      ((slots.take next).reverse ++ (slots.drop (next + 1)).reverse) ++ [slots[next]] := by
    rw [recent, List.drop_eq_getElem_cons h, List.reverse_cons, List.append_assoc]
  have hnew : recent (slots.set next x) (next + 1) =
      x :: ((slots.take next).reverse ++ (slots.drop (next + 1)).reverse) := by
    have htake : (slots.set next x).take (next + 1) = slots.take next ++ [x] := by
      rw [List.take_succ_eq_append_getElem (by simpa using h), List.take_set_of_le (Nat.le_refl _),
        List.getElem_set_self]
    rw [recent, htake, List.drop_set_of_lt (Nat.lt_succ_self _), List.reverse_append]
    rfl
  have hlength : (recent (slots.set next x) (next + 1)).length = slots.length := by
    rw [length_recent, List.length_set]
  rw [hold, ← List.cons_append, ← hnew, ← hlength, List.take_left]

theorem newestFirst_eq_recent {slots : List α} {newest : Nat} (h : 0 < newest) (hn : newest ≤ slots.length) :
    newestFirst slots newest = recent slots newest :=
  if_neg (by omega)

end

/-- How a ring of descriptors and the number of the newest one lie in a sector. The first slot has number 1,
and 0 stands for an empty ring. -/
structure RingLayout where
  slots : Nat
  size : Nat
  start : Nat
  numberAt : Nat
  numberWidth : Nat
  addressWidth : Nat
  slots_pos : 0 < slots := by decide
  slots_lt : slots < 1 <<< (8 * numberWidth) := by decide
  ring_le : start + size * slots ≤ sectorSize := by decide
  number_le : numberAt + numberWidth ≤ sectorSize := by decide
  apart : numberAt + numberWidth ≤ start ∨ start + size * slots ≤ numberAt := by decide

namespace RingLayout

variable (l : RingLayout)

def view (bs : List UInt8) : List (List UInt8) :=
  (List.range l.slots).map fun i => stretch bs (l.start + l.size * i) l.size

/-- The octets of a descriptor, which are not all zero. -/
structure Descriptor where
  octets : List UInt8
  length_octets : octets.length = l.size
  used : ∃ b ∈ octets, b ≠ 0

/-- The sector after more descriptors were written, the first of them into the slot that comes after
`written` ones. -/
def store : (written : Nat) → List l.Descriptor → List UInt8 → List UInt8
  | _, [], bs => bs
  | written, d :: ds, bs =>
    store (written + 1) ds (patch (l.start + l.size * (written % l.slots)) d.octets bs)

/-- The number of the slot that holds the last of `written` descriptors. -/
def newest (written : Nat) : Nat := if written = 0 then 0 else (written - 1) % l.slots + 1

/-- The sector of a drive that has written some descriptors, the oldest first. -/
def sector (ds : List l.Descriptor) : List UInt8 :=
  patch l.numberAt (littleOctets l.numberWidth (l.newest ds.length))
    (l.store 0 ds (List.replicate sectorSize 0))

variable {l}

theorem length_view (bs : List UInt8) : (l.view bs).length = l.slots := by simp [view]

theorem view_patch {bs d : List UInt8} (hbs : bs.length = sectorSize) (hd : d.length = l.size) {i : Nat}
    (hi : i < l.slots) : l.view (patch (l.start + l.size * i) d bs) = (l.view bs).set i d := by
  have hring := l.ring_le
  have hle (j k : Nat) (hjk : j < k) : l.size * j + l.size ≤ l.size * k := Nat.mul_le_mul_left l.size hjk
  have hfits : l.start + l.size * i + d.length ≤ bs.length := by
    have := hle i l.slots hi
    omega
  refine List.ext_getElem? fun j => ?_
  simp only [view, List.getElem?_set, List.length_map, List.length_range]
  by_cases hj : j < l.slots
  · rw [List.getElem?_map, List.getElem?_range hj, Option.map_some]
    by_cases hij : i = j
    · subst hij
      have hself : stretch (patch (l.start + l.size * i) d bs) (l.start + l.size * i) l.size = d := by
        have := stretch_patch_self hfits
        rwa [hd] at this
      rw [if_pos rfl, if_pos hi, hself]
    · have hapart : l.start + l.size * j + l.size ≤ l.start + l.size * i ∨
          l.start + l.size * i + d.length ≤ l.start + l.size * j := by
        rcases Nat.lt_or_gt_of_ne hij with hlt | hgt
        · have := hle i j hlt
          omega
        · have := hle j i hgt
          omega
      rw [if_neg hij, stretch_patch_of_apart hfits hapart, List.getElem?_map, List.getElem?_range hj,
        Option.map_some]
  · simp [hj, show ¬i = j by omega]

/-- The ring of a sector holds the end of a history, and nothing where the history is too short. -/
structure Holds (bs : List UInt8) (history : List l.Descriptor) : Prop where
  length_eq : bs.length = sectorSize
  recent_eq : recent (l.view bs) (history.length % l.slots) =
    ((history.map Descriptor.octets).reverse ++ List.replicate l.slots (List.replicate l.size 0)).take l.slots

theorem holds_blank : Holds (List.replicate sectorSize 0) ([] : List l.Descriptor) where
  length_eq := List.length_replicate
  recent_eq := by
    have hring := l.ring_le
    have hview : l.view (List.replicate sectorSize 0) = List.replicate l.slots (List.replicate l.size 0) := by
      refine List.eq_replicate_iff.2 ⟨length_view _, fun slot hslot => ?_⟩
      obtain ⟨i, hi, rfl⟩ := List.mem_map.1 hslot
      have hle : l.size * i + l.size ≤ l.size * l.slots :=
        Nat.mul_le_mul_left l.size (List.mem_range.1 hi)
      rw [stretch, List.drop_replicate, List.take_replicate]
      congr 1
      omega
    rw [hview]
    simp [recent]

theorem Holds.patch {bs : List UInt8} {history : List l.Descriptor} (h : Holds bs history)
    (d : l.Descriptor) :
    Holds (patch (l.start + l.size * (history.length % l.slots)) d.octets bs) (history ++ [d]) := by
  have hslot : history.length % l.slots < l.slots := Nat.mod_lt _ l.slots_pos
  have hview := view_patch h.length_eq d.length_octets hslot
  refine ⟨?_, ?_⟩
  · have hring := l.ring_le
    have hle : l.size * (history.length % l.slots) + l.size ≤ l.size * l.slots :=
      Nat.mul_le_mul_left l.size hslot
    have hd := d.length_octets
    rw [length_patch (by rw [h.length_eq]; omega), h.length_eq]
  · have hset : ((l.view bs).set (history.length % l.slots) d.octets).length = l.slots := by
      rw [List.length_set, length_view]
    rw [hview, List.length_append, List.length_singleton, recent_succ_mod hset l.slots_pos,
      recent_set (by rwa [length_view]), h.recent_eq, length_view]
    -- the oldest of the full ring is the one that goes
    obtain ⟨n, hn⟩ := Nat.exists_eq_succ_of_ne_zero (Nat.ne_of_gt l.slots_pos)
    simp only [List.map_append, List.map_cons, List.map_nil, List.reverse_append, List.reverse_cons,
      List.reverse_nil, List.nil_append, List.cons_append]
    generalize (history.map Descriptor.octets).reverse ++ List.replicate l.slots (List.replicate l.size 0) = all
    rw [hn, List.take_succ_cons, List.take_succ_cons, List.take_take]
    congr 2
    omega

theorem Holds.store {bs : List UInt8} {history : List l.Descriptor} (h : Holds bs history)
    (ds : List l.Descriptor) : Holds (l.store history.length ds bs) (history ++ ds) := by
  induction ds generalizing bs history with
  | nil => simpa [RingLayout.store] using h
  | cons d ds ih =>
    have hnext := ih (h.patch d)
    rwa [List.length_append, List.length_singleton, List.append_assoc, List.singleton_append] at hnext

variable (l)

def number (bs : List UInt8) : Nat := field bs l.numberAt l.numberWidth

/-- The octets of the descriptors that hold something, newest first. -/
def read (bs : List UInt8) : List (List UInt8) :=
  (newestFirst (l.view bs) (l.number bs)).filter fun d => d.any (· != 0)

theorem newest_le (written : Nat) : l.newest written ≤ l.slots := by
  have := Nat.mod_lt (written - 1) l.slots_pos
  unfold newest
  split <;> omega

variable {l}

theorem read_of_number {bs : List UInt8} (h : l.number bs = 0 ∨ l.slots < l.number bs) : l.read bs = [] := by
  rw [read, newestFirst, length_view, if_pos h]
  rfl

section

variable (ds : List l.Descriptor)

theorem holds_store : Holds (l.store 0 ds (List.replicate sectorSize 0)) ds := by
  simpa using holds_blank.store ds

theorem number_fits : l.numberAt + (littleOctets l.numberWidth (l.newest ds.length)).length ≤
    (l.store 0 ds (List.replicate sectorSize 0)).length := by
  rw [(holds_store ds).length_eq, length_littleOctets]
  exact l.number_le

theorem length_sector : (l.sector ds).length = sectorSize := by
  rw [sector, length_patch (number_fits ds), (holds_store ds).length_eq]

theorem number_sector : l.number (l.sector ds) = l.newest ds.length := by
  have hnumber := stretch_patch_self (number_fits ds)
  rw [length_littleOctets] at hnumber
  have hlt : l.newest ds.length < 1 <<< (8 * l.numberWidth) :=
    Nat.lt_of_le_of_lt (l.newest_le ds.length) l.slots_lt
  rw [number, field, sector, hnumber, littleEndian_littleOctets, Nat.mod_eq_of_lt hlt]

theorem view_sector : l.view (l.sector ds) = l.view (l.store 0 ds (List.replicate sectorSize 0)) := by
  refine List.map_congr_left fun i hi => ?_
  have hapart := l.apart
  have hle : l.size * i + l.size ≤ l.size * l.slots := Nat.mul_le_mul_left l.size (List.mem_range.1 hi)
  rw [sector, stretch_patch_of_apart (number_fits ds)]
  rw [length_littleOctets]
  omega

theorem read_sector : l.read (l.sector ds) = (ds.reverse.take l.slots).map Descriptor.octets := by
  have hnumber := number_sector ds
  cases hds : ds.length with
  | zero =>
    obtain rfl := List.length_eq_zero_iff.1 hds
    rw [read_of_number (.inl hnumber)]
    simp
  | succ m =>
    have hlength : (l.view (l.store 0 ds (List.replicate sectorSize 0))).length = l.slots := length_view _
    have hnewest : l.newest ds.length = m % l.slots + 1 := by simp [newest, hds]
    have hring : newestFirst (l.view (l.sector ds)) (l.number (l.sector ds)) =
        recent (l.view (l.store 0 ds (List.replicate sectorSize 0))) (ds.length % l.slots) := by
      rw [hnumber, hnewest, view_sector, newestFirst_eq_recent (by omega), hds,
        recent_succ_mod hlength l.slots_pos]
      rw [hlength, ← hnewest]
      exact l.newest_le ds.length
    have hused : ∀ d ∈ (ds.map Descriptor.octets).reverse.take l.slots, d.any (· != 0) = true := by
      intro d hd
      obtain ⟨d, -, rfl⟩ := List.mem_map.1 (List.mem_reverse.1 (List.mem_of_mem_take hd))
      obtain ⟨b, hb, hne⟩ := d.used
      exact List.any_eq_true.2 ⟨b, hb, by simpa using hne⟩
    have hunused (n : Nat) : ((List.replicate l.slots (List.replicate l.size (0 : UInt8))).take n).filter
        (fun d => d.any (· != 0)) = [] := by
      refine List.filter_eq_nil_iff.2 fun d hd => ?_
      obtain rfl := List.eq_of_mem_replicate (List.mem_of_mem_take hd)
      simp
    rw [read, hring, (holds_store ds).recent_eq, List.take_append, List.filter_append,
      List.filter_eq_self.2 hused, hunused, List.append_nil, ← List.map_reverse, List.map_take]

end

end RingLayout

/-- What the octets of a descriptor say. The address is that of the first sector that failed; there is none if
the test ended well, or if all bits of it are set. -/
structure SelfTest.Describes (addressWidth : Nat) (d : List UInt8) (t : SelfTest) : Prop where
  type_eq : t.type = field d 0 1
  status_eq : t.status = field d 1 1
  hours_eq : t.hours = field d 2 2
  failingLba_isSome : t.failingLba.isSome ↔
    t.status / 16 ≠ 0 ∧ field d 5 addressWidth ≠ (1 <<< (8 * addressWidth)) - 1
  failingLba_eq : ∀ lba ∈ t.failingLba, lba = field d 5 addressWidth

theorem SelfTest.describes_ofBlock {n : Nat} (width : Nat) (b : Block n) (h : (5 + width).ble n) :
    Describes width b.octets (ofBlock width b h) := by
  have hbyte (i : Nat) (hi : i.blt 5) : ((b.slice 0 5 (by
      have := Nat.le_of_ble_eq_true h
      simp only [Nat.ble_eq]
      omega)).byte i hi) = field b.octets i 1 :=
    (congrArg UInt8.toNat (Checked.octet_head b _ hi)).trans (byte_eq_field b i _)
  have hlba : (ofBlock width b h).failingLba =
      if field b.octets 5 width ≠ (1 <<< (8 * width)) - 1 ∧ (ofBlock width b h).status / 16 ≠ 0 then
        some (field b.octets 5 width)
      else none := rfl
  refine ⟨hbyte 0 rfl, hbyte 1 rfl, Checked.little_head b _ rfl, ?_, fun lba hmem => ?_⟩
  · rw [hlba, Option.isSome_ite]
    exact And.comm
  · rw [hlba] at hmem
    split at hmem
    · exact (Option.some.inj hmem).symm
    · cases hmem

namespace SelfTestLog

inductive Kind where
  | standard
  | extended
  deriving DecidableEq, Repr

namespace Kind

def layout : Kind → RingLayout
  | standard => { slots := 21, size := 24, start := 2, numberAt := 508, numberWidth := 1, addressWidth := 4 }
  | extended => { slots := 19, size := 26, start := 4, numberAt := 2, numberWidth := 2, addressWidth := 6 }

def decode : Kind → List UInt8 → Except Fault SelfTestLog
  | standard => SelfTestLog.decode
  | extended => SelfTestLog.decodeExt

end Kind

theorem octets_used {n : Nat} (slots : List (Block n)) (newest : Nat) :
    (used slots newest).map Block.octets =
      (newestFirst (slots.map Block.octets) newest).filter fun d => d.any (· != 0) := by
  rw [used, newestFirst_map, List.filter_map]
  rfl

theorem Kind.describes_decode (kind : Kind) {bs : List UInt8} (h : sectorSize ≤ bs.length) :
    ∃ log, kind.decode bs = .ok log ∧
      List.Forall₂ (SelfTest.Describes kind.layout.addressWidth) (kind.layout.read bs) log.entries := by
  obtain ⟨b, rfl⟩ := Checked.exists_block (n := 512) h
  have hdescribes {n : Nat} (width : Nat) (slots : List (Block n)) (hw : (5 + width).ble n) :
      List.Forall₂ (SelfTest.Describes width) (slots.map Block.octets)
        (slots.map fun d => SelfTest.ofBlock width d hw) := by
    rw [List.forall₂_map_left_iff, List.forall₂_map_right_iff]
    exact List.forall₂_same.2 fun d _ => SelfTest.describes_ofBlock width d hw
  cases kind with
  | standard =>
    refine ⟨_, by rw [Kind.decode, SelfTestLog.decode, Checked.require_octets]; rfl, ?_⟩
    have hread : Kind.standard.layout.read b.octets =
        (used (b.records 2 24 21) (b.byte 508)).map Block.octets := by
      have hnumber : b.byte 508 = field b.octets 508 1 := byte_eq_field b 508 rfl
      rw [octets_used, Checked.octets_records]
      exact congrArg (fun newest => (newestFirst _ newest).filter _) hnumber.symm
    rw [hread]
    exact hdescribes 4 _ rfl
  | extended =>
    refine ⟨_, by rw [Kind.decode, SelfTestLog.decodeExt, Checked.require_octets]; rfl, ?_⟩
    have hread : Kind.extended.layout.read b.octets =
        (used (b.records 4 26 19) (b.little 2 2)).map Block.octets := by
      rw [octets_used, Checked.octets_records]
      rfl
    rw [hread]
    exact hdescribes 6 _ rfl

/-- However many tests a drive has run, its log holds the last of them as far as the slots suffice, newest
first. A number that names no slot stands for no tests. -/
theorem holds_last_tests (kind : Kind) :
    (∀ ds : List kind.layout.Descriptor, ∃ log, kind.decode (kind.layout.sector ds) = .ok log ∧
      log.entries.length = min ds.length kind.layout.slots ∧
      List.Forall₂ (SelfTest.Describes kind.layout.addressWidth)
        ((ds.reverse.take kind.layout.slots).map (·.octets)) log.entries) ∧
    ∀ bs : List UInt8, sectorSize ≤ bs.length →
      kind.layout.number bs = 0 ∨ kind.layout.slots < kind.layout.number bs →
      ∃ log, kind.decode bs = .ok log ∧ log.entries = [] := by
  refine ⟨fun ds => ?_, fun bs hlength hnumber => ?_⟩
  · have hlength := Nat.le_of_eq (RingLayout.length_sector ds).symm
    obtain ⟨log, hdecode, hentries⟩ := kind.describes_decode hlength
    rw [RingLayout.read_sector] at hentries
    refine ⟨log, hdecode, ?_, hentries⟩
    rw [← hentries.length_eq, List.length_map, List.length_take, List.length_reverse, Nat.min_comm]
  · obtain ⟨log, hdecode, hentries⟩ := kind.describes_decode hlength
    rw [RingLayout.read_of_number hnumber] at hentries
    exact ⟨log, hdecode, List.forall₂_nil_left_iff.1 hentries⟩

def twentyTests : List Kind.extended.layout.Descriptor :=
  (List.range 20).map fun k => ⟨[2, 0, UInt8.ofNat k] ++ List.replicate 23 0, rfl, 2, by simp, by decide⟩

/-- The ring of 19 slots has lost the first of twenty tests. A log of 21 slots has no slot 22. -/
theorem holds_last_tests_twenty :
    (∃ log, Kind.extended.decode (Kind.extended.layout.sector twentyTests) = .ok log ∧
      log.entries.length = 19 ∧
      List.Forall₂ (SelfTest.Describes 6) ((twentyTests.reverse.take 19).map (·.octets)) log.entries) ∧
    let bs := patch 508 [22] (List.replicate 512 1)
    sectorSize ≤ bs.length ∧ Kind.standard.layout.slots < Kind.standard.layout.number bs ∧
      ∃ log, Kind.standard.decode bs = .ok log ∧ log.entries = [] := by
  have hlength : sectorSize ≤ (patch 508 [22] (List.replicate 512 1)).length := by decide +kernel
  have hnumber : Kind.standard.layout.slots <
      Kind.standard.layout.number (patch 508 [22] (List.replicate 512 1)) := by decide +kernel
  exact ⟨(holds_last_tests .extended).1 twentyTests, hlength, hnumber,
    (holds_last_tests .standard).2 _ hlength (.inr hnumber)⟩

end SelfTestLog

end DriveHealth.Ata
