import DriveHealth.Ata.Identity
import DriveHealth.Ata.Log
import DriveHealth.Ata.PhyCounter
import DriveHealth.Ata.SelfTest
import DriveHealth.Ata.SmartData
import DriveHealth.Proofs.Checked
set_option autoImplicit false

namespace DriveHealth.Ata

open Checked

def Identity.parse (bs : List UInt8) : Checked (Except Fault Identity) :=
  ensure 512 "IDENTIFY DEVICE" bs do
    let words ← (List.range 256).mapM fun i => do little16 bs (← mul 64 i 2)
    if h : words.length = 256 then return ⟨words, h⟩ else .error .outOfBounds

def Attribute.parse (raw : List UInt8) : Checked Attribute := do
  return {
    id := (← index raw 0).toNat
    flags := ← little16 raw 1
    value := (← index raw 3).toNat
    worst := (← index raw 4).toNat
    vendor := [← index raw 5, ← index raw 6, ← index raw 7, ← index raw 8, ← index raw 9,
      ← index raw 10] }

def Threshold.parse (raw : List UInt8) : Checked Threshold := do
  return ⟨(← index raw 0).toNat, (← index raw 1).toNat⟩

def parseSlots {α : Type} (bs : List UInt8) (f : List UInt8 → Checked α) : Checked (List α) := do
  collect (fun raw => do return (← index raw 0).toNat != 0) f (chunks 12 (← slice bs 2 362))

def SmartData.parse (bs : List UInt8) : Checked (Except Fault SmartData) :=
  ensure 512 "SMART READ DATA" bs do
    let attributes ← parseSlots bs Attribute.parse
    let short := (← index bs 373).toNat
    return {
      revision := ← little16 bs 0
      attributes
      offlineStatus := (← index bs 362).toNat
      selfTestStatus := (← index bs 363).toNat
      offlineSeconds := ← little16 bs 364
      offlineCapability := (← index bs 367).toNat
      smartCapability := ← little16 bs 368
      errorLogCapability := (← index bs 370).toNat
      shortMinutes := (← index bs 372).toNat
      extendedMinutes := ← if short = 0xff then little16 bs 375 else pure short
      conveyanceMinutes := (← index bs 374).toNat }

def Threshold.parseAll (bs : List UInt8) : Checked (Except Fault (List Threshold)) :=
  ensure 512 "SMART READ THRESHOLDS" bs (parseSlots bs Threshold.parse)

def ErrorCount.parseSummary (bs : List UInt8) : Checked (Except Fault ErrorCount) :=
  ensure 512 "summary error log" bs do
    return ⟨(← index bs 0).toNat, ← little16 bs 452⟩

def ErrorCount.parseExt (bs : List UInt8) : Checked (Except Fault ErrorCount) :=
  ensure 512 "extended error log" bs do
    return ⟨← little16 bs 0, ← little16 bs 500⟩

def SelfTest.parse (width : Nat) (address : List UInt8 → Checked Nat) (raw : List UInt8) :
    Checked SelfTest := do
  let lba ← address raw
  let status := (← index raw 1).toNat
  let outcome ← shr 8 status 4
  return {
    type := (← index raw 0).toNat
    status
    hours := ← little16 raw 2
    failingLba := if lba ≠ (1 <<< (8 * width)) - 1 ∧ outcome ≠ 0 then some lba else none }

/-- The slots of a ring, each found by its distance from the newest one. -/
def parseRing {α : Type} (slots : List α) (newest : Nat) : Checked (List α) := do
  let n := slots.length
  if newest = 0 ∨ n < newest then return []
  else (List.range n).mapM fun back => do
    index slots (← rem (← sub (← add 64 (← sub newest 1) n) back) n)

def SelfTestLog.parseEntries (descriptors : List (List UInt8)) (newest : Nat)
    (f : List UInt8 → Checked SelfTest) : Checked (List SelfTest) := do
  collect (fun raw => return raw.any (· != 0)) f (← parseRing descriptors newest)

def SelfTestLog.parse (bs : List UInt8) : Checked (Except Fault SelfTestLog) :=
  ensure 512 "self-test log" bs do
    let descriptors := chunks 24 (← slice bs 2 506)
    let entries ← parseEntries descriptors (← index bs 508).toNat
      (SelfTest.parse 4 fun raw => little32 raw 5)
    return ⟨← little16 bs 0, entries⟩

def SelfTestLog.parseExt (bs : List UInt8) : Checked (Except Fault SelfTestLog) :=
  ensure 512 "extended self-test log" bs do
    let descriptors := chunks 26 (← slice bs 4 498)
    let entries ← parseEntries descriptors (← little16 bs 2)
      (SelfTest.parse 6 fun raw => do littleFold (← slice raw 5 11))
    return ⟨(← index bs 0).toNat, entries⟩

def SelectiveLog.parse (bs : List UInt8) : Checked (Except Fault SelectiveLog) :=
  ensure 512 "selective self-test log" bs do
    let spans ← (chunks 16 (← slice bs 2 82)).mapM fun raw => do
      return (⟨← littleFold (← slice raw 0 8), ← littleFold (← slice raw 8 16)⟩ : Span)
    return ⟨← little16 bs 0, spans⟩

def LogDirectory.parse (bs : List UInt8) : Checked (Except Fault LogDirectory) :=
  ensure 512 "log directory" bs do
    let entries ← (List.range 255).mapM fun i => do
      let address := i + 1
      return (⟨address, ← little16 bs (← mul 64 address 2)⟩ : DirectoryEntry)
    return ⟨← little16 bs 0, entries.filter (·.sectors != 0)⟩

def SctTemperatures.parse (bs : List UInt8) : Checked (Except Fault SctTemperatures) :=
  ensure 512 "SCT status" bs do
    return {
      version := ← little16 bs 0
      current := degrees (← index bs 200).toNat
      cycleMin := degrees (← index bs 201).toNat
      cycleMax := degrees (← index bs 202).toNat
      lifeMin := degrees (← index bs 203).toNat
      lifeMax := degrees (← index bs 204).toNat }

def parseStatisticsPages (bs : List UInt8) : Checked (Except Fault (List Nat)) :=
  ensure 512 "device statistics" bs do
    let count := min (← index bs 8).toNat (← sub sectorSize 9)
    return (← slice bs 9 (← add 64 9 count)).map UInt8.toNat

def parsePendingDefects (bs : List UInt8) : Checked (Except Fault Nat) :=
  ensure 512 "pending defects log" bs (little32 bs 0)

/-- Reads the counter at a position behind those that were found, or ends with these. -/
def PhyCounter.step (bs : List UInt8) (s : Nat × List PhyCounter) :
    Checked ((Nat × List PhyCounter) ⊕ List PhyCounter) := do
  let stop ← sub sectorSize 4
  if (← add 64 s.1 2) ≤ stop then
    let header ← little16 bs s.1
    let id := header &&& 0x0fff
    if id = 0 then return .inr s.2
    else
      let size ← mul 64 ((← shr 16 header 12) &&& 7) 2
      let start ← add 64 s.1 2
      let next ← add 64 start size
      if size = 0 ∨ stop < next then return .inr s.2
      else return .inl (next, s.2 ++ [⟨id, ← littleFold (← slice bs start next)⟩])
  else return .inr s.2

def PhyCounter.parseAll (bs : List UInt8) : Checked (Except Fault (List PhyCounter)) :=
  ensure 512 "SATA Phy event counters" bs (loop (step bs) sectorSize (4, []))

theorem Identity.parse_eq (bs : List UInt8) : parse bs = .ok (decode bs) := by
  have hwords (b : Block 512) : (List.range 256).mapM (fun i => do little16 b.octets (← mul 64 i 2)) =
      .ok (ofBlock b).words := by
    have hrecords := congrArg (List.map littleEndian) (octets_records b 0 2 256 rfl)
    rw [mapM_ok (g := fun i => littleEndian ((b.octets.drop (2 * i)).take 2))]
    · simpa [ofBlock, Function.comp_def] using hrecords.symm
    · intro i hi
      have hi : i < 256 := List.mem_range.1 hi
      rw [mul_ok (by omega), ok_bind, Nat.mul_comm, little16_octets b (by omega) (by omega)]
      rfl
  refine ensure_ok fun b hb => ?_
  subst hb
  rw [hwords, ok_bind, dif_pos (ofBlock b).length_words]
  rfl

theorem Attribute.parse_octets (b : Block 12) : parse b.octets = .ok (ofBlock b) := by
  have hvendor : (b.slice 5 6).octets =
      [b.octet 5, b.octet 6, b.octet 7, b.octet 8, b.octet 9, b.octet 10] := by
    have h := octetsAt_octets b 5 6 rfl (by omega)
    simpa [octetsAt, List.range_succ, add_ok, index_octets] using h.symm
  simp [parse, ofBlock, index_octets, little16_octets, hvendor, Block.byte]

theorem Threshold.parse_octets (b : Block 12) : parse b.octets = .ok (ofBlock b) := by
  simp [parse, ofBlock, index_octets, Block.byte]

theorem parseSlots_octets {α : Type} (b : Block 512) {f : List UInt8 → Checked α} {g : Block 12 → α}
    (h : ∀ slot : Block 12, f slot.octets = .ok (g slot)) :
    parseSlots b.octets f = .ok ((usedSlots b).map g) := by
  have hslice : slice b.octets 2 362 = .ok (b.slice 2 360).octets := slice_octets b 2 360
  have hchunks := chunks_octets b 2 12 30 (by omega)
  rw [parseSlots, hslice, ok_bind, hchunks, collect_map]
  refine collect_ok (fun slot _ => ?_) fun slot _ => h slot
  rw [index_octets slot (by omega)]
  rfl

theorem SmartData.parse_eq (bs : List UInt8) : parse bs = .ok (decode bs) := by
  refine ensure_ok fun b hb => ?_
  subst hb
  have hslots := parseSlots_octets b Attribute.parse_octets
  by_cases hshort : (b.octet 373).toNat = 0xff <;>
    simp [hslots, index_octets, little16_octets, ofBlock, Block.byte, hshort]

theorem Threshold.parseAll_eq (bs : List UInt8) : parseAll bs = .ok (decodeAll bs) :=
  ensure_ok fun b hb => hb ▸ parseSlots_octets b Threshold.parse_octets

theorem ErrorCount.parseSummary_eq (bs : List UInt8) : parseSummary bs = .ok (decodeSummary bs) := by
  refine ensure_ok fun b hb => ?_
  subst hb
  simp [index_octets, little16_octets, Block.byte]

theorem ErrorCount.parseExt_eq (bs : List UInt8) : parseExt bs = .ok (decodeExt bs) := by
  refine ensure_ok fun b hb => ?_
  subst hb
  simp [little16_octets]

theorem SelfTest.parse_octets {n : Nat} {width : Nat} {address : List UInt8 → Checked Nat} (b : Block n)
    (h : (5 + width).ble n) (ha : address b.octets = .ok (b.little 5 width h)) :
    parse width address b.octets = .ok (ofBlock width b h) := by
  have hn := Nat.le_of_ble_eq_true h
  have houtcome (status : Nat) : status >>> 4 = status / 16 := Nat.shiftRight_eq_div_pow status 4
  have hstatus := octet_head b (k := 5) (i := 1) (Nat.ble_eq_true_of_le (by omega)) rfl
  have htype := octet_head b (k := 5) (i := 0) (Nat.ble_eq_true_of_le (by omega)) rfl
  have hhours := little_head b (k := 5) (i := 2) (j := 2) (Nat.ble_eq_true_of_le (by omega)) rfl
  simp [parse, ha, index_octets b (show 1 < n by omega), index_octets b (show 0 < n by omega),
    little16_octets b (show 2 + 2 ≤ n by omega) (by omega), shr_ok, houtcome, ofBlock, Block.byte,
    hstatus, htype, hhours]

theorem parseRing_eq {α : Type} (slots : List α) (newest : Nat) (hn : slots.length < 1 <<< 63) :
    parseRing slots newest = .ok (newestFirst slots newest) := by
  by_cases hnone : newest = 0 ∨ slots.length < newest
  · simp [parseRing, newestFirst, hnone]
  · have hpos : 0 < slots.length := by omega
    have hring : ∀ back ∈ List.range slots.length,
        (do index slots (← rem (← sub (← add 64 (← sub newest 1) slots.length) back) slots.length)) =
          .ok (slots.get ⟨(newest - 1 + slots.length - back) % slots.length, Nat.mod_lt _ hpos⟩) := by
      intro back hback
      have hback : back < slots.length := List.mem_range.1 hback
      rw [sub_ok (by omega), ok_bind, add_ok (by omega), ok_bind, sub_ok (by omega), ok_bind,
        rem_ok hpos, ok_bind, index_ok (Nat.mod_lt _ hpos), List.get_eq_getElem]
    rw [parseRing, if_neg hnone, mapM_ok hring, newestFirst, if_neg hnone]
    refine congrArg Except.ok (List.ext_getElem (by simp; omega) fun back hback _ => ?_)
    have hback : back < slots.length := by simpa using hback
    have hmin : min newest slots.length = newest := Nat.min_eq_left (by omega)
    rw [List.getElem_map, List.getElem_range, List.getElem_append]
    by_cases hnew : back < newest
    · have hat : (newest - 1 + slots.length - back) % slots.length = newest - 1 - back := by
        rw [show newest - 1 + slots.length - back = newest - 1 - back + slots.length by omega,
          Nat.add_mod_right, Nat.mod_eq_of_lt (by omega)]
      simp [hat, hmin, hnew]
    · have hat : (newest - 1 + slots.length - back) % slots.length = newest - 1 + slots.length - back :=
        Nat.mod_eq_of_lt (by omega)
      have hold : newest + (slots.length - newest - 1 - (back - newest)) =
          newest - 1 + slots.length - back := by omega
      simp [hat, hmin, hnew, hold]

theorem newestFirst_map {α β : Type} (f : α → β) (slots : List α) (newest : Nat) :
    newestFirst (slots.map f) newest = (newestFirst slots newest).map f := by
  rw [newestFirst, newestFirst, List.length_map]
  split
  · rfl
  · simp [List.map_take, List.map_drop]

theorem SelfTestLog.parseEntries_octets {n : Nat} (width : Nat) (address : List UInt8 → Checked Nat)
    (slots : List (Block n)) (newest : Nat) (hn : slots.length < 1 <<< 63) (h : (5 + width).ble n)
    (ha : ∀ b : Block n, address b.octets = .ok (b.little 5 width h)) :
    parseEntries (slots.map (·.octets)) newest (SelfTest.parse width address) =
      .ok ((used slots newest).map fun b => SelfTest.ofBlock width b h) := by
  rw [parseEntries, parseRing_eq _ _ (by simpa using hn), ok_bind, newestFirst_map, collect_map]
  exact collect_ok (fun _ _ => rfl) fun b _ => SelfTest.parse_octets b h (ha b)

theorem SelfTestLog.parse_eq (bs : List UInt8) : parse bs = .ok (decode bs) := by
  refine ensure_ok fun b hb => ?_
  subst hb
  have hslice : slice b.octets 2 506 = .ok (b.slice 2 504).octets := slice_octets b 2 504
  have hchunks := chunks_octets b 2 24 21 (by omega)
  have hentries := parseEntries_octets 4 (fun raw => little32 raw 5) (b.records 2 24 21) (b.octet 508).toNat
    (by simp [Block.length_records]) rfl fun d => little32_octets d (by omega) (by omega)
  rw [hslice, ok_bind, hchunks, index_octets b (by omega), ok_bind, hentries, ok_bind,
    little16_octets b (by omega) (by omega)]
  rfl

theorem SelfTestLog.parseExt_eq (bs : List UInt8) : parseExt bs = .ok (decodeExt bs) := by
  refine ensure_ok fun b hb => ?_
  subst hb
  have hslice : slice b.octets 4 498 = .ok (b.slice 4 494).octets := slice_octets b 4 494
  have hchunks := chunks_octets b 4 26 19 (by omega)
  have haddress (d : Block 26) : (do littleFold (← slice d.octets 5 11)) = .ok (d.little 5 6) := by
    have hslice : slice d.octets 5 11 = .ok (d.slice 5 6).octets := slice_octets d 5 6
    rw [hslice, ok_bind, littleFold_ok (by simp [Block.length_slice])]
    rfl
  have hentries := parseEntries_octets 6 (fun raw => do littleFold (← slice raw 5 11))
    (b.records 4 26 19) (b.little 2 2) (by simp [Block.length_records]) rfl haddress
  rw [hslice, ok_bind, hchunks, little16_octets b (by omega) (by omega), ok_bind, hentries, ok_bind,
    index_octets b (by omega)]
  rfl

theorem SelectiveLog.parse_eq (bs : List UInt8) : parse bs = .ok (decode bs) := by
  refine ensure_ok fun b hb => ?_
  subst hb
  have hslice : slice b.octets 2 82 = .ok (b.slice 2 80).octets := slice_octets b 2 80
  have hchunks := chunks_octets b 2 16 5 (by omega)
  have hspan : ∀ d ∈ b.records 2 16 5, (do return (⟨← littleFold (← slice d.octets 0 8),
      ← littleFold (← slice d.octets 8 16)⟩ : Span)) = .ok ⟨d.little 0 8, d.little 8 8⟩ := by
    intro d _
    have hfirst : slice d.octets 0 8 = .ok (d.slice 0 8).octets := slice_octets d 0 8
    have hlast : slice d.octets 8 16 = .ok (d.slice 8 8).octets := slice_octets d 8 8
    rw [hfirst, ok_bind, littleFold_ok (by simp [Block.length_slice]), ok_bind, hlast, ok_bind,
      littleFold_ok (by simp [Block.length_slice])]
    rfl
  rw [hslice, ok_bind, hchunks, List.mapM_map, Function.comp_def, mapM_ok hspan, ok_bind,
    little16_octets b (by omega) (by omega)]
  rfl

theorem LogDirectory.parse_eq (bs : List UInt8) : parse bs = .ok (decode bs) := by
  refine ensure_ok fun b hb => ?_
  subst hb
  have hentry : ∀ i ∈ List.range 255, (do return (⟨i + 1, ← little16 b.octets (← mul 64 (i + 1) 2)⟩ :
      DirectoryEntry)) = .ok ⟨i + 1, littleEndian ((b.octets.drop (2 + 2 * i)).take 2)⟩ := by
    intro i hi
    have hi : i < 255 := List.mem_range.1 hi
    rw [mul_ok (by omega), ok_bind, show (i + 1) * 2 = 2 + 2 * i by omega,
      little16_octets b (by omega) (by omega)]
    rfl
  have hentries : (b.records 2 2 255).mapIdx (fun i w => (⟨i + 1, littleEndian w.octets⟩ : DirectoryEntry)) =
      (List.range 255).map fun i => ⟨i + 1, littleEndian ((b.octets.drop (2 + 2 * i)).take 2)⟩ := by
    refine List.ext_getElem? fun i => ?_
    by_cases hi : i < 255
    · have hrecord := Block.getElem_records b 2 2 255 i rfl hi (Nat.ble_eq_true_of_le (by omega))
      simp [hrecord, hi, Block.slice]
    · simp [hi, Block.length_records]
  rw [mapM_ok hentry, ok_bind, little16_octets b (by omega) (by omega), ← hentries]
  rfl

theorem SctTemperatures.parse_eq (bs : List UInt8) : parse bs = .ok (decode bs) := by
  refine ensure_ok fun b hb => ?_
  subst hb
  simp [index_octets, little16_octets, Block.byte]

theorem parseStatisticsPages_eq (bs : List UInt8) :
    parseStatisticsPages bs = .ok (decodeStatisticsPages bs) := by
  refine ensure_ok fun b hb => ?_
  subst hb
  have hbyte := b.byte_lt 8 rfl
  have hmin : min (b.byte 8) 503 = b.byte 8 := Nat.min_eq_left (by omega)
  have hcount : min (b.octet 8).toNat (sectorSize - 9) = b.byte 8 := hmin
  have hslice : slice b.octets 9 (9 + b.byte 8) = .ok (b.slice 9 (b.byte 8) _).octets :=
    slice_octets b 9 (b.byte 8) (Nat.ble_eq_true_of_le (by omega))
  have hpages : (b.slice 9 (b.byte 8) (Nat.ble_eq_true_of_le (by omega))).octets =
      (b.slice 9 503).octets.take (b.byte 8) := by
    simp [Block.slice, List.take_take, hmin]
  simp [index_octets, sub_ok (show 9 ≤ sectorSize by decide), hcount,
    add_ok (show 9 + b.byte 8 < 1 <<< 64 by omega), hslice, hpages]

theorem parsePendingDefects_eq (bs : List UInt8) : parsePendingDefects bs = .ok (decodePendingDefects bs) :=
  ensure_ok fun b hb => hb ▸ little32_octets b (by omega) (by omega)

theorem PhyCounter.walk_of_short {bs : List UInt8} (h : bs.length < 2) : walk bs = [] := by
  match bs, h with
  | [], _ => rw [walk]; simp
  | [_], _ => rw [walk]; simp

section

variable (b : Block 512) {pos : Nat}

theorem PhyCounter.step_octets (found : List PhyCounter) (hpos : pos + 2 ≤ 508) {header size : Nat}
    (hheader : little16 b.octets pos = .ok header) (hsize : header / 4096 % 8 * 2 = size) :
    step b.octets (pos, found) =
      .ok (if header % 4096 = 0 ∨ size = 0 ∨ 508 < pos + 2 + size then .inr found
        else .inl (pos + 2 + size, found ++
          [⟨header % 4096, littleEndian ((b.octets.drop (pos + 2)).take size) % (1 <<< 64)⟩])) := by
  have hstop : sub sectorSize 4 = .ok 508 := rfl
  have hstart : add 64 pos 2 = .ok (pos + 2) := add_ok (by omega)
  have hid : header &&& 4095 = header % 4096 := Nat.and_two_pow_sub_one_eq_mod header 12
  have hshift : shr 16 header 12 = .ok (header / 4096) := by
    rw [shr_ok (by omega), Nat.shiftRight_eq_div_pow]
  have hlow : header / 4096 &&& 7 = header / 4096 % 8 := Nat.and_two_pow_sub_one_eq_mod _ 3
  have hmul : mul 64 (header / 4096 % 8) 2 = .ok size := by rw [mul_ok (by omega), hsize]
  have hnext : add 64 (pos + 2) size = .ok (pos + 2 + size) := add_ok (by omega)
  simp only [step, hstop, ok_bind, hstart, if_pos hpos, hheader, hid, hshift, hlow, hmul, hnext,
    pure_eq_ok]
  by_cases hnone : header % 4096 = 0
  · simp [hnone]
  · by_cases hend : size = 0 ∨ 508 < pos + 2 + size
    · simp [hnone, hend]
    · have hslice : slice b.octets (pos + 2) (pos + 2 + size) =
          .ok (b.slice (pos + 2) size (Nat.ble_eq_true_of_le (by omega))).octets :=
        slice_octets b (pos + 2) size _
      simp only [hnone, hend, or_self, if_false, hslice, ok_bind, littleFold_eq]
      rfl

theorem PhyCounter.walk_octets (hpos : pos + 2 ≤ 508) {header size : Nat}
    (hheader : little16 b.octets pos = .ok header) (hsize : header / 4096 % 8 * 2 = size) :
    walk ((b.octets.drop pos).take (508 - pos)) =
      if header % 4096 = 0 ∨ size = 0 ∨ 508 < pos + 2 + size then []
      else ⟨header % 4096, littleEndian ((b.octets.drop (pos + 2)).take size) % (1 <<< 64)⟩ ::
        walk ((b.octets.drop (pos + 2 + size)).take (508 - (pos + 2 + size))) := by
  have hl := b.le_length
  have hfront : (b.octets.drop pos).take (508 - pos) = b.octets[pos] :: b.octets[pos + 1] ::
      (b.octets.drop (pos + 2)).take (506 - pos) := by
    rw [List.drop_eq_getElem_cons (by omega), List.drop_eq_getElem_cons (show pos + 1 < _ by omega),
      show 508 - pos = 506 - pos + 1 + 1 by omega, List.take_succ_cons, List.take_succ_cons]
  rw [little16_ok (by omega) (by omega), Except.ok.injEq] at hheader
  have hlen : ((b.octets.drop (pos + 2)).take (506 - pos)).length = 506 - pos := by
    rw [List.length_take, List.length_drop]
    omega
  have hover : 506 - pos < size ↔ 508 < pos + 2 + size := by omega
  rw [hfront, walk]
  simp only [hheader, hsize, hlen, hover]
  by_cases hend : header % 4096 = 0 ∨ size = 0 ∨ 508 < pos + 2 + size
  · rw [if_pos hend, if_pos hend]
  · have hmin : min size (506 - pos) = size := Nat.min_eq_left (by omega)
    have hrest : 506 - pos - size = 508 - (pos + 2 + size) := by omega
    rw [if_neg hend, if_neg hend, List.take_take, hmin, List.drop_take, List.drop_drop, hrest]

end

theorem PhyCounter.parseAll_eq (bs : List UInt8) : parseAll bs = .ok (decodeAll bs) := by
  refine ensure_ok fun b hb => ?_
  subst hb
  have hl := b.le_length
  refine loop_ok (fun (s : Nat × List PhyCounter) => s.1 ≤ 508)
    (fun (s : Nat × List PhyCounter) => 508 - s.1)
    (fun (s : Nat × List PhyCounter) => s.2 ++ walk ((b.octets.drop s.1).take (508 - s.1)))
    (fun s hs => ?_) (by omega) (by decide)
  obtain ⟨pos, found⟩ := s
  by_cases hpos : pos + 2 ≤ 508
  · have hheader : little16 b.octets pos = .ok (littleEndian [b.octets[pos], b.octets[pos + 1]]) :=
      little16_ok (by omega) (by omega)
    generalize hword : littleEndian [b.octets[pos], b.octets[pos + 1]] = header at hheader
    generalize hsize : header / 4096 % 8 * 2 = size
    have hstep := step_octets b found hpos hheader hsize
    have hwalk := walk_octets b hpos hheader hsize
    by_cases hend : header % 4096 = 0 ∨ size = 0 ∨ 508 < pos + 2 + size
    · rw [if_pos hend] at hstep hwalk
      left
      simpa [hwalk] using hstep
    · rw [if_neg hend] at hstep hwalk
      right
      refine ⟨_, hstep, ?_, ?_, ?_⟩
      · show pos + 2 + size ≤ 508
        omega
      · show 508 - (pos + 2 + size) < 508 - pos
        omega
      · simp [hwalk]
  · have hshort : ((b.octets.drop pos).take (508 - pos)).length < 2 := by
      rw [List.length_take, List.length_drop]
      omega
    have hstart : add 64 pos 2 = .ok (pos + 2) := add_ok (by omega)
    have hstop : sub sectorSize 4 = .ok 508 := rfl
    left
    simp [step, hstop, hstart, hpos, walk_of_short hshort]

end DriveHealth.Ata
