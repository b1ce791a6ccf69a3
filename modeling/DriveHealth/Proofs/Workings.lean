import DriveHealth.Proofs.Figures
import DriveHealth.Proofs.Formats
set_option autoImplicit false

/-!
What is worked out of decoded data to show it. Which of these figures a report has depends on the
sections that are asked for; here all of them are worked out, so that no choice of sections needs one
that is missing.
-/

namespace DriveHealth

/-- The counters of the log that are shown with grouped digits, in its order. -/
def Nvme.Health.counters (h : Nvme.Health) : List Nat :=
  [h.unitsRead, h.unitsWritten, h.hostReads, h.hostWrites, h.busyTime, h.powerCycles, h.powerOnHours,
    h.unsafeShutdowns, h.mediaErrors, h.errorLogEntries]

namespace Format

/-- What the widths of its fields say of decoded data. -/
def Bounded : (f : Format) → f.Result → Prop
  | identity, id => ∀ w ∈ id.words, w < 1 <<< 16
  | smartData, d => ∀ a ∈ d.attributes, a.vendor.length = 6
  | selfTests, log => log.entries.length ≤ 21
  | extSelfTests, log => log.entries.length ≤ 19
  | selectiveLog, log => log.spans.length = 5
  | pendingDefects, (count : Nat) => count < 1 <<< 32
  | capacity, c => c.blocks ≤ 1 <<< 32 ∧ c.blockLength < 1 <<< 32
  | controller, c => c.errorLogEntries ≤ 256 ∧ c.warningKelvin < 1 <<< 16 ∧ c.criticalKelvin < 1 <<< 16 ∧
      c.totalCapacity < 1 <<< 128
  | health, h => h.kelvin < 1 <<< 16 ∧ ∀ n ∈ h.counters, n < 1 <<< 128
  | _, _ => True

theorem exists_of_require {α : Type} {n : Nat} {what : String} {bs : List UInt8} {g : Block n → α} {a : α}
    (h : (do let b ← Block.require n what bs; return g b) = .ok a) : ∃ b, g b = a := by
  by_cases hn : n ≤ bs.length
  · have hblock : Block.require n what bs = .ok ⟨bs, hn⟩ := dif_pos hn
    rw [hblock] at h
    exact ⟨⟨bs, hn⟩, Except.ok.inj h⟩
  · rw [bind_require_short (Nat.lt_of_not_le hn)] at h
    cases h

theorem record_lt {n : Nat} (b : Block n) (start count : Nat) (h : (start + 2 * count).ble n) :
    ∀ w ∈ b.records start 2 count h, littleEndian w.octets < 1 <<< 16 := by
  intro w hw
  have hmem : w.octets ∈ (b.records start 2 count h).map (·.octets) := List.mem_map_of_mem hw
  rw [Checked.octets_records] at hmem
  obtain ⟨i, -, hi⟩ := List.mem_map.1 hmem
  have hlen : 8 * w.octets.length ≤ 16 := by
    rw [← hi, List.length_take]
    omega
  have hlt := littleEndian_lt w.octets
  have hle : 1 <<< (8 * w.octets.length) ≤ 1 <<< 16 := by
    simp only [Nat.one_shiftLeft]
    exact Nat.pow_le_pow_right (by omega) hlen
  omega

theorem length_newestFirst_le {α : Type} (slots : List α) (newest : Nat) :
    (Ata.newestFirst slots newest).length ≤ slots.length := by
  rw [Ata.newestFirst]
  split
  · exact Nat.zero_le _
  · simp only [List.length_append, List.length_reverse, List.length_take, List.length_drop]
    omega

theorem length_used_le {n : Nat} (slots : List (Block n)) (newest : Nat) :
    (Ata.SelfTestLog.used slots newest).length ≤ slots.length :=
  Nat.le_trans (List.length_filter_le ..) (length_newestFirst_le slots newest)

theorem bounded_of_decode {f : Format} {bs : List UInt8} {a : f.Result} (h : f.decode bs = .ok a) :
    f.Bounded a := by
  cases f with
  | identity =>
    obtain ⟨b, rfl⟩ := exists_of_require h
    intro w hw
    obtain ⟨record, hrecord, rfl⟩ := List.mem_map.1 hw
    exact record_lt b 0 256 rfl record hrecord
  | smartData =>
    obtain ⟨b, rfl⟩ := exists_of_require h
    intro a ha
    obtain ⟨slot, -, rfl⟩ := List.mem_map.1 ha
    exact Block.length_slice slot 5 6 rfl
  | selfTests =>
    obtain ⟨b, rfl⟩ := exists_of_require h
    have hlen := length_used_le (b.records 2 24 21) (b.byte 508)
    rw [Block.length_records] at hlen
    simpa [Bounded] using hlen
  | extSelfTests =>
    obtain ⟨b, rfl⟩ := exists_of_require h
    have hlen := length_used_le (b.records 4 26 19) (b.little 2 2)
    rw [Block.length_records] at hlen
    simpa [Bounded] using hlen
  | selectiveLog =>
    obtain ⟨b, rfl⟩ := exists_of_require h
    simp [Bounded, Block.length_records]
  | pendingDefects =>
    obtain ⟨b, rfl⟩ := exists_of_require h
    exact b.little_lt 0 4 rfl
  | capacity =>
    by_cases hn : 8 ≤ bs.length
    · obtain ⟨b, rfl⟩ := Checked.exists_block hn
      have hdecode : Scsi.Capacity.decode b.octets = .ok ⟨b.big 0 4 + 1, b.big 4 4⟩ := by
        simp [Scsi.Capacity.decode, Checked.ofOctets?_octets]
      obtain rfl := Except.ok.inj (hdecode.symm.trans h)
      exact ⟨Nat.succ_le_of_lt (Checked.big_lt b 0 4 rfl), Checked.big_lt b 4 4 rfl⟩
    · cases h.symm.trans (capacity_short (Nat.lt_of_not_le hn))
  | controller =>
    obtain ⟨b, rfl⟩ := exists_of_require h
    exact ⟨Nat.succ_le_of_lt (b.byte_lt 262 rfl), b.little_lt 266 2 rfl, b.little_lt 268 2 rfl,
      b.little_lt 280 16 rfl⟩
  | health =>
    obtain ⟨b, rfl⟩ := exists_of_require h
    refine ⟨b.little_lt 1 2 rfl, ?_⟩
    have hcounter (i : Nat) (hi : (i + 16).ble 512) : b.little i 16 hi < 1 <<< 128 := b.little_lt i 16 hi
    simp only [Nvme.Health.counters, Nvme.Health.ofBlock, List.forall_mem_cons, hcounter, true_and]
    simp
  | _ => trivial

def identityFigures (id : Ata.Identity) : List Datum :=
  [.text id.model, .text id.serial, .text id.firmware, .nat id.sectors, .nat id.logicalSectorSize,
    .nat id.capacityBytes, .text (Text.capacity id.capacityBytes), .opt .nat id.rotationRate?,
    .opt .bool id.checksumOk?, .nat (id.word 94 / 256),
    .list (id.words.map fun w => .list ((List.range 16).map fun k => .bool (w.testBit k)))]

def identityWork (id : Ata.Identity) : Checked (List Datum) := do
  let ws := id.words
  let model ← Checked.wordText ws 27 47
  let serial ← Checked.wordText ws 10 20
  let firmware ← Checked.wordText ws 23 27
  let sectors ← Checked.sectors ws
  let sectorSize ← Checked.logicalSectorSize ws
  let bytes ← Checked.capacityBytes ws
  let size ← Checked.capacity bytes
  let rotation ← Checked.rotationRate? ws
  let intact ← Checked.checksumOk? ws
  let recommended ← Checked.shr 16 (← Checked.index ws 94) 8
  let bits ← (List.range 256).mapM fun i => do
    return Datum.list ((← (List.range 16).mapM fun k => Checked.wordBit ws i k).map .bool)
  return [.text model, .text serial, .text firmware, .nat sectors, .nat sectorSize, .nat bytes, .text size,
    .opt .nat rotation, .opt .bool intact, .nat recommended, .list bits]

def polling (d : Ata.SmartData) : Datum :=
  .record ([("short", Datum.nat d.shortMinutes), ("extended", Datum.nat d.extendedMinutes)] ++
    if d.conveyanceSupported then [("conveyance", Datum.nat d.conveyanceMinutes)] else [])

def pollingWork (d : Ata.SmartData) : Checked Datum :=
  Checked.setField "conveyance"
    (if (d.offlineCapability &&& (1 <<< 5)) != 0 then some (.nat d.conveyanceMinutes) else none)
    (.record [("short", .nat d.shortMinutes), ("extended", .nat d.extendedMinutes)])

def statusFigures (status : Nat) : List Datum :=
  [.nat (status / 16), .nat (Ata.SelfTest.remaining status)]

def statusWork (status : Nat) : Checked (List Datum) := do
  return [.nat (← Checked.outcome status), .nat (← Checked.remaining status)]

def smartDataFigures (d : Ata.SmartData) : List Datum :=
  [.list (statusFigures d.selfTestStatus), polling d,
    .list (d.attributes.map fun a => .list [.text (Ata.Attribute.flagLetters a.flags), .nat a.raw])]

def smartDataWork (d : Ata.SmartData) : Checked (List Datum) := do
  return [.list (← statusWork d.selfTestStatus), ← pollingWork d,
    .list (← d.attributes.mapM fun a => do
      return .list [.text (← Checked.flagLetters a.flags), .nat (← Checked.littleFold a.vendor)])]

def numbers (count : Nat) : Datum := .list ((List.range count).map fun i => .nat (i + 1))

def numbersWork (count : Nat) : Checked Datum := do
  return .list ((← Checked.rowNumbers count).map .nat)

def selfTestFigures (log : Ata.SelfTestLog) : List Datum :=
  [numbers log.entries.length,
    .list (log.entries.map fun t => .list (statusFigures t.status)),
    .list (log.entries.map Ata.Exam.selfTestDatum)]

def selfTestWork (log : Ata.SelfTestLog) : Checked (List Datum) := do
  return [← numbersWork log.entries.length,
    .list (← log.entries.mapM fun t => do return .list (← statusWork t.status)),
    .list (← log.entries.mapM Checked.ataRow)]

def defectFigures (count : Nat) : List Datum := [.text (Text.grouped count)]

def defectWork (count : Nat) : Checked (List Datum) := do return [.text (← Checked.grouped count)]

/-- A size in bytes that is worked out twice: for the text in a wide word, for the report in one of 64
bits. -/
def capacityFigures (c : Scsi.Capacity) : List Datum := [.text (Text.capacity c.bytes), .nat c.bytes]

def capacityWork (c : Scsi.Capacity) : Checked (List Datum) := do
  let size ← Checked.capacity (← Checked.mul 128 c.blocks c.blockLength)
  return [.text size, .nat (← Checked.mul 64 c.blocks c.blockLength)]

def controllerFigures (c : Nvme.Controller) : List Datum :=
  [.text (Text.capacity c.totalCapacity), .text c.versionText,
    .list ((Nvme.Exam.bitNames c.adminCommands Nvme.Exam.adminCommandNames).map .text),
    .list ((Nvme.Exam.bitNames c.nvmCommands Nvme.Exam.nvmCommandNames).map .text),
    .text (Nvme.Exam.threshold c.warningKelvin), .text (Nvme.Exam.threshold c.criticalKelvin),
    .bool c.hasSelfTest]

def controllerWork (c : Nvme.Controller) : Checked (List Datum) := do
  return [.text (← Checked.capacity c.totalCapacity), .text (← Checked.versionText c.version),
    .list ((← Checked.bitNames 16 c.adminCommands Nvme.Exam.adminCommandNames).map .text),
    .list ((← Checked.bitNames 16 c.nvmCommands Nvme.Exam.nvmCommandNames).map .text),
    .text (← Checked.threshold c.warningKelvin), .text (← Checked.threshold c.criticalKelvin),
    .bool (← Checked.bit 16 c.adminCommands 4)]

def healthFigures (h : Nvme.Health) : List Datum :=
  [.list ((Nvme.Exam.bitNames h.criticalWarning Nvme.Exam.warnings).map .text), .int h.celsius,
    .text (Nvme.Exam.dataUnits h.unitsRead), .text (Nvme.Exam.dataUnits h.unitsWritten),
    .list (h.counters.map fun n => .text (Text.grouped n))]

def healthWork (h : Nvme.Health) : Checked (List Datum) := do
  return [.list ((← Checked.bitNames 8 h.criticalWarning Nvme.Exam.warnings).map .text),
    .int (← Checked.celsius h.kelvin),
    .text (← Checked.dataUnits h.unitsRead), .text (← Checked.dataUnits h.unitsWritten),
    .list (← h.counters.mapM fun n => do return .text (← Checked.grouped n))]

/-- The figures that decoded data gives. -/
def figures : (f : Format) → f.Result → List Datum
  | identity, id => identityFigures id
  | smartData, d => smartDataFigures d
  | selfTests, log => selfTestFigures log
  | extSelfTests, log => selfTestFigures log
  | selectiveLog, log => [numbers log.spans.length]
  | pendingDefects, count => defectFigures count
  | capacity, c => capacityFigures c
  | controller, c => controllerFigures c
  | health, h => healthFigures h
  | nvmeSelfTests, log => log.results.map Nvme.Exam.selfTestDatum
  | _, _ => []

/-- The same, worked out in checked arithmetic. -/
def work : (f : Format) → f.Result → Checked (List Datum)
  | identity, id => identityWork id
  | smartData, d => smartDataWork d
  | selfTests, log => selfTestWork log
  | extSelfTests, log => selfTestWork log
  | selectiveLog, log => do return [← numbersWork log.spans.length]
  | pendingDefects, count => defectWork count
  | capacity, c => capacityWork c
  | controller, c => controllerWork c
  | health, h => healthWork h
  | nvmeSelfTests, log => log.results.mapM Checked.nvmeRow
  | _, _ => return []

section

open Checked

theorem bits_eq (id : Ata.Identity) : (List.range 256).mapM (fun i => do
    return Datum.list ((← (List.range 16).mapM fun k => wordBit id.words i k).map .bool)) =
      .ok (id.words.map fun w => .list ((List.range 16).map fun k => .bool (w.testBit k))) := by
  have hword : ∀ i ∈ List.range 256, (do
      return Datum.list ((← (List.range 16).mapM fun k => wordBit id.words i k).map .bool)) =
      .ok (.list ((List.range 16).map fun k => .bool ((id.words.getD i 0).testBit k))) := by
    intro i hi
    have hi : i < 256 := List.mem_range.1 hi
    have hget : id.words.getD i 0 = id.word i (blt_of_lt hi) := by
      simp [List.getD, id.length_words, hi, Ata.Identity.word]
    have hbits : (List.range 16).mapM (fun k => wordBit id.words i k) =
        .ok ((List.range 16).map fun k => id.bit i k (blt_of_lt hi)) :=
      mapM_ok fun k hk => wordBit_eq hi (List.mem_range.1 hk)
    rw [hbits, hget, ok_bind, List.map_map]
    rfl
  rw [mapM_ok hword]
  refine congrArg Except.ok (List.ext_getElem ?_ fun i hi hi' => ?_)
  · simp [id.length_words]
  · simp only [List.length_map] at hi'
    simp [List.getD, hi']

theorem identityWork_eq {id : Ata.Identity} (hw : ∀ w ∈ id.words, w < 1 <<< 16) :
    identityWork id = .ok (identityFigures id) := by
  have hsize : id.capacityBytes < 1 <<< 128 :=
    Nat.lt_of_le_of_lt (Nat.min_le_left ..) (by decide)
  have hhigh : shr 16 (id.word 94) 8 = .ok (id.word 94 / 256) := by
    rw [shr_ok (by omega), Nat.shiftRight_eq_div_pow]
  rw [identityWork, wordText_eq (by omega) (by omega), ok_bind, wordText_eq (by omega) (by omega), ok_bind,
    wordText_eq (by omega) (by omega), ok_bind, sectors_eq hw, ok_bind, logicalSectorSize_eq hw, ok_bind,
    capacityBytes_eq hw, ok_bind, capacity_eq hsize, ok_bind, rotationRate?_eq, ok_bind, checksumOk?_eq,
    ok_bind, index_words (by omega), ok_bind, hhigh, ok_bind, bits_eq, ok_bind]
  rfl

theorem pollingWork_eq (d : Ata.SmartData) : pollingWork d = .ok (polling d) := by
  have hnew : ∀ f ∈ [("short", Datum.nat d.shortMinutes), ("extended", Datum.nat d.extendedMinutes)],
      f.1 ≠ "conveyance" := by simp
  rw [pollingWork, setField_record hnew, and_bit, polling, Ata.SmartData.conveyanceSupported]
  cases d.offlineCapability.testBit 5 <;> rfl

theorem statusWork_eq (status : Nat) : statusWork status = .ok (statusFigures status) := by
  rw [statusWork, outcome_eq, ok_bind, remaining_eq]
  rfl

theorem smartDataWork_eq {d : Ata.SmartData} (h : ∀ a ∈ d.attributes, a.vendor.length = 6) :
    smartDataWork d = .ok (smartDataFigures d) := by
  have hrow : d.attributes.mapM (fun a => do
      return Datum.list [.text (← flagLetters a.flags), .nat (← littleFold a.vendor)]) =
      .ok (d.attributes.map fun a => .list [.text (Ata.Attribute.flagLetters a.flags), .nat a.raw]) := by
    refine mapM_ok fun a ha => ?_
    have hlen := h a ha
    rw [flagLetters_eq, ok_bind, littleFold_ok (by omega)]
    rfl
  rw [smartDataWork, statusWork_eq, ok_bind, pollingWork_eq, ok_bind, hrow]
  rfl

theorem numbersWork_eq {count : Nat} (h : count < 1 <<< 64) : numbersWork count = .ok (numbers count) := by
  rw [numbersWork, rowNumbers_eq h, ok_bind, List.map_map]
  rfl

theorem selfTestWork_eq {log : Ata.SelfTestLog} (h : log.entries.length ≤ 21) :
    selfTestWork log = .ok (selfTestFigures log) := by
  have hstatus : log.entries.mapM (fun t => do return Datum.list (← statusWork t.status)) =
      .ok (log.entries.map fun t => .list (statusFigures t.status)) := by
    refine mapM_ok fun t _ => ?_
    rw [statusWork_eq]
    rfl
  rw [selfTestWork, numbersWork_eq (by omega), ok_bind, hstatus, ok_bind,
    mapM_ok fun t _ => ataRow_eq t]
  rfl

theorem defectWork_eq {count : Nat} (h : count < 1 <<< 32) : defectWork count = .ok (defectFigures count) := by
  rw [defectWork, grouped_eq (by omega)]
  rfl

theorem capacityWork_eq {c : Scsi.Capacity} (hc : c.blocks ≤ 1 <<< 32) (hl : c.blockLength < 1 <<< 32) :
    capacityWork c = .ok (capacityFigures c) := by
  have hproduct : c.blocks * c.blockLength ≤ (1 <<< 32) * (1 <<< 32 - 1) := Nat.mul_le_mul hc (by omega)
  have hbytes : c.bytes = c.blocks * c.blockLength := rfl
  rw [capacityWork, mul_ok (by omega), ok_bind, capacity_eq (by omega), ok_bind, mul_ok (by omega)]
  rfl

theorem controllerWork_eq {c : Nvme.Controller} (hc : controller.Bounded c) :
    controllerWork c = .ok (controllerFigures c) := by
  obtain ⟨-, hwarning, hcritical, htotal⟩ := hc
  have hadmin : Nvme.Exam.adminCommandNames.length ≤ 16 := by decide
  have hnvm : Nvme.Exam.nvmCommandNames.length ≤ 16 := by decide
  rw [controllerWork, capacity_eq htotal, ok_bind, versionText_eq, ok_bind, bitNames_eq _ hadmin, ok_bind,
    bitNames_eq _ hnvm, ok_bind, threshold_eq hwarning, ok_bind, threshold_eq hcritical, ok_bind,
    bit_ok (by omega)]
  rfl

theorem healthWork_eq {h : Nvme.Health} (hh : health.Bounded h) : healthWork h = .ok (healthFigures h) := by
  obtain ⟨hkelvin, hcounters⟩ := hh
  have hwarnings : Nvme.Exam.warnings.length ≤ 8 := by decide
  have hread : h.unitsRead < 1 <<< 128 := hcounters _ (by simp [Nvme.Health.counters])
  have hwritten : h.unitsWritten < 1 <<< 128 := hcounters _ (by simp [Nvme.Health.counters])
  have hgrouped : h.counters.mapM (fun n => do return Datum.text (← grouped n)) =
      .ok (h.counters.map fun n => .text (Text.grouped n)) := by
    refine mapM_ok fun n hn => ?_
    rw [grouped_eq (hcounters n hn)]
    rfl
  rw [healthWork, bitNames_eq _ hwarnings, ok_bind, celsius_eq hkelvin, ok_bind, dataUnits_eq hread, ok_bind,
    dataUnits_eq hwritten, ok_bind, hgrouped]
  rfl

end

theorem work_eq {f : Format} {a : f.Result} (h : f.Bounded a) : f.work a = .ok (f.figures a) := by
  cases f with
  | identity => exact identityWork_eq h
  | smartData => exact smartDataWork_eq h
  | selfTests => exact selfTestWork_eq h
  | extSelfTests => exact selfTestWork_eq (Nat.le_trans h (by omega))
  | selectiveLog =>
    have hlen : a.spans.length = 5 := h
    have hnumbers : numbersWork a.spans.length = .ok (numbers a.spans.length) := numbersWork_eq (by omega)
    rw [work, hnumbers]
    rfl
  | pendingDefects => exact defectWork_eq h
  | capacity => exact capacityWork_eq h.1 h.2
  | controller => exact controllerWork_eq h
  | health => exact healthWork_eq h
  | nvmeSelfTests => exact Checked.mapM_ok fun t _ => Checked.nvmeRow_eq t
  | thresholds | directory | summaryErrors | extErrors | sctStatus | statistics | phyCounters | sense
  | registers | inquiry | exceptions | caching | errorLog => rfl

end Format

end DriveHealth
