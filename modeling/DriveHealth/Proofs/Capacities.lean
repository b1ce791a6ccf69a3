import DriveHealth.Proofs.Sector
import DriveHealth.Proofs.Showing
import DriveHealth.Proofs.Workings
set_option autoImplicit false

namespace DriveHealth

namespace Ata.Identity

theorem number_words {bs : List UInt8} {start count : Nat} (h : 2 * (start + count) ≤ bs.length) :
    number ((List.range' start count).map fun i => field bs (2 * i) 2) = field bs (2 * start) (2 * count) := by
  induction count generalizing start with
  | zero => simp [number, field, stretch, littleEndian]
  | succ count ih =>
    have hrest := @ih (start + 1) (by omega)
    have hsplit : stretch bs (2 * start) (2 * (count + 1)) =
        stretch bs (2 * start) 2 ++ stretch bs (2 * (start + 1)) (2 * count) := by
      rw [Nat.mul_succ 2 count, Nat.add_comm (2 * count), stretch_add, Nat.mul_succ 2 start]
    have hlength : (stretch bs (2 * start) 2).length = 2 := by
      rw [stretch, List.length_take, List.length_drop]
      omega
    have hnumber : field bs (2 * start) (2 * (count + 1)) =
        field bs (2 * start) 2 + 65536 * field bs (2 * (start + 1)) (2 * count) := by
      have hpow : 256 ^ 2 = 65536 := rfl
      rw [field, field, field, hsplit, littleEndian_append, hlength, hpow]
    rw [hnumber, ← hrest]
    rfl

theorem words_ofBlock (b : Block 512) :
    (ofBlock b).words = (List.range' 0 256).map fun i => field b.octets (2 * i) 2 := by
  have hrecords := congrArg (List.map littleEndian) (Checked.octets_records b 0 2 256 rfl)
  simpa [ofBlock, Function.comp_def, field, stretch, List.range_eq_range'] using hrecords

theorem range_ofBlock (b : Block 512) {start stop : Nat} (hs : stop ≤ 256) : (ofBlock b).range start stop =
    (List.range' start (stop - start)).map fun i => field b.octets (2 * i) 2 := by
  rw [range, words_ofBlock, ← List.map_drop, ← List.map_take, List.drop_range',
    List.take_range'_of_length_ge (by omega)]
  simp

theorem number_range (b : Block 512) {start stop : Nat} (h : start ≤ stop) (hs : stop ≤ 256) :
    number ((ofBlock b).range start stop) = field b.octets (2 * start) (2 * (stop - start)) := by
  have hl := b.le_length
  rw [range_ofBlock b hs, number_words (by omega)]

theorem word_ofBlock (b : Block 512) (i : Nat) (h : i.blt 256) :
    (ofBlock b).word i h = field b.octets (2 * i) 2 := by
  simp [word, words_ofBlock]

theorem field_lt (bs : List UInt8) (start len : Nat) : field bs start len < 2 ^ (8 * len) := by
  have hlt := littleEndian_lt (stretch bs start len)
  have hlength : (stretch bs start len).length ≤ len := List.length_take_le _ _
  rw [Nat.one_shiftLeft] at hlt
  exact Nat.lt_of_lt_of_le hlt (Nat.pow_le_pow_right (by decide) (by omega))

theorem sectors_ofBlock (b : Block 512) : (ofBlock b).sectors =
    if (field b.octets 166 2).testBit 10 then field b.octets 200 8 else field b.octets 120 4 := by
  have hbit : (ofBlock b).hasLba48 = (field b.octets 166 2).testBit 10 :=
    congrArg (Nat.testBit · 10) (word_ofBlock b 83 rfl)
  rw [sectors, hbit, number_range b (by decide) (by decide), number_range b (by decide) (by decide)]

theorem words_lt (b : Block 512) : ∀ w ∈ (ofBlock b).words, w < 1 <<< 16 := by
  rw [words_ofBlock]
  intro w hw
  obtain ⟨i, -, rfl⟩ := List.mem_map.1 hw
  exact field_lt b.octets (2 * i) 2

theorem sectors_lt (b : Block 512) : (ofBlock b).sectors < 2 ^ 64 := by
  rw [sectors_ofBlock]
  split
  · exact field_lt _ _ _
  · exact Nat.lt_trans (field_lt _ _ _) (by decide)

theorem logicalSectorSize_mem (id : Identity) :
    512 ∣ id.logicalSectorSize ∧ 512 ≤ id.logicalSectorSize ∧ id.logicalSectorSize ≤ 65536 := by
  rw [logicalSectorSize]
  split
  · rename_i h
    simp only [Bool.and_eq_true, decide_eq_true_eq, beq_iff_eq] at h
    obtain ⟨⟨⟨-, hlow⟩, hhigh⟩, hdvd⟩ := h
    exact ⟨Nat.dvd_of_mod_eq_zero hdvd, hlow, hhigh⟩
  · decide

/-- A sector that gives a count of `n` sectors of `size` octets each. -/
structure Encodes (b : Block 512) (n size : Nat) : Prop where
  wide : (field b.octets 166 2).testBit 10 = true
  count : stretch b.octets 200 8 = littleOctets 8 n
  sized : field b.octets 212 2 = 0x5000
  words : stretch b.octets 234 4 = littleOctets 4 (size / 2)

theorem Encodes.sectors_eq {b : Block 512} {n size : Nat} (h : Encodes b n size) (hn : n < 2 ^ 64) :
    (ofBlock b).sectors = n := by
  rw [sectors_ofBlock, if_pos h.wide, field, h.count]
  exact littleEndian_littleOctets_of_lt (by simpa using hn)

theorem Encodes.logicalSectorSize_eq {b : Block 512} {n size : Nat} (h : Encodes b n size)
    (hdvd : 512 ∣ size) (hlow : 512 ≤ size) (hhigh : size ≤ 65536) :
    (ofBlock b).logicalSectorSize = size := by
  have hword : (ofBlock b).word 106 = 0x5000 := (word_ofBlock b 106 rfl).trans h.sized
  have hsize : 2 * number ((ofBlock b).range 117 119) = size := by
    rw [number_range b (by decide) (by decide), field, h.words,
      littleEndian_littleOctets_of_lt (by omega)]
    omega
  have hvalid : (ofBlock b).bit 106 14 = true ∧ (ofBlock b).bit 106 15 = false ∧
      (ofBlock b).bit 106 12 = true := by
    simp only [bit, hword]
    decide
  rw [logicalSectorSize, hsize]
  simp [hvalid, hlow, hhigh, Nat.mod_eq_zero_of_dvd hdvd]

theorem exists_encodes (n size : Nat) : ∃ b : Block 512, Encodes b n size := by
  let blank : List UInt8 := List.replicate 512 0
  let wide := patch 166 [0, 4] blank
  let counted := patch 200 (littleOctets 8 n) wide
  let sized := patch 212 [0, 0x50] counted
  let full := patch 234 (littleOctets 4 (size / 2)) sized
  have hbit : ([0, 4] : List UInt8).length = 2 := rfl
  have hlong : ([0, 0x50] : List UInt8).length = 2 := rfl
  have hcount := length_littleOctets 8 n
  have hwords := length_littleOctets 4 (size / 2)
  have hblank : blank.length = 512 := List.length_replicate
  have hwide : wide.length = 512 := by rw [length_patch (by omega), hblank]
  have hcounted : counted.length = 512 := by rw [length_patch (by omega), hwide]
  have hsized : sized.length = 512 := by rw [length_patch (by omega), hcounted]
  have hfull : full.length = 512 := by rw [length_patch (by omega), hsized]
  -- what is written to one place is read there, whatever is written to the others
  refine ⟨⟨full, hfull.ge⟩, ?_, ?_, ?_, ?_⟩
  · have hread : stretch full 166 2 = [0, 4] := by
      rw [stretch_patch_of_apart (by omega) (by omega), stretch_patch_of_apart (by omega) (by omega),
        stretch_patch_of_apart (by omega) (by omega)]
      exact stretch_patch_self (by omega)
    rw [field, hread]
    decide
  · rw [stretch_patch_of_apart (by omega) (by omega), stretch_patch_of_apart (by omega) (by omega)]
    simpa [hcount] using @stretch_patch_self 200 (littleOctets 8 n) wide (by omega)
  · have hread : stretch full 212 2 = [0, 0x50] := by
      rw [stretch_patch_of_apart (by omega) (by omega)]
      exact stretch_patch_self (by omega)
    rw [field, hread]
    decide
  · simpa [hwords] using @stretch_patch_self 234 (littleOctets 4 (size / 2)) sized (by omega)

end Ata.Identity

theorem Ata.Exam.run_driveInfo {σ : Type} (ch : Channel Taskfile Response σ) (name : Taskfile → String)
    (trace : Bool) (id : Identity) (s : Sections) (state : σ) (r : Recorder) :
    (Procedure.run ch name trace (driveInfo id s) state r).recorder.report.get? "user_capacity" =
      some (.record [("blocks", .nat id.sectors), ("bytes", .nat id.capacityBytes)]) := by
  have hacts := Procedure.acts_writing (writing_driveInfo id s) (fun _ => .error (.io "")) ch state r.tolerance
  refine Procedure.get?_run ch name trace hacts ?_
  rcases hrate : id.rotationRate? with _ | (_ | _) <;> cases hpresets : s.ignorePresets <;>
    simp [driveInfo, hrate, hpresets, Act.writes, Report.Write.key, apply_ite (List.flatMap Act.writes)]

namespace Scsi.Exam

open Procedure

variable {σ : Type}

theorem run_capacity (ch : Channel Command (List UInt8) σ) (name : Command → String) (trace : Bool) {s : σ}
    {r : Recorder} (shown : r.transcript.suppressed = false) {reply : List UInt8} {c : Capacity}
    (hreply : (ch.send .readCapacity s).1 = .ok reply) (hc : Capacity.decode reply = .ok c) :
    let last := (Procedure.run ch name trace capacity s r).recorder
    ⟨.plain, s!"User Capacity:        {Text.capacity c.bytes}\n"⟩ ∈ last.transcript.events ∧
      last.report.get? "user_capacity" = some (.record [("blocks", .nat c.blocks), ("bytes", .nat c.bytes)]) := by
  have hacts : (capacity.course ch s r.tolerance).acts = [
      .sent .readCapacity (.ok reply) true,
      .said .plain s!"User Capacity:        {Text.capacity c.bytes}\n",
      .said .plain s!"Logical block size:   {c.blockLength} bytes\n",
      .wrote (.set "user_capacity" (.record [("blocks", .nat c.blocks), ("bytes", .nat c.bytes)])),
      .wrote (.set "logical_block_size" (.nat c.blockLength))] := by
    rw [capacity, course_read_bind, hreply, Except.bind, hc]
    rfl
  refine ⟨mem_events_run ch name trace hacts shown (by simp) (by simp), ?_⟩
  exact get?_run ch name trace hacts rfl

end Scsi.Exam

namespace Scsi.Capacity

theorem decode_exact {reply : List UInt8} (h : 8 ≤ reply.length) : ∃ c, decode reply = .ok c ∧
    c.blocks = bigEndian (reply.take 4) + 1 ∧ c.blockLength = bigEndian ((reply.drop 4).take 4) ∧
      Checked.mul 64 c.blocks c.blockLength = .ok c.bytes ∧
      Checked.mul 128 c.blocks c.blockLength = .ok c.bytes := by
  obtain ⟨b, rfl⟩ := Checked.exists_block h
  have hdecode : decode b.octets = .ok ⟨b.big 0 4 + 1, b.big 4 4⟩ := by
    rw [decode, Checked.ofOctets?_octets]
  have hblocks : b.big 0 4 + 1 ≤ 2 ^ 32 := Checked.big_lt b 0 4 rfl
  have hlength : b.big 4 4 < 2 ^ 32 := Checked.big_lt b 4 4 rfl
  have hproduct : (b.big 0 4 + 1) * b.big 4 4 ≤ 2 ^ 32 * (2 ^ 32 - 1) := Nat.mul_le_mul hblocks (by omega)
  have hshort : (b.big 0 4 + 1) * b.big 4 4 < 1 <<< 64 := by omega
  have hlong : (b.big 0 4 + 1) * b.big 4 4 < 1 <<< 128 := by omega
  exact ⟨_, hdecode, rfl, rfl, Checked.mul_ok hshort, Checked.mul_ok hlong⟩

end Scsi.Capacity

namespace Nvme.Exam

open Procedure

variable {σ : Type}

/-- The names of the counters in the report, in the order of the log. -/
def counterKeys : List String :=
  ["data_units_read", "data_units_written", "host_reads", "host_writes", "controller_busy_time",
    "power_cycles", "power_on_hours", "unsafe_shutdowns", "media_errors", "num_err_log_entries"]

theorem counters_ofBlock (b : Block 512) : (Health.ofBlock b).counters =
    (List.range 10).map fun i => littleEndian ((b.octets.drop (32 + 16 * i)).take 16) := rfl

/-- How a counter of data units is to be shown. -/
def unitsText (units : Nat) : String :=
  s!"{Text.grouped units} [{Text.siSize (min (512000 * units) (2 ^ 128 - 1))}]"

theorem unitsText_eq (units : Nat) : unitsText units = dataUnits units := by
  have hbytes : unitBytes units = min (512000 * units) (2 ^ 128 - 1) := by
    rw [unitBytes, Nat.mul_comm, Nat.min_comm]
    rfl
  rw [unitsText, dataUnits, hbytes]

/-- What the text and the report of a run have of the counters. -/
structure ShowsCounters (h : Health) (r : Recorder) : Prop where
  counters : ∀ c ∈ counterKeys.zip h.counters,
    (r.report.sectionFields "nvme_smart_health_information_log").get? c.1 = some (.nat (min (2 ^ 64 - 1) c.2))
  hours : r.report.get? "power_on_time" = some (.record [("hours", .nat (min (2 ^ 64 - 1) h.powerOnHours))])
  cycles : r.report.get? "power_cycle_count" = some (.nat (min (2 ^ 64 - 1) h.powerCycles))
  unitsRead : ⟨.plain, s!"Data Units Read:                    {unitsText h.unitsRead}\n"⟩ ∈ r.transcript.events
  unitsWritten : ⟨.plain, s!"Data Units Written:                 {unitsText h.unitsWritten}\n"⟩ ∈
    r.transcript.events

def healthFields (h : Health) : Fields := [
  ("critical_warning", .nat h.criticalWarning),
  ("temperature", .int h.celsius),
  ("available_spare", .nat h.spare),
  ("available_spare_threshold", .nat h.spareThreshold),
  ("percentage_used", .nat h.used)] ++
  (counterKeys.zip h.counters).map (fun c => (c.1, .nat (min (2 ^ 64 - 1) c.2))) ++ [
  ("warning_temp_time", .nat h.warningMinutes),
  ("critical_comp_time", .nat h.criticalMinutes)]

theorem get?_healthFields (h : Health) : ∀ c ∈ counterKeys.zip h.counters,
    (healthFields h).get? c.1 = some (.nat (min (2 ^ 64 - 1) c.2)) := by
  simp [counterKeys, Health.counters, healthFields, Fields.get?, List.lookup_cons]

theorem writes_healthLog (f : Command → Except Fault (List UInt8)) (h : Health) :
    ((healthLog h).script f).flatMap Act.writes = [
      .set "nvme_smart_health_information_log" (.record (healthFields h)),
      .set "power_on_time" (.record [("hours", .nat (min (2 ^ 64 - 1) h.powerOnHours))]),
      .set "power_cycle_count" (.nat (min (2 ^ 64 - 1) h.powerCycles))] := rfl

theorem run_health (ch : Channel Command (List UInt8) σ) (name : Command → String) (trace : Bool) {s : Sections}
    (hs : s.health = true) {state : σ} {r : Recorder} (shown : r.transcript.suppressed = false)
    {reply : List UInt8} {h : Health} (hreply : (ch.send (.logPage 0x02 512) state).1 = .ok reply)
    (hh : Health.decode reply = .ok h) :
    ShowsCounters h (Procedure.run ch name trace (health s) state r).recorder := by
  -- no reply matters any more once the log is there
  let f : Command → Except Fault (List UInt8) := fun _ => .ok reply
  let before : List (Act Command (List UInt8)) :=
    .sent (.logPage 0x02 512) (.ok reply) (Health.decode reply).isOk ::
      .said .plain "=== START OF SMART DATA SECTION ===\n" ::
      ((if s.status then (verdict h).script f else []) ++
        [.wrote (.setIn "temperature" "current" (.int h.celsius))])
  have hacts : ((health s).course ch state r.tolerance).acts = before ++ (healthLog h).script f := by
    rw [health, course_read_bind, hreply, Except.bind, hh]
    rw [course_writing (Q := fun _ => True) (by simp) f]
    cases hstatus : s.status <;> simp [hs, hstatus, before, Procedure.succeeds]
  have hwrites : (before ++ (healthLog h).script f).flatMap Act.writes = before.flatMap Act.writes ++ [
      .set "nvme_smart_health_information_log" (.record (healthFields h)),
      .set "power_on_time" (.record [("hours", .nat (min (2 ^ 64 - 1) h.powerOnHours))]),
      .set "power_cycle_count" (.nat (min (2 ^ 64 - 1) h.powerCycles))] := by
    rw [List.flatMap_append, writes_healthLog]
  refine ⟨?_, ?_, ?_, ?_, ?_⟩
  · have hlog : (Procedure.run ch name trace (health s) state r).recorder.report.get?
        "nvme_smart_health_information_log" = some (.record (healthFields h)) :=
      get?_run ch name trace hacts (by simp [hwrites, Report.Write.key])
    rw [Report.sectionFields, hlog]
    exact get?_healthFields h
  · exact get?_run ch name trace hacts (by simp [hwrites, Report.Write.key])
  · exact get?_run ch name trace hacts (by simp [hwrites, Report.Write.key])
  · refine mem_events_run ch name trace hacts shown (List.mem_append_right _ ?_) (by simp)
    simp [healthLog, unitsText_eq]
  · refine mem_events_run ch name trace hacts shown (List.mem_append_right _ ?_) (by simp)
    simp [healthLog, unitsText_eq]

theorem run_driveInfo (ch : Channel Command (List UInt8) σ) (name : Command → String) (trace : Bool)
    {c : Controller} (hc : c.totalCapacity ≠ 0) (state : σ) (r : Recorder) :
    (Procedure.run ch name trace (driveInfo c) state r).recorder.report.get? "nvme_total_capacity" =
      some (.nat (min (2 ^ 64 - 1) c.totalCapacity)) := by
  have hacts := acts_writing (writing_driveInfo c) (fun _ => .error (.io "")) ch state r.tolerance
  refine get?_run ch name trace hacts ?_
  have hpositive : c.totalCapacity > 0 := Nat.pos_of_ne_zero hc
  simp [driveInfo, hpositive, Act.writes, Report.Write.key, clamp]

end Nvme.Exam

variable {σ τ υ : Type}

/-- Sizes and counters are exact or the largest number that fits. Whatever a drive says of itself, its sector size
is one that a drive may have and its capacity saturates; a count of sectors and such a size are read back as they
are. A product of two numbers of a SCSI device always fits. The counters of a controller saturate in the report,
and so does the number of bytes in the text. -/
theorem capacities_never_wrap :
    (∀ b : Block 512,
      let id := Ata.Identity.ofBlock b
      (512 ∣ id.logicalSectorSize ∧ 512 ≤ id.logicalSectorSize ∧ id.logicalSectorSize ≤ 65536) ∧
        id.sectors < 2 ^ 64 ∧
        id.capacityBytes = min (2 ^ 64 - 1) (id.sectors * id.logicalSectorSize) ∧
        Checked.capacityBytes id.words = .ok id.capacityBytes ∧
        ∀ (ch : Channel Ata.Taskfile Ata.Response σ) (trace : Bool) (wanted : Ata.Sections) (s : σ) (r : Recorder),
          (Procedure.run ch Ata.Taskfile.name trace (Ata.Exam.driveInfo id wanted) s r).recorder.report.get?
            "user_capacity" = some (.record [("blocks", .nat id.sectors), ("bytes", .nat id.capacityBytes)])) ∧
    (∀ n size, n < 2 ^ 64 → 512 ∣ size → 512 ≤ size → size ≤ 65536 →
      (∃ b, Ata.Identity.Encodes b n size) ∧ ∀ b, Ata.Identity.Encodes b n size →
        (Ata.Identity.ofBlock b).sectors = n ∧ (Ata.Identity.ofBlock b).logicalSectorSize = size) ∧
    (∀ reply : List UInt8, 8 ≤ reply.length → ∃ c, Scsi.Capacity.decode reply = .ok c ∧
      c.blocks = bigEndian (reply.take 4) + 1 ∧ c.blockLength = bigEndian ((reply.drop 4).take 4) ∧
      Checked.mul 64 c.blocks c.blockLength = .ok c.bytes ∧
      Checked.mul 128 c.blocks c.blockLength = .ok c.bytes ∧
      ∀ (ch : Channel Scsi.Command (List UInt8) τ) (trace : Bool) (s : τ) (r : Recorder),
        r.transcript.suppressed = false → (ch.send .readCapacity s).1 = .ok reply →
        let last := (Procedure.run ch Scsi.Command.name trace Scsi.Exam.capacity s r).recorder
        ⟨.plain, s!"User Capacity:        {Text.capacity c.bytes}\n"⟩ ∈ last.transcript.events ∧
          last.report.get? "user_capacity" =
            some (.record [("blocks", .nat c.blocks), ("bytes", .nat c.bytes)])) ∧
    (∀ reply : List UInt8, 512 ≤ reply.length → ∃ h, Nvme.Health.decode reply = .ok h ∧
      h.counters = ((List.range 10).map fun i => littleEndian ((reply.drop (32 + 16 * i)).take 16)) ∧
      ∀ (ch : Channel Nvme.Command (List UInt8) υ) (trace : Bool) (wanted : Nvme.Sections) (s : υ) (r : Recorder),
        wanted.health = true → r.transcript.suppressed = false → (ch.send (.logPage 0x02 512) s).1 = .ok reply →
        Nvme.Exam.ShowsCounters h
          (Procedure.run ch Nvme.Command.name trace (Nvme.Exam.health wanted) s r).recorder) ∧
    (∀ reply : List UInt8, 4096 ≤ reply.length → ∃ c, Nvme.Controller.decode reply = .ok c ∧
      c.totalCapacity = littleEndian ((reply.drop 280).take 16) ∧
      ∀ (ch : Channel Nvme.Command (List UInt8) υ) (trace : Bool) (s : υ) (r : Recorder), c.totalCapacity ≠ 0 →
        (Procedure.run ch Nvme.Command.name trace (Nvme.Exam.driveInfo c) s r).recorder.report.get?
          "nvme_total_capacity" = some (.nat (min (2 ^ 64 - 1) c.totalCapacity))) := by
  refine ⟨fun b => ?_, ?_, ?_, ?_, ?_⟩
  · exact ⟨(Ata.Identity.ofBlock b).logicalSectorSize_mem, Ata.Identity.sectors_lt b, rfl,
      Checked.capacityBytes_eq (Ata.Identity.words_lt b),
      fun ch trace wanted s r => Ata.Exam.run_driveInfo ch _ trace _ wanted s r⟩
  · intro n size hn hdvd hlow hhigh
    exact ⟨Ata.Identity.exists_encodes n size,
      fun b h => ⟨h.sectors_eq hn, h.logicalSectorSize_eq hdvd hlow hhigh⟩⟩
  · intro reply hlength
    obtain ⟨c, hc, hblocks, hblockLength, hshort, hlong⟩ := Scsi.Capacity.decode_exact hlength
    exact ⟨c, hc, hblocks, hblockLength, hshort, hlong,
      fun ch trace s r shown hreply => Scsi.Exam.run_capacity ch _ trace shown hreply hc⟩
  · intro reply hlength
    obtain ⟨b, rfl⟩ := Checked.exists_block hlength
    have hh : Nvme.Health.decode b.octets = .ok (.ofBlock b) := by
      rw [Nvme.Health.decode, Checked.require_octets]
      rfl
    exact ⟨_, hh, Nvme.Exam.counters_ofBlock b, fun ch trace wanted s r hwanted shown hreply =>
      Nvme.Exam.run_health ch _ trace hwanted shown hreply hh⟩
  · intro reply hlength
    obtain ⟨b, rfl⟩ := Checked.exists_block hlength
    have hc : Nvme.Controller.decode b.octets = .ok (.ofBlock b) := by
      rw [Nvme.Controller.decode, Checked.require_octets]
      rfl
    exact ⟨_, hc, rfl, fun ch trace s r hne => Nvme.Exam.run_driveInfo ch _ trace hne s r⟩

theorem capacities_never_wrap_largest :
    let full (n : Nat) : List UInt8 := List.replicate n 0xff
    let scsi : Channel Scsi.Command (List UInt8) Unit := ⟨fun _ u => (.ok (full 8), u)⟩
    let nvme : Channel Nvme.Command (List UInt8) Unit := ⟨fun _ u => (.ok (full 512), u)⟩
    let r := Recorder.start ⟨0, false⟩ {}
    (∃ b, Ata.Identity.Encodes b (2 ^ 64 - 1) 65536 ∧
      (Ata.Identity.ofBlock b).capacityBytes = 2 ^ 64 - 1) ∧
    (Procedure.run scsi Scsi.Command.name false Scsi.Exam.capacity () r).recorder.report.get? "user_capacity" =
      some (.record [("blocks", .nat (2 ^ 32)), ("bytes", .nat (2 ^ 32 * (2 ^ 32 - 1)))]) ∧
    (Procedure.run nvme Nvme.Command.name false (Nvme.Exam.health { health := true }) () r).recorder.report.get?
      "power_cycle_count" = some (.nat (2 ^ 64 - 1)) := by
  intro full scsi nvme r
  obtain ⟨hata, hidentity, hscsi, hnvme, -⟩ := @capacities_never_wrap Unit Unit Unit
  refine ⟨?_, ?_, ?_⟩
  · obtain ⟨⟨b, hb⟩, hexact⟩ := hidentity (2 ^ 64 - 1) 65536 (by decide) (by decide) (by decide) (by decide)
    obtain ⟨hsectors, hsize⟩ := hexact b hb
    obtain ⟨-, -, hbytes, -⟩ := hata b
    exact ⟨b, hb, by rw [hbytes, hsectors, hsize]; decide⟩
  · obtain ⟨c, -, hblocks, hlength, -, -, hrun⟩ := hscsi (full 8) (by decide)
    have hblocks : c.blocks = 2 ^ 32 := hblocks.trans (by decide)
    have hlength : c.blockLength = 2 ^ 32 - 1 := hlength.trans (by decide)
    have hreport := (hrun scsi false () r rfl rfl).2
    rwa [Scsi.Capacity.bytes, hblocks, hlength] at hreport
  · obtain ⟨h, -, hcounters, hrun⟩ := hnvme (full 512) List.length_replicate.ge
    have hreport := (hrun nvme false { health := true } () r rfl rfl rfl).cycles
    have hoctets : some h.powerCycles = some (littleEndian (((full 512).drop 112).take 16)) :=
      congrArg (·[5]?) hcounters
    have hcycles : h.powerCycles = 2 ^ 128 - 1 := (Option.some.inj hoctets).trans (by decide +kernel)
    rw [hreport, hcycles]
    rfl

end DriveHealth
