import DriveHealth.Proofs.Showing
import DriveHealth.Proofs.Workings
set_option autoImplicit false

/-!
Where the figures that are worked out of decoded data are to be seen. The lines and the fields of a section are
stated with the figures in them: a figure is what the text or the report has in its place.
-/

namespace DriveHealth

def Report.Write.at? : Report.Write → String → List Datum.Step → Option Datum
  | .set key value, key', path => if key = key' then value.at? path else none
  | .setIn key field value, key', .field field' :: path =>
    if key = key' ∧ field = field' then value.at? path else none
  | _, _, _ => none

namespace Procedure

variable {Cmd Reply α β : Type} (f : Cmd → Except Fault Reply) (a : Act Cmd Reply)

/-- The act is in the script. -/
def Has (p : Procedure Cmd Reply α) : Prop := a ∈ p.script f

@[simp] theorem has_bind (p : Procedure Cmd Reply β) (g : β → Procedure Cmd Reply α) :
    (p >>= g).Has f a ↔ p.Has f a ∨ (g (p.answer f)).Has f a := by
  rw [Has, script_bind, List.mem_append, Has, Has]

@[simp] theorem has_ite (c : Prop) [Decidable c] (p q : Procedure Cmd Reply α) :
    (if c then p else q).Has f a ↔ if c then p.Has f a else q.Has f a := by
  split <;> rfl

@[simp] theorem has_print (text : String) : (print text : Procedure Cmd Reply Unit).Has f a ↔ a = .said .plain text :=
  List.mem_singleton

@[simp] theorem has_info (text : String) : (info text : Procedure Cmd Reply Unit).Has f a ↔ a = .said .info text :=
  List.mem_singleton

@[simp] theorem has_warn (text : String) : (warn text : Procedure Cmd Reply Unit).Has f a ↔ a = .said .warning text :=
  List.mem_singleton

@[simp] theorem has_set (key : String) (value : Datum) :
    (set key value : Procedure Cmd Reply Unit).Has f a ↔ a = .wrote (.set key value) :=
  List.mem_singleton

@[simp] theorem has_setIn (key field : String) (value : Datum) :
    (setIn key field value : Procedure Cmd Reply Unit).Has f a ↔ a = .wrote (.setIn key field value) :=
  List.mem_singleton

@[simp] theorem has_forM {ι : Type} (g : ι → Procedure Cmd Reply Unit) (l : List ι) :
    (forM l g).Has f a ↔ ∃ i ∈ l, (g i).Has f a := by
  rw [Has, script_forM, List.mem_flatMap]
  rfl

@[simp high] theorem has_forM_print (lines : List String) (text : String) :
    (forM lines print : Procedure Cmd Reply Unit).Has f (.said .plain text) ↔ text ∈ lines := by
  simp

def Says (p : Procedure Cmd Reply α) (kind : EventKind) (text : String) : Prop := ∀ f, p.Has f (.said kind text)

abbrev Prints (p : Procedure Cmd Reply α) (text : String) : Prop := p.Says .plain text

/-- The report gets a value under the key, and has the datum at the end of the path. -/
def Reports (p : Procedure Cmd Reply α) (key : String) (path : List Datum.Step) (d : Datum) : Prop :=
  ∀ f, ∃ w, p.Has f (.wrote w) ∧ w.at? key path = some d

variable {p : Procedure Cmd Reply α} {key field : String} {path : List Datum.Step} {d : Datum}

theorem Reports.ofSet (value : Datum) (h : ∀ f, p.Has f (.wrote (.set key value))) (hd : value.at? path = some d) :
    p.Reports key path d :=
  fun f => ⟨_, h f, (if_pos rfl).trans hd⟩

theorem Reports.ofSetIn (value : Datum) (h : ∀ f, p.Has f (.wrote (.setIn key field value)))
    (hd : value.at? path = some d) : p.Reports key (.field field :: path) d :=
  fun f => ⟨_, h f, (if_pos ⟨rfl, rfl⟩).trans hd⟩

end Procedure

namespace Format

open Procedure

/-- What the counters of the health log are called, apart from those of data units. -/
def counterLabels : List String := [
  "Host Read Commands:                 ", "Host Write Commands:                ",
  "Controller Busy Time:               ", "Power Cycles:                       ",
  "Power On Hours:                     ", "Unsafe Shutdowns:                   ",
  "Media and Data Integrity Errors:    ", "Error Information Log Entries:      "]

structure SelfTestsShown (log : Ata.SelfTestLog) (numbers : List Nat) (statuses : List (Nat × Nat))
    (rows : List Datum) : Prop where
  lines : ∀ i number status t, numbers[i]? = some number → statuses[i]? = some status →
    log.entries[i]? = some t → ∀ limit : Option Nat, limit.all (i < ·) → ∀ field,
      let count := Text.alignLeft 2 (toString number)
      let kind := Text.alignLeft 18 (Ata.SelfTest.describe t.type)
      let outcome := Text.alignLeft 29 (Ata.SelfTest.statusText (16 * status.1))
      let lba := (t.failingLba.map toString).getD "-"
      (Ata.Exam.selfTestTable log limit field).Prints
        s!"# {count} {kind}  {outcome} {Text.zeroPadded 2 status.2}%  {Text.column 15 t.hours}  {lba}\n"
  table : ∀ i row, rows[i]? = some row → ∀ limit : Option Nat, limit.all (i < ·) → ∀ field,
    (Ata.Exam.selfTestTable log limit field).Reports "ata_smart_self_test_log"
      [.field field, .field "table", .item i] row

inductive Shown : (f : Format) → f.Result → List Datum → Prop where
  | identity {id : Ata.Identity} {model serial firmware size : String} {sectors sectorSize bytes recommended : Nat}
      {rotation : Option Nat} {intact : Option Bool} {bits : List (List Bool)}
      (hmodel : ∀ s, (Ata.Exam.driveInfo id s).Prints s!"Device Model:     {model}\n")
      (hserial : ∀ s, (Ata.Exam.driveInfo id s).Prints s!"Serial Number:    {serial}\n")
      (hfirmware : ∀ s, (Ata.Exam.driveInfo id s).Prints s!"Firmware Version: {firmware}\n")
      (hsectors : ∀ s, (Ata.Exam.driveInfo id s).Reports "user_capacity" [.field "blocks"] (.nat sectors))
      (hsectorSize : ∀ s, (Ata.Exam.driveInfo id s).Prints s!"Sector Size:      {sectorSize} bytes logical\n")
      (hbytes : ∀ s, (Ata.Exam.driveInfo id s).Reports "user_capacity" [.field "bytes"] (.nat bytes))
      (hsize : bytes ≠ 0 → ∀ s, (Ata.Exam.driveInfo id s).Prints s!"User Capacity:    {size}\n")
      (hrotation : ∀ rpm : Nat, rotation = some (rpm + 1) →
        ∀ s, (Ata.Exam.driveInfo id s).Prints s!"Rotation Rate:    {rpm + 1} rpm\n")
      (hintact : intact = some false → ∀ s, (Ata.Exam.driveInfo id s).Says .warning
        "Warning! Drive Identity Structure error: invalid SMART checksum.\n")
      (hrecommended : id.bit 83 9 = true → id.bit 86 9 = true →
        (Ata.Exam.aam id).Prints s!"AAM level is:     {id.word 94 % 256} (recommended {recommended})\n")
      (hbits : ∀ (i k : Nat) (b : Bool), (bits[i]?.bind (·[k]?)) = some b →
        let label := Text.alignRight 9 s!"{i}.{k}"
        let digit := if b then "1" else "0"
        (Ata.Exam.dump id 2 2).Prints s!"{label}  {digit}\n") :
      Shown .identity id [.text model, .text serial, .text firmware, .nat sectors, .nat sectorSize, .nat bytes,
        .text size, .opt .nat rotation, .opt .bool intact, .nat recommended,
        .list (bits.map fun word => .list (word.map .bool))]
  | smartData {d : Ata.SmartData} {outcome remaining : Nat} {polling : Datum} {rows : List (String × Nat)}
      (houtcome :
        let text := Ata.SelfTest.statusText (16 * outcome)
        (Ata.Exam.generalValues d).Prints
          s!"Self-test execution status:      ({Text.column 4 d.selfTestStatus})\t{text}\n")
      (hremaining : outcome = 0xf →
        (Ata.Exam.generalValues d).Prints s!"\t\t\t\t\t{remaining}% of test remaining.\n")
      (hpolling : (Ata.Exam.generalValues d).Reports "ata_smart_data" [.field "self_test", .field "polling_minutes"]
        polling)
      (hletters : ∀ i row, rows[i]? = some row → ∀ ts form, (Ata.Exam.attributes d ts form).Reports
        "ata_smart_attributes" [.field "table", .item i, .field "flags", .field "string"] (.text row.1))
      (hraw : ∀ i row, rows[i]? = some row → ∀ ts form, (Ata.Exam.attributes d ts form).Reports
        "ata_smart_attributes" [.field "table", .item i, .field "raw", .field "value"] (.nat row.2)) :
      Shown .smartData d [.list [.nat outcome, .nat remaining], polling,
        .list (rows.map fun row => .list [.text row.1, .nat row.2])]
  | selfTests {log : Ata.SelfTestLog} {numbers : List Nat} {statuses : List (Nat × Nat)} {rows : List Datum}
      (h : SelfTestsShown log numbers statuses rows) :
      Shown .selfTests log [.list (numbers.map .nat), .list (statuses.map fun s => .list [.nat s.1, .nat s.2]),
        .list rows]
  | extSelfTests {log : Ata.SelfTestLog} {numbers : List Nat} {statuses : List (Nat × Nat)} {rows : List Datum}
      (h : SelfTestsShown log numbers statuses rows) :
      Shown .extSelfTests log [.list (numbers.map .nat), .list (statuses.map fun s => .list [.nat s.1, .nat s.2]),
        .list rows]
  | selectiveLog {log : Ata.SelectiveLog} {numbers : List Nat}
      (hlines : ∀ row ∈ numbers.zip log.spans, (Ata.Exam.showSpans log).Prints
        s!"{Text.column 5 row.1} {Text.column 8 row.2.first} {Text.column 8 row.2.last}  Not_testing\n") :
      Shown .selectiveLog log [.list (numbers.map .nat)]
  | pendingDefects {count : Nat} {entries : String}
      (h : count ≠ 0 → ∀ limit,
        (Ata.Exam.showDefects limit count).Prints s!"{entries} entries (showing at most {limit})\n\n") :
      Shown .pendingDefects count [.text entries]
  | capacity {c : Scsi.Capacity} {size : String} {bytes : Datum}
      (hsize : (Scsi.Exam.showCapacity c).Prints s!"User Capacity:        {size}\n")
      (hbytes : (Scsi.Exam.showCapacity c).Reports "user_capacity" [.field "bytes"] bytes) :
      Shown .capacity c [.text size, bytes]
  | controller {c : Nvme.Controller} {size version warning critical : String} {admin nvm : List String}
      {selfTests : Bool}
      (hsize : c.totalCapacity ≠ 0 →
        (Nvme.Exam.driveInfo c).Prints s!"Total NVM Capacity:                 {size}\n")
      (hversion : (Nvme.Exam.driveInfo c).Prints s!"NVMe Version:                       {version}\n")
      (hadmin : (Nvme.Exam.capabilities c).Prints
        s!"Optional Admin Commands (0x{Text.hex 4 c.adminCommands}):  {Nvme.Exam.joined admin}\n")
      (hnvm : (Nvme.Exam.capabilities c).Prints
        s!"Optional NVM Commands (0x{Text.hex 4 c.nvmCommands}):    {Nvme.Exam.joined nvm}\n")
      (hwarning : (Nvme.Exam.capabilities c).Prints s!"Warning  Comp. Temp. Threshold:     {warning}\n")
      (hcritical : (Nvme.Exam.capabilities c).Prints s!"Critical Comp. Temp. Threshold:     {critical}\n")
      (hselfTests : selfTests = false →
        (Nvme.Exam.selfTestLog (some c)).Says .info "Self-tests not supported\n\n") :
      Shown .controller c [.text size, .text version, .list (admin.map .text), .list (nvm.map .text), .text warning,
        .text critical, .bool selfTests]
  | health {h : Nvme.Health} {warnings : List String} {celsius : Int} {read written : String}
      {counters : List String}
      (hwarnings : ∀ w ∈ warnings, (Nvme.Exam.verdict h).Says .warning s!"- {w}\n")
      (hcelsius : (Nvme.Exam.healthLog h).Prints s!"Temperature:                        {celsius} Celsius\n")
      (hread : (Nvme.Exam.healthLog h).Prints s!"Data Units Read:                    {read}\n")
      (hwritten : (Nvme.Exam.healthLog h).Prints s!"Data Units Written:                 {written}\n")
      (hcounters : ∀ line ∈ counterLabels.zip (counters.drop 2),
        (Nvme.Exam.healthLog h).Prints s!"{line.1}{line.2}\n") :
      Shown .health h [.list (warnings.map .text), .int celsius, .text read, .text written,
        .list (counters.map .text)]
  | nvmeSelfTests {log : Nvme.SelfTestLog} {rows : List Datum}
      (h : (Nvme.Exam.showSelfTests log).Reports "nvme_self_test_log" [.field "table"] (.list rows)) :
      Shown .nvmeSelfTests log rows
  | nothing {f : Format} (a : f.Result) : Shown f a []

theorem statusText_outcome (status : Nat) :
    Ata.SelfTest.statusText (16 * (status / 16)) = Ata.SelfTest.statusText status := by
  have houtcome : 16 * (status / 16) / 16 = status / 16 := Nat.mul_div_cancel_left _ (by decide)
  simp only [Ata.SelfTest.statusText, houtcome]

theorem bitLine_mem (id : Ata.Identity) {i k w : Nat} (hw : id.words[i]? = some w) (hk : k < 16) :
    let label := Text.alignRight 9 s!"{i}.{k}"
    let digit := if w.testBit k then "1" else "0"
    s!"{label}  {digit}\n" ∈ (id.words.mapIdx fun i w => Ata.Exam.wordLines i w 2 2).flatten := by
  obtain ⟨hi, rfl⟩ := List.getElem?_eq_some_iff.1 hw
  refine List.mem_flatten.2 ⟨_, List.mem_mapIdx.2 ⟨i, hi, rfl⟩, ?_⟩
  refine List.mem_cons_of_mem _ (List.mem_map.2 ⟨k, ?_, rfl⟩)
  simp [hk]

theorem has_driveInfo (id : Ata.Identity) (s : Ata.Sections) (f : Ata.Taskfile → Except Fault Ata.Response) :
    ∀ a ∈ [
      .said .plain s!"Device Model:     {id.model}\n",
      .said .plain s!"Serial Number:    {id.serial}\n",
      .said .plain s!"Firmware Version: {id.firmware}\n",
      .said .plain s!"Sector Size:      {id.logicalSectorSize} bytes logical\n",
      .wrote (.set "user_capacity" (.record [("blocks", .nat id.sectors), ("bytes", .nat id.capacityBytes)]))],
      (Ata.Exam.driveInfo id s).Has f a := by
  rcases hrate : id.rotationRate? with _ | (_ | _) <;> simp [Ata.Exam.driveInfo, hrate]

theorem shown_identity (id : Ata.Identity) : Shown identity id (identity.figures id) := by
  have hfigures : identity.figures id = [.text id.model, .text id.serial, .text id.firmware, .nat id.sectors,
      .nat id.logicalSectorSize, .nat id.capacityBytes, .text (Text.capacity id.capacityBytes),
      .opt .nat id.rotationRate?, .opt .bool id.checksumOk?, .nat (id.word 94 / 256),
      .list ((id.words.map fun w => (List.range 16).map w.testBit).map fun word => .list (word.map .bool))] := by
    simp [figures, identityFigures, Function.comp_def]
  let blocks : String × Datum := ("blocks", .nat id.sectors)
  let bytes : String × Datum := ("bytes", .nat id.capacityBytes)
  have hcapacity (s : Ata.Sections) (f : Ata.Taskfile → Except Fault Ata.Response) :
      (Ata.Exam.driveInfo id s).Has f (.wrote (.set "user_capacity" (.record [blocks, bytes]))) :=
    has_driveInfo id s f _ (by simp [blocks, bytes])
  rw [hfigures]
  refine .identity ?_ ?_ ?_ ?_ ?_ ?_ ?_ ?_ ?_ ?_ ?_
  · exact fun s f => has_driveInfo id s f _ (by simp)
  · exact fun s f => has_driveInfo id s f _ (by simp)
  · exact fun s f => has_driveInfo id s f _ (by simp)
  · exact fun s => .ofSet _ (hcapacity s) rfl
  · exact fun s f => has_driveInfo id s f _ (by simp)
  · exact fun s => .ofSet _ (hcapacity s) rfl
  · intro h s f
    rcases hrate : id.rotationRate? with _ | (_ | _) <;> simp [Ata.Exam.driveInfo, hrate, Nat.pos_of_ne_zero h]
  · intro rpm hrate s f
    simp [Ata.Exam.driveInfo, hrate]
  · intro h s f
    rcases hrate : id.rotationRate? with _ | (_ | _) <;> simp [Ata.Exam.driveInfo, hrate, h]
  · intro hsupported hon f
    simp [Ata.Exam.aam, Ata.Exam.levelSetting, hsupported, hon, String.append_assoc]
  · intro i k b h label digit f
    obtain ⟨word, hword, hbit⟩ := Option.bind_eq_some_iff.1 h
    rw [List.getElem?_map] at hword
    obtain ⟨w, hw, rfl⟩ := Option.map_eq_some_iff.1 hword
    obtain ⟨hk, hbit⟩ := List.getElem?_eq_some_iff.1 hbit
    obtain rfl : w.testBit k = b := by simpa using hbit
    have hline : s!"{label}  {digit}\n" ∈ (id.words.mapIdx fun i w => Ata.Exam.wordLines i w 2 2).flatten :=
      bitLine_mem id hw (by simpa using hk)
    simp only [Ata.Exam.dump, has_bind, has_print, List.forM_eq_forM, has_forM_print, hline, true_or, or_true]

theorem reports_attribute {d : Ata.SmartData} {i : Nat} {a : Ata.Attribute} (ha : d.attributes[i]? = some a)
    (ts : List Ata.Threshold) (form : Ata.TableFormat) {path : List Datum.Step} {leaf : Datum}
    (hleaf : (Ata.Exam.AttributeRow.datum ⟨a, Ata.Threshold.limit? ts a.id⟩).at? path = some leaf) :
    (Ata.Exam.attributes d ts form).Reports "ata_smart_attributes" (.field "table" :: .item i :: path) leaf := by
  let rows := (Ata.Exam.AttributeRow.join d ts).map Ata.Exam.AttributeRow.datum
  have hrow : rows[i]? = some (Ata.Exam.AttributeRow.datum ⟨a, Ata.Threshold.limit? ts a.id⟩) := by
    simp [rows, Ata.Exam.AttributeRow.join, ha]
  refine .ofSet (.record [("revision", .nat d.revision), ("table", .list rows)]) (fun f => ?_) ?_
  · simp [Ata.Exam.attributes, rows]
  · show rows[i]?.bind (·.at? path) = some leaf
    rw [hrow]
    exact hleaf

theorem shown_smartData (d : Ata.SmartData) : Shown smartData d (smartData.figures d) := by
  have hfigures : smartData.figures d = [
      .list [.nat (d.selfTestStatus / 16), .nat (Ata.SelfTest.remaining d.selfTestStatus)], polling d,
      .list ((d.attributes.map fun a => (Ata.Attribute.flagLetters a.flags, a.raw)).map fun row =>
        .list [.text row.1, .nat row.2])] := by
    simp [figures, smartDataFigures, statusFigures, Function.comp_def]
  rw [hfigures]
  refine .smartData ?_ ?_ ?_ ?_ ?_
  · intro text f
    simp [Ata.Exam.generalValues, text, statusText_outcome]
  · intro h f
    simp [Ata.Exam.generalValues, h]
  · refine .ofSet (.record [
      ("offline_data_collection", .record [
        ("status", .record [("value", .nat d.offlineStatus)]),
        ("completion_seconds", .nat d.offlineSeconds)]),
      ("self_test", .record [
        ("status", .record [("value", .nat d.selfTestStatus),
          ("string", .text (Ata.SelfTest.statusText d.selfTestStatus))]),
        ("polling_minutes", polling d)]),
      ("capabilities", .record [
        ("values", .list [.nat d.offlineCapability, .nat d.smartCapability]),
        ("error_logging_supported", .bool d.errorLogging)])]) (fun f => ?_) rfl
    simp [Ata.Exam.generalValues, polling]
  · intro i row hrow ts form
    rw [List.getElem?_map] at hrow
    obtain ⟨a, ha, rfl⟩ := Option.map_eq_some_iff.1 hrow
    exact reports_attribute ha ts form rfl
  · intro i row hrow ts form
    rw [List.getElem?_map] at hrow
    obtain ⟨a, ha, rfl⟩ := Option.map_eq_some_iff.1 hrow
    exact reports_attribute ha ts form rfl

def entriesShown (log : Ata.SelfTestLog) : Option Nat → List Ata.SelfTest
  | some n => log.entries.take n
  | none => log.entries

theorem getElem?_entriesShown (log : Ata.SelfTestLog) {limit : Option Nat} {i : Nat} (h : limit.all (i < ·)) :
    (entriesShown log limit)[i]? = log.entries[i]? := by
  cases limit with
  | some n => exact List.getElem?_take_of_lt (by simpa using h)
  | none => rfl

theorem has_selfTestLine (log : Ata.SelfTestLog) (limit : Option Nat) (field : String) {i : Nat} {t : Ata.SelfTest}
    (h : (entriesShown log limit)[i]? = some t) (f : Ata.Taskfile → Except Fault Ata.Response) :
    (Ata.Exam.selfTestTable log limit field).Has f (.said .plain (Ata.Exam.selfTestLine (i + 1) t)) := by
  have hline : Ata.Exam.selfTestLine (i + 1) t ∈
      (entriesShown log limit).mapIdx fun i t => Ata.Exam.selfTestLine (i + 1) t := by
    obtain ⟨hi, rfl⟩ := List.getElem?_eq_some_iff.1 h
    exact List.mem_mapIdx.2 ⟨i, hi, rfl⟩
  have hmem : t ∈ log.entries := by
    cases limit with
    | some n => exact List.mem_of_mem_take (List.mem_of_getElem? h)
    | none => exact List.mem_of_getElem? h
  have hsome : log.entries.isEmpty = false := List.isEmpty_eq_false_iff.2 (List.ne_nil_of_mem hmem)
  cases limit <;> simp only [entriesShown] at hline <;>
    simp only [Ata.Exam.selfTestTable, hsome, Bool.false_eq_true, if_false, has_bind, has_print, List.forM_eq_forM,
      has_forM_print, hline, true_or, or_true]

theorem has_selfTestRows (log : Ata.SelfTestLog) (limit : Option Nat) (field : String)
    (f : Ata.Taskfile → Except Fault Ata.Response) : (Ata.Exam.selfTestTable log limit field).Has f
      (.wrote (.setIn "ata_smart_self_test_log" field (.record [
        ("revision", .nat log.revision), ("count", .nat log.entries.length),
        ("table", .list ((entriesShown log limit).map Ata.Exam.selfTestDatum))]))) := by
  cases limit <;> simp [Ata.Exam.selfTestTable, entriesShown]

theorem shown_selfTests (log : Ata.SelfTestLog) : ∃ numbers statuses,
    selfTestFigures log = [.list (numbers.map .nat), .list (statuses.map fun s => .list [.nat s.1, .nat s.2]),
      .list (log.entries.map Ata.Exam.selfTestDatum)] ∧
      SelfTestsShown log numbers statuses (log.entries.map Ata.Exam.selfTestDatum) := by
  refine ⟨(List.range log.entries.length).map (· + 1),
    log.entries.map fun t => (t.status / 16, Ata.SelfTest.remaining t.status), ?_, ?_, ?_⟩
  · simp [selfTestFigures, numbers, statusFigures, Function.comp_def]
  · intro i number status t hnumber hstatus ht limit hlimit field count kind outcome lba f
    rw [List.getElem?_map] at hnumber hstatus
    obtain ⟨j, hj, rfl⟩ := Option.map_eq_some_iff.1 hnumber
    obtain ⟨t', ht', rfl⟩ := Option.map_eq_some_iff.1 hstatus
    obtain ⟨hi, hj⟩ := List.getElem?_eq_some_iff.1 hj
    obtain rfl : i = j := by simpa using hj
    obtain rfl : t' = t := Option.some.inj (ht'.symm.trans ht)
    have houtcome : outcome = Text.alignLeft 29 (Ata.SelfTest.statusText t'.status) :=
      congrArg (Text.alignLeft 29) (statusText_outcome t'.status)
    rw [houtcome]
    exact has_selfTestLine log limit field ((getElem?_entriesShown log hlimit).trans ht) f
  · intro i row hrow limit hlimit field
    refine .ofSetIn _ (has_selfTestRows log limit field) ?_
    show ((entriesShown log limit).map Ata.Exam.selfTestDatum)[i]?.bind (·.at? []) = some row
    rw [List.getElem?_map, getElem?_entriesShown log hlimit, ← List.getElem?_map, hrow]
    rfl

theorem shown_selectiveLog (log : Ata.SelectiveLog) : Shown selectiveLog log (selectiveLog.figures log) := by
  have hfigures : selectiveLog.figures log = [.list (((List.range log.spans.length).map (· + 1)).map .nat)] := by
    simp [figures, numbers, Function.comp_def]
  rw [hfigures]
  refine .selectiveLog fun row hrow f => ?_
  obtain ⟨i, hi, rfl⟩ := List.getElem_of_mem hrow
  have hi : i < log.spans.length := by simpa using hi
  let line (i : Nat) (s : Ata.Span) : String :=
    s!"{Text.column 5 (i + 1)} {Text.column 8 s.first} {Text.column 8 s.last}  Not_testing\n"
  have hline : line i log.spans[i] ∈ log.spans.mapIdx line := List.mem_mapIdx.2 ⟨i, hi, rfl⟩
  simp only [line] at hline
  simp only [List.getElem_zip, List.getElem_map, List.getElem_range, has_bind, has_print, List.forM_eq_forM,
    has_forM_print, hline, true_or, or_true]

theorem shown_capacity (c : Scsi.Capacity) : Shown capacity c (capacity.figures c) := by
  refine .capacity ?_ (.ofSet (.record [("blocks", .nat c.blocks), ("bytes", .nat c.bytes)]) ?_ rfl)
  · intro f
    simp
  · intro f
    simp

theorem shown_pendingDefects (count : Nat) : Shown pendingDefects count (pendingDefects.figures count) := by
  refine .pendingDefects fun h limit f => ?_
  simp [h]

theorem shown_controller (c : Nvme.Controller) : Shown controller c (controller.figures c) := by
  refine .controller ?_ ?_ ?_ ?_ ?_ ?_ ?_
  · intro h f
    simp [Nvme.Exam.driveInfo, Nat.pos_of_ne_zero h]
  · intro f
    simp [Nvme.Exam.driveInfo]
  · intro f
    simp [Nvme.Exam.capabilities]
  · intro f
    simp [Nvme.Exam.capabilities]
  · intro f
    simp [Nvme.Exam.capabilities]
  · intro f
    simp [Nvme.Exam.capabilities]
  · intro h f
    simp [Nvme.Exam.selfTestLog, h]

theorem shown_health (h : Nvme.Health) : Shown health h (health.figures h) := by
  have hfigures : health.figures h = [
      .list ((Nvme.Exam.bitNames h.criticalWarning Nvme.Exam.warnings).map .text), .int h.celsius,
      .text (Nvme.Exam.dataUnits h.unitsRead), .text (Nvme.Exam.dataUnits h.unitsWritten),
      .list ((h.counters.map Text.grouped).map .text)] := by
    simp [figures, healthFigures, Function.comp_def]
  rw [hfigures]
  refine .health ?_ ?_ ?_ ?_ ?_
  · intro w hw f
    have hfailed : h.passed = false := by
      by_contra hpassed
      have hzero : h.criticalWarning = 0 := by simpa [Nvme.Health.passed] using hpassed
      simp [Nvme.Exam.bitNames, hzero] at hw
    simp [Nvme.Exam.verdict, hfailed, hw]
  · intro f
    simp [Nvme.Exam.healthLog]
  · intro f
    simp [Nvme.Exam.healthLog]
  · intro f
    simp [Nvme.Exam.healthLog]
  · simp [counterLabels, Nvme.Health.counters, Nvme.Exam.healthLog, Says]

theorem shown_nvmeSelfTests (log : Nvme.SelfTestLog) : Shown nvmeSelfTests log (nvmeSelfTests.figures log) := by
  refine .nvmeSelfTests (.ofSet (.record [
    ("current_self_test_operation", .record [("value", .nat log.operation)]),
    ("table", .list (log.results.map Nvme.Exam.selfTestDatum))]) (fun f => ?_) rfl)
  simp

theorem shown_figures (f : Format) (a : f.Result) : f.Shown a (f.figures a) := by
  cases f with
  | identity => exact shown_identity a
  | smartData => exact shown_smartData a
  | selfTests =>
    obtain ⟨numbers, statuses, hfigures, h⟩ := shown_selfTests a
    rw [figures, hfigures]
    exact .selfTests h
  | extSelfTests =>
    obtain ⟨numbers, statuses, hfigures, h⟩ := shown_selfTests a
    rw [figures, hfigures]
    exact .extSelfTests h
  | selectiveLog => exact shown_selectiveLog a
  | pendingDefects => exact shown_pendingDefects a
  | capacity => exact shown_capacity a
  | controller => exact shown_controller a
  | health => exact shown_health a
  | nvmeSelfTests => exact shown_nvmeSelfTests a
  | thresholds | directory | summaryErrors | extErrors | sctStatus | statistics | phyCounters | sense
  | registers | inquiry | exceptions | caching | errorLog => exact .nothing a

/-- What is worked out of decoded data in checked arithmetic is what the sections show. -/
theorem work_shown {f : Format} {bs : List UInt8} {a : f.Result} (h : f.decode bs = .ok a) :
    ∃ figures, f.work a = .ok figures ∧ f.Shown a figures :=
  ⟨_, work_eq (bounded_of_decode h), shown_figures f a⟩

end Format

end DriveHealth
