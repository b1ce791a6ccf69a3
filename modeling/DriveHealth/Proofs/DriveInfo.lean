import DriveHealth.Proofs.Capacities
import DriveHealth.Proofs.NameLines
set_option autoImplicit false

namespace DriveHealth

open Procedure

section

variable {Cmd Reply α σ : Type}

/-- What is left of a procedure behind its first texts and writes. -/
def Procedure.behind : Nat → Procedure Cmd Reply α → Procedure Cmd Reply α
  | count + 1, .say _ _ next => next.behind count
  | count + 1, .record _ next => next.behind count
  | _, p => p

@[simp] theorem Procedure.behind_zero (p : Procedure Cmd Reply α) : p.behind 0 = p := by
  cases p <;> rfl

@[simp] theorem Procedure.behind_print_bind (count : Nat) (text : String) (g : Unit → Procedure Cmd Reply α) :
    (print text >>= g).behind (count + 1) = (g ()).behind count := rfl

def infoHeading : String := "=== START OF INFORMATION SECTION ==="

/-- A section that begins with the heading and some names. -/
def introduce (names : List DeviceName) (more : Procedure Cmd Reply Unit) : Procedure Cmd Reply Unit := do
  print (infoHeading ++ "\n")
  forM names fun n => print (n.line ++ "\n")
  more

theorem acts_introduce (names : List DeviceName) (more : Procedure Cmd Reply Unit) (ch : Channel Cmd Reply σ) (s : σ)
    (t : Tolerance) : ((introduce names more).course ch s t).acts = .said .plain (infoHeading ++ "\n") ::
      (names.map (fun n => .said .plain (n.line ++ "\n")) ++ (more.course ch s t).acts) := by
  refine congrArg (_ :: ·) ?_
  induction names with
  | nil => rfl
  | cons n names ih => exact congrArg (_ :: ·) ih

def nameTitles : List String :=
  ["Device Model:", "Model Number:", "Serial Number:", "Firmware Version:", "Vendor:", "Product:", "Revision:"]

/-- An act that puts no line into the text that begins with a title. -/
def Act.Aside (name : Cmd → String) : Act Cmd Reply → Prop
  | .said _ text => IsAside nameTitles text
  | .sent c _ success => IsAside nameTitles (traceLine (name c) success)
  | .refused c => IsAside nameTitles c.refusal
  | .wrote _ => True
  | .forgiven _ => True

@[simp] theorem Act.aside_said {name : Cmd → String} (kind : EventKind) (text : String) :
    (Act.said kind text : Act Cmd Reply).Aside name ↔ IsAside nameTitles text := Iff.rfl

@[simp] theorem Act.aside_wrote {name : Cmd → String} (w : Report.Write) :
    (Act.wrote w : Act Cmd Reply).Aside name ↔ True := Iff.rfl

theorem aside_events {name : Cmd → String} {acts : List (Act Cmd Reply)} (h : ∀ a ∈ acts, a.Aside name)
    (trace : Bool) : ∀ e ∈ acts.flatMap (Act.events name trace), IsAside nameTitles e.text := by
  intro e he
  obtain ⟨a, ha, he⟩ := List.mem_flatMap.1 he
  have haside := h a ha
  obtain rfl | ⟨c, reply, success, rfl, rfl⟩ | ⟨c, rfl, rfl⟩ := Act.mem_events he
  · exact haside
  · exact haside
  · exact haside

/-- An act that writes nothing under some keys. -/
def Act.Spares (keys : List String) (a : Act Cmd Reply) : Prop := ∀ w ∈ a.writes, w.key ∉ keys

@[simp] theorem Act.spares_said (keys : List String) (kind : EventKind) (text : String) :
    (Act.said kind text : Act Cmd Reply).Spares keys ↔ True := by simp [Spares, writes]

@[simp] theorem Act.spares_set (keys : List String) (key : String) (value : Datum) :
    (Act.wrote (.set key value) : Act Cmd Reply).Spares keys ↔ key ∉ keys := by
  simp [Spares, writes, Report.Write.key]

@[simp] theorem Act.spares_sent (keys : List String) (c : Cmd) (reply : Except Fault Reply) (success : Bool) :
    (Act.sent c reply success).Spares keys ↔ True := by simp [Spares, writes]

@[simp] theorem Act.spares_forgiven (keys : List String) (c : FailureClass) :
    (Act.forgiven c : Act Cmd Reply).Spares keys ↔ True := by simp [Spares, writes]

@[simp] theorem Act.spares_refused (keys : List String) (c : FailureClass) :
    (Act.refused c : Act Cmd Reply).Spares keys ↔ True := by simp [Spares, writes]

theorem find?_writes_spared {keys : List String} {acts : List (Act Cmd Reply)} (h : ∀ a ∈ acts, a.Spares keys)
    {key : String} (hkey : key ∈ keys) : (acts.flatMap Act.writes).reverse.find? (·.key = key) = none := by
  rw [List.find?_eq_none]
  intro w hw heq
  obtain ⟨a, ha, hw⟩ := List.mem_flatMap.1 (List.mem_reverse.1 hw)
  exact h a ha w hw (of_decide_eq_true heq ▸ hkey)

/-- What a section has told: the heading, the names and some asides in the text, and the names in the report. -/
structure Introduced (names : List DeviceName) (asides : List Event) (before after : Recorder) : Prop where
  events : after.transcript.events = before.transcript.events ++
    (⟨.plain, infoHeading ++ "\n"⟩ :: (names.map (fun n => ⟨.plain, n.line ++ "\n"⟩) ++ asides))
  reported : ∀ n ∈ names, after.report.get? n.key = some (.text n.value)

theorem introduced_run {names : List DeviceName} {p more : Procedure Cmd Reply Unit} (hp : p = introduce names more)
    (ch : Channel Cmd Reply σ) (name : Cmd → String) (trace : Bool) (s : σ) {r : Recorder}
    (shown : r.transcript.suppressed = false)
    (hwrites : ∀ n ∈ names, ((more.course ch s r.tolerance).acts.flatMap Act.writes).reverse.find? (·.key = n.key) =
      some (.set n.key (.text n.value))) :
    Introduced names ((more.course ch s r.tolerance).acts.flatMap (Act.events name trace)) r
      (p.run ch name trace s r).recorder := by
  subst hp
  have hacts := acts_introduce names more ch s r.tolerance
  let said : List (Act Cmd Reply) := names.map fun n => .said .plain (n.line ++ "\n")
  refine ⟨?_, fun n hn => get?_run ch name trace hacts ?_⟩
  · have hsaid : said.flatMap (Act.events name trace) = names.map fun n => ⟨.plain, n.line ++ "\n"⟩ := by
      rw [List.flatMap_map, List.map_eq_flatMap]
      exact List.flatMap_congr fun n _ => by simp [Act.events]
    rw [events_run ch name trace hacts shown, List.flatMap_cons, List.flatMap_append, hsaid]
    simp [Act.events]
  · have hsaid : said.flatMap Act.writes = [] := by simp [said, Act.writes]
    rw [List.flatMap_cons, List.flatMap_append, hsaid]
    exact hwrites n hn

theorem introduced_writing {names : List DeviceName} {p more : Procedure Cmd Reply Unit} (hp : p = introduce names more)
    (hwriting : more.always Act.Writing fun _ => True) {f : Cmd → Except Fault Reply}
    (hwrites : ∀ n ∈ names, ((more.script f).flatMap Act.writes).reverse.find? (·.key = n.key) =
      some (.set n.key (.text n.value)))
    (ch : Channel Cmd Reply σ) (name : Cmd → String) (trace : Bool) (s : σ) {r : Recorder}
    (shown : r.transcript.suppressed = false) :
    Introduced names ((more.script f).flatMap (Act.events name trace)) r (p.run ch name trace s r).recorder := by
  have hacts := acts_writing hwriting f ch s r.tolerance
  rw [← hacts] at hwrites ⊢
  exact introduced_run hp ch name trace s shown hwrites

end

/-- Replies that differ at most in the octets of the names. -/
def SameApart (names : List DeviceName) (bs bs' : List UInt8) : Prop :=
  ∀ i, (∀ n ∈ names, i < n.start ∨ n.start + n.length ≤ i) → bs'[i]? = bs[i]?

theorem SameApart.field_eq {names : List DeviceName} {bs bs' : List UInt8} (h : SameApart names bs bs')
    {start len : Nat} (hapart : ∀ n ∈ names, start + len ≤ n.start ∨ n.start + n.length ≤ start) :
    Ata.field bs' start len = Ata.field bs start len := by
  refine congrArg littleEndian (List.ext_getElem? fun k => ?_)
  simp only [Ata.stretch, List.getElem?_take, List.getElem?_drop]
  split
  · refine h (start + k) fun n hn => ?_
    have := hapart n hn
    omega
  · rfl

namespace Ata

def Identity.names (id : Identity) : List DeviceName := [
  { title := "Device Model:", width := 18, key := "model_name", value := id.model, start := 54, length := 40 },
  { title := "Serial Number:", width := 18, key := "serial_number", value := id.serial, start := 20, length := 20 },
  { title := "Firmware Version:", width := 18, key := "firmware_version", value := id.firmware, start := 46,
    length := 8 }]

/-- Drives that differ in nothing but their names, as far as the section knows. -/
structure Identity.Alike (id id' : Identity) : Prop where
  capacityBytes : id'.capacityBytes = id.capacityBytes
  logicalSectorSize : id'.logicalSectorSize = id.logicalSectorSize
  rotationRate? : id'.rotationRate? = id.rotationRate?
  smartSupported : id'.smartSupported = id.smartSupported
  smartEnabled : id'.smartEnabled = id.smartEnabled
  checksumOk? : id'.checksumOk? = id.checksumOk?

namespace Exam

theorem driveInfo_eq (id : Identity) (s : Sections) :
    driveInfo id s = introduce id.names ((driveInfo id s).behind 4) := by
  have hmodel : "Device Model:     " = Text.alignLeft 18 "Device Model:" := by decide
  have hserial : "Serial Number:    " = Text.alignLeft 18 "Serial Number:" := by decide
  have hfirmware : "Firmware Version: " = Text.alignLeft 18 "Firmware Version:" := by decide
  rw [driveInfo, hmodel, hserial, hfirmware]
  rfl

theorem writing_behind_driveInfo (id : Identity) (s : Sections) :
    ((driveInfo id s).behind 4).always Act.Writing fun _ => True := by
  rcases hrate : id.rotationRate? with _ | (_ | _) <;> simp [driveInfo, hrate]

theorem aside_driveInfo (id : Identity) (s : Sections) :
    ((driveInfo id s).behind 4).always (Act.Aside Taskfile.name) fun _ => True := by
  have hfixed : ∀ text ∈ ["Rotation Rate:    Solid State Device\n", "Device is:        Not in drive database\n",
      "SMART support is: Available - device has SMART capability.\n",
      "SMART support is: Unavailable - device lacks SMART capability.\n",
      "Warning! Drive Identity Structure error: invalid SMART checksum.\n", "\n"], IsAside nameTitles text := by decide
  have hcapacity (n : Nat) : IsAside nameTitles ("User Capacity:    " ++ Text.capacity n ++ "\n") :=
    .around (Text.newline_notMem_capacity n) (by decide)
  have hsize (n : Nat) : IsAside nameTitles ("Sector Size:      " ++ n.repr ++ " bytes logical\n") :=
    .around (Text.newline_notMem_toString n) (by decide)
  have hrate (n : Nat) : IsAside nameTitles ("Rotation Rate:    " ++ n.repr ++ " rpm\n") :=
    .around (Text.newline_notMem_toString n) (by decide)
  have hsmart (on : Bool) : IsAside nameTitles ("SMART support is: " ++ onOff on ++ "\n") := by
    cases on <;> decide
  rcases hcase : id.rotationRate? with _ | (_ | _) <;>
    simp [driveInfo, hcase, hcapacity, hsize, hrate, hsmart, hfixed]

theorem events_driveInfo {id id' : Identity} (h : id.Alike id') (s : Sections) (f : Taskfile → Except Fault Response)
    (trace : Bool) :
    (((driveInfo id' s).behind 4).script f).flatMap (Act.events Taskfile.name trace) =
      (((driveInfo id s).behind 4).script f).flatMap (Act.events Taskfile.name trace) := by
  rcases hrate : id.rotationRate? with _ | (_ | _) <;>
    simp [driveInfo, h.capacityBytes, h.logicalSectorSize, h.rotationRate?, h.smartSupported, h.smartEnabled,
      h.checksumOk?, hrate, apply_ite (List.flatMap (Act.events Taskfile.name trace)), Act.events]

theorem writes_driveInfo (id : Identity) (s : Sections) (f : Taskfile → Except Fault Response) : ∀ n ∈ id.names,
    ((((driveInfo id s).behind 4).script f).flatMap Act.writes).reverse.find? (·.key = n.key) =
      some (.set n.key (.text n.value)) := by
  rcases hrate : id.rotationRate? with _ | (_ | _) <;> cases hpresets : s.ignorePresets <;>
    simp [Identity.names, driveInfo, hrate, hpresets, Act.writes, Report.Write.key, apply_ite (List.flatMap Act.writes)]

end Exam

end Ata

namespace Nvme

def Controller.names (c : Controller) : List DeviceName := [
  { title := "Model Number:", width := 36, key := "model_name", value := c.model, start := 24, length := 40 },
  { title := "Serial Number:", width := 36, key := "serial_number", value := c.serial, start := 4, length := 20 },
  { title := "Firmware Version:", width := 36, key := "firmware_version", value := c.firmware, start := 64,
    length := 8 }]

structure Controller.Alike (c c' : Controller) : Prop where
  vendorId : c'.vendorId = c.vendorId
  ieeeOui : c'.ieeeOui = c.ieeeOui
  totalCapacity : c'.totalCapacity = c.totalCapacity
  controllerId : c'.controllerId = c.controllerId
  version : c'.version = c.version
  namespaces : c'.namespaces = c.namespaces

theorem Controller.Alike.versionText {c c' : Controller} (h : c.Alike c') : c'.versionText = c.versionText := by
  rw [Controller.versionText, Controller.versionText, h.version]

theorem Controller.newline_notMem_versionText (c : Controller) : '\n' ∉ c.versionText.toList := by
  rw [versionText]
  split
  · decide
  · split <;> simp [Text.newline_notMem_toDigits]

namespace Exam

theorem driveInfo_eq (c : Controller) : driveInfo c = introduce c.names ((driveInfo c).behind 4) := by
  have hmodel : "Model Number:                       " = Text.alignLeft 36 "Model Number:" := by decide
  have hserial : "Serial Number:                      " = Text.alignLeft 36 "Serial Number:" := by decide
  have hfirmware : "Firmware Version:                   " = Text.alignLeft 36 "Firmware Version:" := by decide
  rw [driveInfo, hmodel, hserial, hfirmware]
  rfl

theorem writing_behind_driveInfo (c : Controller) : ((driveInfo c).behind 4).always Act.Writing fun _ => True := by
  simp [driveInfo]

theorem aside_driveInfo (c : Controller) : ((driveInfo c).behind 4).always (Act.Aside Command.name) fun _ => True := by
  have hhex (width n : Nat) : '\n' ∉ (Text.hex width n).toList := Text.newline_notMem_of_word (Text.isWord_hex width n)
  have hvendor : IsAside nameTitles ("PCI Vendor/Subsystem ID:            0x" ++ Text.hex 4 c.vendorId ++ "\n") :=
    .around (hhex 4 _) (by decide)
  have hieee : IsAside nameTitles ("IEEE OUI Identifier:                0x" ++ Text.hex 6 c.ieeeOui ++ "\n") :=
    .around (hhex 6 _) (by decide)
  have hcapacity : IsAside nameTitles
      ("Total NVM Capacity:                 " ++ Text.capacity c.totalCapacity ++ "\n") :=
    .around (Text.newline_notMem_capacity _) (by decide)
  have hcontroller : IsAside nameTitles ("Controller ID:                      " ++ c.controllerId.repr ++ "\n") :=
    .around (Text.newline_notMem_toString _) (by decide)
  have hversion : IsAside nameTitles ("NVMe Version:                       " ++ c.versionText ++ "\n") :=
    .around c.newline_notMem_versionText (by decide)
  have hnamespaces : IsAside nameTitles ("Number of Namespaces:               " ++ c.namespaces.repr ++ "\n\n") :=
    .around (Text.newline_notMem_toString _) (by decide)
  simp [driveInfo, hvendor, hieee, hcapacity, hcontroller, hversion, hnamespaces]

theorem events_driveInfo {c c' : Controller} (h : c.Alike c') (f : Command → Except Fault (List UInt8))
    (trace : Bool) :
    (((driveInfo c').behind 4).script f).flatMap (Act.events Command.name trace) =
      (((driveInfo c).behind 4).script f).flatMap (Act.events Command.name trace) := by
  simp [driveInfo, h.vendorId, h.ieeeOui, h.totalCapacity, h.controllerId, h.versionText, h.namespaces,
    apply_ite (List.flatMap (Act.events Command.name trace)), Act.events]

theorem writes_driveInfo (c : Controller) (f : Command → Except Fault (List UInt8)) : ∀ n ∈ c.names,
    ((((driveInfo c).behind 4).script f).flatMap Act.writes).reverse.find? (·.key = n.key) =
      some (.set n.key (.text n.value)) := by
  by_cases hcapacity : 0 < c.totalCapacity <;>
    simp [Controller.names, driveInfo, hcapacity, Act.writes, Report.Write.key]

end Exam

end Nvme

namespace Scsi

def Inquiry.names (i : Inquiry) : List DeviceName := [
  { title := "Vendor:", width := 22, key := "scsi_vendor", value := i.vendor, start := 8, length := 8 },
  { title := "Product:", width := 22, key := "scsi_product", value := i.product, start := 16, length := 16 },
  { title := "Revision:", width := 22, key := "scsi_revision", value := i.revision, start := 32, length := 4 }]

theorem Inquiry.newline_notMem_typeName (i : Inquiry) : '\n' ∉ i.typeName.toList := by
  rw [typeName]
  split <;> decide

namespace Exam

variable {σ : Type}

theorem driveInfo_eq (i : Inquiry) : driveInfo i = introduce i.names ((driveInfo i).behind 4) := by
  have hvendor : "Vendor:               " = Text.alignLeft 22 "Vendor:" := by decide
  have hproduct : "Product:              " = Text.alignLeft 22 "Product:" := by decide
  have hrevision : "Revision:             " = Text.alignLeft 22 "Revision:" := by decide
  rw [driveInfo, introduction, hvendor, hproduct, hrevision]
  rfl

/-- The names are in the report before the capacity is asked for. -/
theorem acts_driveInfo (i : Inquiry) (ch : Channel Command (List UInt8) σ) (s : σ) (t : Tolerance) :
    (((driveInfo i).behind 4).course ch s t).acts =
      .wrote (.set "scsi_vendor" (.text i.vendor)) :: .wrote (.set "scsi_product" (.text i.product)) ::
        .wrote (.set "scsi_revision" (.text i.revision)) ::
          .wrote (.set "model_name" (.text (Text.trim s!"{i.vendor} {i.product}"))) ::
            (((driveInfo i).behind 8).course ch s t).acts := rfl

theorem behind_driveInfo (i : Inquiry) : (driveInfo i).behind 8 = capacity >>= fun _ => deviceType i := rfl

theorem deviceType_eq {i i' : Inquiry} (h : i'.peripheralType = i.peripheralType) : deviceType i' = deviceType i := by
  have htype : i'.typeName = i.typeName := by rw [Inquiry.typeName, Inquiry.typeName, h]
  rw [deviceType, deviceType, h, htype]

/-- Reading the capacity says nothing that looks like a name, unless the message of a failure does. -/
theorem aside_capacity {ch : Channel Command (List UInt8) σ} {s : σ} {t : Tolerance}
    (hmessage : ∀ e, (ch.send .readCapacity s).1.bind Capacity.decode = .error e → '\n' ∉ e.message.toList) :
    ∀ a ∈ (capacity.course ch s t).acts, a.Aside Command.name := by
  have htrace (success : Bool) : IsAside nameTitles (traceLine Command.readCapacity.name success) := by
    cases success <;> decide
  rw [capacity, course_read_bind, Course.acts_after]
  refine List.forall_mem_cons.2 ⟨htrace _, ?_⟩
  cases hreply : (ch.send .readCapacity s).1.bind Capacity.decode with
  | ok c =>
    have hcapacity : IsAside nameTitles ("User Capacity:        " ++ Text.capacity c.bytes ++ "\n") :=
      .around (Text.newline_notMem_capacity _) (by decide)
    have hblock : IsAside nameTitles ("Logical block size:   " ++ c.blockLength.repr ++ " bytes\n") :=
      .around (Text.newline_notMem_toString _) (by decide)
    refine (always.course (P := Act.Aside Command.name) (Q := fun _ => True) ?_ ch _ t).1
    simp [hcapacity, hblock]
  | error e =>
    have hfailed : IsAside nameTitles ("Read Capacity failed: " ++ e.message ++ "\n") :=
      .around (hmessage e hreply) (by decide)
    have hrefused : IsAside nameTitles FailureClass.optional.refusal := by decide
    refine (always.course (P := Act.Aside Command.name) (Q := fun _ => True) ?_ ch _ t).1
    simpa [Act.Aside] using ⟨hfailed, hrefused⟩

theorem aside_driveInfo (i : Inquiry) {ch : Channel Command (List UInt8) σ} {s : σ} (t : Tolerance)
    (hmessage : ∀ e, (ch.send .readCapacity s).1.bind Capacity.decode = .error e → '\n' ∉ e.message.toList) :
    ∀ a ∈ (((driveInfo i).behind 8).course ch s t).acts, a.Aside Command.name := by
  have htype : IsAside nameTitles ("Device type:          " ++ i.typeName ++ "\n\n") :=
    .around i.newline_notMem_typeName (by decide)
  have hlast (s : σ) (u : Tolerance) : ∀ a ∈ ((deviceType i).course ch s u).acts, a.Aside Command.name := by
    refine (always.course (P := Act.Aside Command.name) (Q := fun _ => True) ?_ ch s u).1
    simp [deviceType, htype]
  have hcapacity := aside_capacity (t := t) hmessage
  have hbind := course_bind ch capacity (fun _ => deviceType i) s t
  rw [behind_driveInfo]
  generalize (capacity >>= fun _ => deviceType i).course ch s t = k at hbind
  -- a failure that is not forgiven ends the section here
  cases hbind with
  | refused _ => exact hcapacity
  | further _ u => exact List.forall_mem_append.2 ⟨hcapacity, hlast _ u⟩

theorem spares_driveInfo (i : Inquiry) : ((driveInfo i).behind 8).always
    (Act.Spares ["scsi_vendor", "scsi_product", "scsi_revision"]) fun _ => True := by
  have hread {Q : Except Fault Capacity → Prop} (hQ : ∀ x, Q x) :
      (read .readCapacity Capacity.decode).always (Act.Spares ["scsi_vendor", "scsi_product", "scsi_revision"]) Q :=
    fun reply => ⟨by simp, hQ _⟩
  rw [behind_driveInfo, capacity, always_bind, always_bind]
  refine hread fun x => ?_
  cases x <;> simp [deviceType]

theorem writes_driveInfo (i : Inquiry) (ch : Channel Command (List UInt8) σ) (s : σ) (t : Tolerance) : ∀ n ∈ i.names,
    ((((driveInfo i).behind 4).course ch s t).acts.flatMap Act.writes).reverse.find? (·.key = n.key) =
      some (.set n.key (.text n.value)) := by
  intro n hn
  have hkeys : ∀ n ∈ i.names, n.key ∈ ["scsi_vendor", "scsi_product", "scsi_revision"] := by simp [Inquiry.names]
  let later := (((driveInfo i).behind 8).course ch s t).acts.flatMap Act.writes
  have hlater : later.reverse.find? (·.key = n.key) = none :=
    find?_writes_spared ((spares_driveInfo i).course ch s t).1 (hkeys n hn)
  have hwrites : (((driveInfo i).behind 4).course ch s t).acts.flatMap Act.writes =
      [.set "scsi_vendor" (.text i.vendor), .set "scsi_product" (.text i.product),
        .set "scsi_revision" (.text i.revision), .set "model_name" (.text (Text.trim s!"{i.vendor} {i.product}"))] ++
        later := rfl
  rw [hwrites, List.reverse_append, List.find?_append, hlater, Option.none_or]
  clear hlater
  revert n
  simp [Inquiry.names, Report.Write.key]

end Exam

end Scsi

section

variable {σ : Type} (trace : Bool) (state : σ) {r : Recorder} (shown : r.transcript.suppressed = false)

include shown

theorem Ata.Exam.introduced_driveInfo (ch : Channel Taskfile Response σ) (id : Identity) (s : Sections) :
    ∃ asides : List Event, (∀ e ∈ asides, IsAside nameTitles e.text) ∧ ∀ id', id.Alike id' →
      Introduced id'.names asides r (Procedure.run ch Taskfile.name trace (driveInfo id' s) state r).recorder := by
  let f : Taskfile → Except Fault Response := fun _ => .error (.io "")
  refine ⟨_, aside_events ((aside_driveInfo id s).script f) trace, fun id' h => ?_⟩
  rw [← events_driveInfo h s f trace]
  exact introduced_writing (driveInfo_eq id' s) (writing_behind_driveInfo id' s) (writes_driveInfo id' s f) ch Taskfile.name
    trace state shown

theorem Nvme.Exam.introduced_driveInfo (ch : Channel Command (List UInt8) σ) (c : Controller) :
    ∃ asides : List Event, (∀ e ∈ asides, IsAside nameTitles e.text) ∧ ∀ c', c.Alike c' →
      Introduced c'.names asides r (Procedure.run ch Command.name trace (driveInfo c') state r).recorder := by
  let f : Command → Except Fault (List UInt8) := fun _ => .error (.io "")
  refine ⟨_, aside_events ((aside_driveInfo c).script f) trace, fun c' h => ?_⟩
  rw [← events_driveInfo h f trace]
  exact introduced_writing (driveInfo_eq c') (writing_behind_driveInfo c') (writes_driveInfo c' f) ch Command.name trace state
    shown

/-- The message of a failure comes from elsewhere, and may have line feeds. -/
theorem Scsi.Exam.introduced_driveInfo (ch : Channel Command (List UInt8) σ) (i : Inquiry) :
    ∃ asides : List Event,
      ((∀ e, (ch.send .readCapacity state).1.bind Capacity.decode = .error e → '\n' ∉ e.message.toList) →
        ∀ e ∈ asides, IsAside nameTitles e.text) ∧ ∀ i' : Inquiry, i'.peripheralType = i.peripheralType →
      Introduced i'.names asides r (Procedure.run ch Command.name trace (driveInfo i') state r).recorder := by
  refine ⟨_, fun hmessage => aside_events (aside_driveInfo i r.tolerance hmessage) trace, fun i' h => ?_⟩
  have hrest : (driveInfo i').behind 8 = (driveInfo i).behind 8 := by
    rw [behind_driveInfo, behind_driveInfo, deviceType_eq h]
  have hintroduced := introduced_run (driveInfo_eq i') ch Command.name trace state shown
    (writes_driveInfo i' ch state r.tolerance)
  rw [acts_driveInfo, hrest] at hintroduced
  exact hintroduced

end

end DriveHealth
