import DriveHealth.Proofs.Course
import DriveHealth.Proofs.Workings
set_option autoImplicit false

/-!
Examinations in checked arithmetic. Whatever the replies of a drive hold and however long they are, no
section can make one trap: the checked run of an examination is its run.
-/

namespace DriveHealth

/-- Reads a reply in some format and works out what sections show of it. -/
def Format.examine (f : Format) (reply : Except Fault (List UInt8)) : Checked (Except Fault f.Result) := do
  match reply with
  | .error e => return .error e
  | .ok bs =>
    match ← f.parse bs with
    | .error e => return .error e
    | .ok a =>
      let _ ← f.work a
      return .ok a

theorem Format.examine_eq (f : Format) (reply : Except Fault (List UInt8)) :
    f.examine reply = .ok (reply.bind f.decode) := by
  cases reply with
  | error e => rfl
  | ok bs =>
    have hbind : (Except.ok bs : Except Fault (List UInt8)).bind f.decode = f.decode bs := rfl
    rw [hbind, examine, f.parse_eq, Checked.ok_bind]
    cases h : f.decode bs with
    | error e => rfl
    | ok a =>
      have hwork : f.work a = .ok (f.figures a) := work_eq (bounded_of_decode h)
      simp only [hwork, Checked.ok_bind]
      rfl

/-- The computations that go with a command: those that put it together, and those that take its reply
apart. -/
structure Workings (Cmd Reply : Type) where
  sent : Cmd → Checked Unit
  answered : Cmd → Except Fault Reply → Checked Unit

/-- No command and no reply makes a computation trap. -/
structure Workings.Safe {Cmd Reply : Type} (w : Workings Cmd Reply) : Prop where
  sent (c : Cmd) : w.sent c = .ok ()
  answered (c : Cmd) (reply : Except Fault Reply) : w.answered c reply = .ok ()

namespace Ata

def overwrite (bs : List UInt8) (start stop : Nat) (octets : List UInt8) : Checked (List UInt8) :=
  if start ≤ stop ∧ stop ≤ bs.length ∧ octets.length = stop - start then
    .ok (bs.take start ++ octets ++ bs.drop stop)
  else .error .outOfBounds

def sctRequest (feature : Nat) : Checked (List UInt8) := do
  let sector := List.replicate sectorSize 0
  let sector ← overwrite sector 0 2 (littleOctets 2 4)
  let sector ← overwrite sector 2 4 (littleOctets 2 2)
  overwrite sector 4 6 (littleOctets 2 feature)

theorem overwrite_append {before old new rest : List UInt8} (h : new.length = old.length) :
    overwrite (before ++ (old ++ rest)) before.length (before.length + old.length) new =
      .ok (before ++ (new ++ rest)) := by
  have hrest : (before ++ (old ++ rest)).drop (before.length + old.length) = rest := by
    rw [← List.append_assoc, ← List.length_append, List.drop_left]
  have hfit : before.length + old.length ≤ (before ++ (old ++ rest)).length := by
    simp only [List.length_append]
    omega
  rw [overwrite, if_pos ⟨by omega, hfit, by omega⟩, List.take_left, hrest, List.append_assoc]

theorem sctRequest_eq (feature : Nat) : sctRequest feature = .ok (sctStateRequest feature) := by
  let zeros (n : Nat) : List UInt8 := List.replicate n 0
  have hsector : List.replicate sectorSize 0 = [] ++ (zeros 2 ++ (zeros 2 ++ (zeros 2 ++ zeros 506))) := by
    simp only [zeros, List.nil_append, List.replicate_append_replicate]
    rfl
  have hpad : sctStateRequest feature =
      (littleOctets 2 4 ++ littleOctets 2 2) ++ (littleOctets 2 feature ++ zeros 506) := by
    simp only [sctStateRequest, List.rightpad, List.length_append, length_littleOctets, List.append_assoc]
    rfl
  have haction : overwrite ([] ++ (zeros 2 ++ (zeros 2 ++ (zeros 2 ++ zeros 506)))) 0 2 (littleOctets 2 4) =
      .ok ([] ++ (littleOctets 2 4 ++ (zeros 2 ++ (zeros 2 ++ zeros 506)))) := overwrite_append rfl
  have hfunction : overwrite (littleOctets 2 4 ++ (zeros 2 ++ (zeros 2 ++ zeros 506))) 2 4 (littleOctets 2 2) =
      .ok (littleOctets 2 4 ++ (littleOctets 2 2 ++ (zeros 2 ++ zeros 506))) := overwrite_append rfl
  have hfeature : overwrite ((littleOctets 2 4 ++ littleOctets 2 2) ++ (zeros 2 ++ zeros 506)) 4 6
      (littleOctets 2 feature) =
      .ok ((littleOctets 2 4 ++ littleOctets 2 2) ++ (littleOctets 2 feature ++ zeros 506)) :=
    overwrite_append rfl
  rw [sctRequest, hsector, haction, Checked.ok_bind, List.nil_append, hfunction, Checked.ok_bind,
    ← List.append_assoc, hfeature, hpad]

def formats : List (Taskfile × Format) := [
  (.identifyDevice, .identity),
  (.smartReadData, .smartData),
  (.smartReadThresholds, .thresholds),
  (.readLogExt 0x00 0, .directory),
  (.smartReadLog 0x00, .directory),
  (.smartReadLog 0x01, .summaryErrors),
  (.readLogExt 0x03 0, .extErrors),
  (.smartReadLog 0x06, .selfTests),
  (.readLogExt 0x07 0, .extSelfTests),
  (.smartReadLog 0x09, .selectiveLog),
  (.smartReadLog 0xe0, .sctStatus),
  (.readLogExt 0x04 0, .statistics),
  (.readLogExt 0x0c 0, .pendingDefects),
  (.readLogExt 0x11 0, .phyCounters)]

/-- Of the data in a reply, the first sector counts. -/
def workings : Workings Taskfile Response where
  sent t := do
    let _ ← ([1, 2].filter fun feature => t = .smartWriteLog 0xe0 (sctStateRequest feature)).mapM sctRequest
  answered t reply := do
    match formats.lookup t with
    | none => return
    | some f =>
      let _ ← f.examine (reply.bind Response.sector)

theorem safe_workings : workings.Safe where
  sent t := by
    have hall (features : List Nat) : features.mapM sctRequest = .ok (features.map sctStateRequest) :=
      Checked.mapM_ok fun feature _ => sctRequest_eq feature
    simp only [workings, hall, Checked.ok_bind]
    rfl
  answered t reply := by
    simp only [workings]
    cases formats.lookup t with
    | none => rfl
    | some f => simp [f.examine_eq]

end Ata

namespace Scsi

def CommandBlock.format : CommandBlock → Format
  | .inquiry _ => .inquiry
  | .readCapacity => .capacity
  | .logSense _ _ => .exceptions
  | .modeSense _ _ => .caching

def workings : Workings Command (List UInt8) where
  sent _ := return
  answered c reply := do
    let _ ← c.block.format.examine reply

theorem safe_workings : workings.Safe where
  sent _ := rfl
  answered c reply := by simp [workings, c.block.format.examine_eq]

end Scsi

namespace Nvme

def pageFormat? (page : Nat) : Option Format :=
  if page = 0x01 then some .errorLog
  else if page = 0x02 then some .health
  else if page = 0x06 then some .nvmeSelfTests
  else none

/-- The length is cut to 32 bits, and the count of words is not taken below 0. -/
def Command.cdw10Work : Command → Checked Nat
  | .identifyController => return 1
  | .logPage page length => do return page ||| (← Checked.shl 32 (length % (1 <<< 32) / 4 - 1) 16)

theorem Command.cdw10Work_eq (c : Command) : c.cdw10Work = .ok c.cdw10 := by
  cases c with
  | identifyController => rfl
  | logPage page length =>
    rw [cdw10Work, Checked.shl_ok (by omega)]
    rfl

def errorLogLength (wanted available : Nat) : Checked Nat :=
  Checked.mul 64 (max 1 (min wanted available)) ErrorEntry.size

theorem errorLogLength_eq (wanted : Nat) {available : Nat} (h : available ≤ 256) :
    errorLogLength wanted available = .ok (max 1 (min wanted available) * ErrorEntry.size) := by
  have hcount : max 1 (min wanted available) ≤ 256 := by omega
  have hlength : max 1 (min wanted available) * ErrorEntry.size ≤ 256 * ErrorEntry.size :=
    Nat.mul_le_mul_right _ hcount
  exact Checked.mul_ok (Nat.lt_of_le_of_lt hlength (by decide))

/-- The controller tells how long its error log is; 16 entries stand in for an answer. -/
def identified (s : Sections) (reply : Except Fault (List UInt8)) : Checked Unit := do
  let available := match ← Format.controller.examine reply with
    | .ok c => Controller.errorLogEntries c
    | .error _ => 16
  let _ ← errorLogLength s.errorEntries available

theorem identified_eq (s : Sections) (reply : Except Fault (List UInt8)) : identified s reply = .ok () := by
  have hdefault : errorLogLength s.errorEntries 16 = .ok _ := errorLogLength_eq _ (by omega)
  rw [identified, Format.examine_eq, Checked.ok_bind]
  cases reply with
  | error e => simp only [Except.bind, hdefault, Checked.ok_bind]; rfl
  | ok bs =>
    cases h : Format.controller.decode bs with
    | error e => simp only [Except.bind, h, hdefault, Checked.ok_bind]; rfl
    | ok c =>
      obtain ⟨hentries, -⟩ : Format.controller.Bounded c := Format.bounded_of_decode h
      have htold : errorLogLength s.errorEntries (Controller.errorLogEntries c) = .ok _ :=
        errorLogLength_eq _ hentries
      simp only [Except.bind, h, htold, Checked.ok_bind]
      rfl

def workings (s : Sections) : Workings Command (List UInt8) where
  sent c := do
    let _ ← c.cdw10Work
  answered c reply := do
    match c with
    | .identifyController => identified s reply
    | .logPage page _ =>
      match pageFormat? page with
      | none => return
      | some f =>
        let _ ← f.examine reply

theorem safe_workings (s : Sections) : (workings s).Safe where
  sent c := by simp [workings, c.cdw10Work_eq]
  answered c reply := by
    cases c with
    | identifyController => exact identified_eq s reply
    | logPage page length =>
      simp only [workings]
      cases pageFormat? page with
      | none => rfl
      | some f => simp [f.examine_eq]

end Nvme

def Tolerance.spendChecked (t : Tolerance) : FailureClass → Checked (Option Tolerance)
  | .optional => return if t.conservative then none else some t
  | .mandatory => do
    if t.permissive = 0 then return none
    else return some { t with permissive := ← Checked.sub t.permissive 1 }

theorem Tolerance.spendChecked_eq (t : Tolerance) (c : FailureClass) :
    t.spendChecked c = .ok (t.spend c) := by
  cases c with
  | optional => rfl
  | mandatory =>
    by_cases h : t.permissive = 0
    · simp [spendChecked, spend, h]
    · have hsub : Checked.sub t.permissive 1 = .ok (t.permissive - 1) := Checked.sub_ok (by omega)
      simp [spendChecked, spend, h, hsub]

def Recorder.excuseChecked (c : FailureClass) (r : Recorder) : Checked (Bool × Recorder) := do
  match ← r.tolerance.spendChecked c with
  | some t => return (true, { r with tolerance := t })
  | none => return (false, r.emit .error c.refusal)

theorem Recorder.excuseChecked_eq (c : FailureClass) (r : Recorder) :
    r.excuseChecked c = .ok (r.excuse c) := by
  rw [excuseChecked, Tolerance.spendChecked_eq, Checked.ok_bind, excuse]
  cases r.tolerance.spend c <;> rfl

namespace Procedure

variable {Cmd Reply α σ : Type}

def runChecked (w : Workings Cmd Reply) (ch : Channel Cmd Reply σ) (name : Cmd → String) (trace : Bool) :
    Procedure Cmd Reply α → σ → Recorder → Checked (Outcome α σ)
  | .done a, s, r => return ⟨some a, s, r⟩
  | .say kind text next, s, r => runChecked w ch name trace next s (r.emit kind text)
  | .record write next, s, r => runChecked w ch name trace next s (r.write write)
  | .ask c accepts next, s, r => do
    w.sent c
    let reply := (ch.send c s).1
    w.answered c reply
    let r := if trace then r.emit .info (traceLine (name c) (succeeds accepts reply)) else r
    runChecked w ch name trace (next reply) (ch.send c s).2 r
  | .excuse c next, s, r => do
    let out ← r.excuseChecked c
    if out.1 then runChecked w ch name trace next s out.2 else return ⟨none, s, out.2⟩

theorem runChecked_eq {w : Workings Cmd Reply} (safe : w.Safe) (ch : Channel Cmd Reply σ)
    (name : Cmd → String) (trace : Bool) (p : Procedure Cmd Reply α) (s : σ) (r : Recorder) :
    p.runChecked w ch name trace s r = .ok (p.run ch name trace s r) := by
  induction p generalizing s r with
  | done a => rfl
  | say kind text next ih => exact ih s _
  | record write next ih => exact ih s _
  | ask c accepts next ih =>
    simp only [runChecked, safe.sent, safe.answered, Checked.ok_bind]
    exact ih _ _ _
  | excuse c next ih =>
    obtain ⟨go, r', hexcuse⟩ : ∃ go r', r.excuse c = (go, r') := ⟨_, _, rfl⟩
    simp only [runChecked, run, Recorder.excuseChecked_eq, hexcuse, Checked.ok_bind]
    cases go with
    | true => exact ih s r'
    | false => rfl

end Procedure

namespace Task

variable {σ : Type}

def workings : (t : Task) → Workings t.Command t.Answer
  | .ata _ => Ata.workings
  | .scsi _ => Scsi.workings
  | .nvme s => Nvme.workings s

theorem safe_workings (t : Task) : t.workings.Safe := by
  cases t with
  | ata s => exact Ata.safe_workings
  | scsi s => exact Scsi.safe_workings
  | nvme s => exact Nvme.safe_workings s

def runChecked (link : Link σ) (state : σ) (r : Recorder) (t : Task) :
    Checked (Procedure.Outcome Unit σ) :=
  t.procedure.runChecked t.workings (t.channel link) t.commandName (t.traced r.debug) state r

theorem runChecked_eq (link : Link σ) (state : σ) (r : Recorder) (t : Task) :
    t.runChecked link state r = .ok (t.run link state r) := by
  rw [runChecked, Procedure.runChecked_eq t.safe_workings]
  cases t <;> rfl

end Task

/-- No reply and no sense data can crash an examination. Whatever octets come, reading them in checked
arithmetic gives what decoding them gives. Data that is too short is refused, or holds nothing if its format
has no fixed length. What sections show of decoded data is worked out without a trap. And an examination
runs in checked arithmetic just as it does without, whatever its sections, the tolerance and the replies. -/
theorem examinations_never_trap :
    (∀ (f : Format) (bs : List UInt8), f.parse bs = .ok (f.decode bs)) ∧
    (∀ (f : Format) (bs : List UInt8), bs.length < f.need bs → f.Lacking (f.decode bs)) ∧
    (∀ r : Ata.Response, r.data.length < Ata.sectorSize → ∃ defect, r.sector = .error (.malformed defect)) ∧
    (∀ (f : Format) (bs : List UInt8) (a : f.Result), f.decode bs = .ok a → f.work a = .ok (f.figures a)) ∧
    ∀ {σ : Type} (link : Link σ) (state : σ) (r : Recorder) (t : Task),
      t.runChecked link state r = .ok (t.run link state r) :=
  ⟨Format.parse_eq, Format.lacking_of_short, fun r h => ⟨.shortSector r.data.length, if_pos h⟩,
    fun _ _ _ h => Format.work_eq (Format.bounded_of_decode h), Task.runChecked_eq⟩

def Ata.Sections.most : Ata.Sections where
  driveInfo := true
  wordLevel := 2
  bitLevel := 2
  status := true
  generalValues := true
  attributes := true
  errorLog := true
  selfTestLog := true
  selectiveLog := true
  extErrorLog := 0xffffffff
  extSelfTestLog := 0xffffffff
  smartDirectory := true
  gpDirectory := true
  sctTemperatures := true
  statistics := true
  pendingDefects := 0xffffffff
  phyCounters := true

/-- A drive that answers every command with ones. -/
def Link.ones : Link Unit where
  ata := ⟨fun _ u => (.ok ⟨List.replicate 512 0xff, 0xff, 0xff, 0xff⟩, u)⟩
  scsi := ⟨fun _ u => (.ok (List.replicate 252 0xff), u)⟩
  nvme := ⟨fun _ u => (.ok (List.replicate 4096 0xff), u)⟩

/-- Data that breaks off, and data of ones: a descriptor and a header that point behind the end, a ring whose
newest slot is not there, and the largest numbers there are. -/
theorem examinations_never_trap_on_hostile_data :
    Format.identity.Lacking (Format.identity.decode []) ∧
    (∃ defect, Ata.Response.sector {} = .error (.malformed defect)) ∧
    Format.registers.parse [0x72, 0, 0, 0, 0, 0, 0, 0xff, 9, 0xff, 0, 0] = .ok (.ok none) ∧
    Format.caching.parse (List.replicate 252 0xff) = .ok (.error (.malformed .noCachingPage)) ∧
    Format.selfTests.parse (List.replicate 512 0xff) = .ok (.ok ⟨0xffff, []⟩) ∧
    Format.capacity.work (⟨1 <<< 32, 0xffffffff⟩ : Scsi.Capacity) =
      .ok [.text "18,446,744,069,414,584,320 bytes [18.4 EB]", .nat 18446744069414584320] ∧
    ∃ out, (Task.ata .most).runChecked .ones () (.start ⟨8, false⟩ {}) = .ok out ∧ out.result = some () := by
  obtain ⟨hparse, hshort, hsector, hwork, hrun⟩ := examinations_never_trap
  have hpast : Scsi.AtaRegisters.inDescriptors [9, 0xff, 0, 0] = none := by
    simp [Scsi.AtaRegisters.inDescriptors]
  have hcaching : Scsi.Caching.decode (List.replicate 252 0xff) = .error (.malformed .noCachingPage) := by
    decide +kernel
  have hring : Ata.SelfTestLog.decode (List.replicate 512 0xff) = .ok ⟨0xffff, []⟩ := by decide +kernel
  have hsize : Text.capacity (⟨1 <<< 32, 0xffffffff⟩ : Scsi.Capacity).bytes =
      "18,446,744,069,414,584,320 bytes [18.4 EB]" := by decide +kernel
  refine ⟨hshort .identity [] (by decide), hsector {} (by decide), ?_, ?_, ?_, ?_, ?_⟩
  · exact (hparse .registers _).trans (congrArg (fun r => Except.ok (Except.ok r)) hpast)
  · exact (hparse .caching _).trans (congrArg Except.ok hcaching)
  · exact (hparse .selfTests _).trans (congrArg Except.ok hring)
  · refine (hwork .capacity (List.replicate 8 0xff) (⟨1 <<< 32, 0xffffffff⟩ : Scsi.Capacity) rfl).trans ?_
    exact congrArg (fun size => Except.ok [Datum.text size, Datum.nat 18446744069414584320]) hsize
  · exact ⟨_, hrun _ _ _ _, by decide +kernel⟩

end DriveHealth
