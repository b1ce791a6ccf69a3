import DriveHealth.Proofs.Routine
import DriveHealth.Proofs.Showing
set_option autoImplicit false

namespace DriveHealth

open Port

variable {α β σ : Type}

namespace Scsi.Printer

open Exam (showCapacity introduction deviceType showCaches showExceptions)

def port (ch : Channel Command (List UInt8) σ) : Port Command (List UInt8) σ := ⟨ch, Command.name, (·.scsi)⟩

variable (ch : Channel Command (List UInt8) σ)

def read (c : Command) (decode : List UInt8 → Except Fault α) : Routine σ (Except Fault α) := do
  return (← (port ch).issue c).bind decode

def capacity : Routine σ Bool := do
  match ← read ch .readCapacity Capacity.decode with
  | .ok c =>
    Routine.present (showCapacity c)
    return true
  | .error e => Routine.failed .optional s!"Read Capacity failed: {e.message}\n"

def driveInfo (i : Inquiry) : Routine σ Bool := do
  Routine.present (introduction i)
  Routine.heed (capacity ch) false do
    Routine.present (deviceType i)
    return true

def caches (s : Sections) : Routine σ Bool := do
  match ← read ch .caching Caching.decode with
  | .error e => Routine.failed .optional s!"Read caching mode page failed: {e.message}\n"
  | .ok page =>
    Routine.present (showCaches s page)
    return true

def health (requests : Nat) : Routine σ Bool := do
  match ← read ch .exceptions Exceptions.decode with
  | .error e => Routine.failed .mandatory s!"Read Informational Exceptions log page failed: {e.message}\n"
  | .ok x =>
    Routine.present (showExceptions requests x)
    return true

def behind (s : Sections) : Routine σ Unit :=
  Routine.heedIf (s.readCache || s.writeCache) (caches ch s) () <|
  Routine.heedIf s.status (health ch s.healthRequests) () <|
  Routine.present (((Exam.unavailable s).filter (·.1)).forM fun u => Procedure.unsupported u.2 : Exam Unit)

def all (s : Sections) : Routine σ Unit := do
  match ← read ch .inquiry Inquiry.decode with
  | .ok i => Routine.heedIf s.driveInfo (driveInfo ch i) () (behind ch s)
  | .error e =>
    Routine.heed (Routine.failed .mandatory s!"Standard Inquiry (36 bytes) failed: {e.message}\n") ()
      (behind ch s)

variable {ch}

theorem does_read {c : Command} {decode : List UInt8 → Except Fault α} {γ : Type} {answer : Option γ → β}
    {m : Except Fault α → Routine σ β} {f : Except Fault α → Exam γ} (h : ∀ x, (port ch).Does (m x) (f x) answer) :
    (port ch).Does (read ch c decode >>= m) (Exam.read c decode >>= f) answer := by
  rw [read, bind_assoc]
  simp only [pure_bind]
  exact Does.issue fun reply => h (reply.bind decode)

theorem says_capacity : (port ch).Says (capacity ch) Exam.capacity := by
  refine does_read fun x => ?_
  cases x with
  | ok c => exact says_present (by simp)
  | error e => exact says_failed _ _

theorem says_driveInfo (i : Inquiry) : (port ch).Says (driveInfo ch i) (Exam.driveInfo i) := by
  refine Does.present (by simp) fun _ => ?_
  exact Does.heed says_capacity (says_present (by simp))

theorem says_caches (s : Sections) : (port ch).Says (caches ch s) (Exam.caches s) := by
  refine does_read fun x => ?_
  cases x with
  | ok page => exact says_present (by simp)
  | error e => exact says_failed _ _

theorem says_health (requests : Nat) : (port ch).Says (health ch requests) (Exam.health requests) := by
  refine does_read fun x => ?_
  cases x with
  | ok x => exact says_present (by cases h : x.temperature <;> simp [h])
  | error e => exact says_failed _ _

theorem ends_behind (s : Sections) : (port ch).Ends (behind ch s) (do
    if s.readCache || s.writeCache then Exam.caches s
    if s.status then Exam.health s.healthRequests
    ((Exam.unavailable s).filter (·.1)).forM fun u => Procedure.unsupported u.2) := by
  refine Ends.heedIf (says_caches s) ?_
  refine Ends.heedIf (says_health _) ?_
  exact ends_present (by simp [Procedure.unsupported])

theorem ends_all (s : Sections) : (port ch).Ends (all ch s) (Exam.all s) := by
  rw [Exam.all, Exam.inquiry?, bind_bind]
  refine does_read fun x => ?_
  cases x with
  | ok i => exact Ends.heedIf (says_driveInfo i) (ends_behind s)
  | error e => exact Does.heed (says_failed .mandatory _) (ends_behind s)

end Scsi.Printer

namespace Nvme.Printer

open Exam (showHealth showErrors showSelfTests)

def port (ch : Channel Command (List UInt8) σ) : Port Command (List UInt8) σ := ⟨ch, Command.name, (·.nvme)⟩

variable (ch : Channel Command (List UInt8) σ)

/-- The trace of a command tells whether the reply could be decoded. -/
def read (c : Command) (decode : List UInt8 → Except Fault α) : Routine σ (Except Fault α) := do
  let reply ← (port ch).command c
  (port ch).logged c.name (reply.bind decode)

def health (s : Sections) : Routine σ Bool := do
  match ← read ch (.logPage 0x02 512) Health.decode with
  | .error e =>
    Routine.failed (if s.status then .mandatory else .optional)
      s!"Read NVMe SMART/Health Information failed: {e.message}\n"
  | .ok h =>
    Routine.present (showHealth s h)
    return true

def errorLog (wanted : Nat) (c : Option Controller) : Routine σ Bool := do
  let available := (c.map (·.errorLogEntries)).getD 16
  let count := max 1 (min wanted available)
  match ← (port ch).issue (.logPage 0x01 (count * ErrorEntry.size)) with
  | .error e => Routine.failed .optional s!"Read NVMe Error Information Log failed: {e.message}\n"
  | .ok bs =>
    Routine.present (showErrors count available (ErrorEntry.decodeAll bs))
    return true

def selfTestLog (c : Option Controller) : Routine σ Bool := do
  if (c.map (·.hasSelfTest)) = some false then
    Routine.say .info "Self-tests not supported\n\n"
    return true
  else
    match ← read ch (.logPage 0x06 564) SelfTestLog.decode with
    | .error e => Routine.failed .optional s!"Read Self-test Log failed: {e.message}\n"
    | .ok log =>
      Routine.present (showSelfTests log)
      return true

def logs (s : Sections) (c : Option Controller) : Routine σ Unit :=
  Routine.heedIf (s.status || s.health) (health ch s) () <|
  Routine.heedIf (s.errorEntries > 0) (errorLog ch s.errorEntries c) () do
    if s.selfTestLog then
      let _ ← selfTestLog ch c

def all (s : Sections) : Routine σ Unit := do
  if s.wantsIdentity then
    match ← read ch .identifyController Controller.decode with
    | .ok c =>
      Routine.present (Exam.identitySections s c)
      logs ch s (some c)
    | .error e =>
      Routine.heed (Routine.failed .mandatory s!"Read NVMe Identify Controller failed: {e.message}\n") ()
        (logs ch s none)
  else logs ch s none

variable {ch}

theorem does_read {γ : Type} {c : Command} {decode : List UInt8 → Except Fault α} {answer : Option γ → β}
    {m : Except Fault α → Routine σ β} {f : Except Fault α → Exam γ} (h : ∀ x, (port ch).Does (m x) (f x) answer) :
    (port ch).Does (read ch c decode >>= m) (Exam.read c decode >>= f) answer := by
  have hread : read ch c decode >>= m = (port ch).command c >>= fun reply =>
      (port ch).trace c.name (Procedure.succeeds (fun bs => (decode bs).isOk) reply) >>= fun _ =>
        m (reply.bind decode) := by
    simp only [read, logged, bind_assoc, pure_bind]
    refine bind_congr fun reply => ?_
    cases reply <;> rfl
  rw [hread]
  exact Does.ask fun reply => h (reply.bind decode)

theorem says_health (s : Sections) : (port ch).Says (health ch s) (Exam.health s) := by
  refine does_read fun x => ?_
  cases x with
  | ok h => exact says_present (by simp)
  | error e => exact says_failed _ _

theorem says_errorLog (wanted : Nat) (c : Option Controller) :
    (port ch).Says (errorLog ch wanted c) (Exam.errorLog wanted c) := by
  refine Does.issue fun reply => ?_
  cases reply with
  | ok bs => exact says_present (Exam.writing_showErrors _ _ _)
  | error e => exact says_failed _ _

theorem says_selfTestLog (c : Option Controller) : (port ch).Says (selfTestLog ch c) (Exam.selfTestLog c) := by
  rw [selfTestLog, Exam.selfTestLog]
  by_cases h : (c.map (·.hasSelfTest)) = some false
  · rw [if_pos h, if_pos h]
    exact Does.say rfl
  · rw [if_neg h, if_neg h]
    refine does_read fun x => ?_
    cases x with
    | ok log => exact says_present (by simp)
    | error e => exact says_failed _ _

theorem ends_logs (s : Sections) (c : Option Controller) : (port ch).Ends (logs ch s c) (do
    if s.status || s.health then Exam.health s
    if s.errorEntries > 0 then Exam.errorLog s.errorEntries c
    if s.selfTestLog then Exam.selfTestLog c) := by
  refine Ends.heedIf (says_health s) ?_
  refine Ends.heedIf (says_errorLog _ c) ?_
  cases s.selfTestLog with
  | true => exact Does.ends (says_selfTestLog c)
  | false => rfl

theorem ends_all (s : Sections) : (port ch).Ends (all ch s) (Exam.all s) := by
  rw [all, Exam.all]
  cases s.wantsIdentity with
  | false => exact ends_logs s none
  | true =>
    rw [if_pos rfl, if_pos rfl, Exam.controller?, bind_bind]
    refine does_read fun x => ?_
    cases x with
    | ok c => exact Does.present (by simp [Exam.identitySections]) fun _ => ends_logs s (some c)
    | error e => exact Does.heed (says_failed .mandatory _) (ends_logs s none)

end Nvme.Printer

namespace Ata.Printer

open Exam

def port (ch : Channel Taskfile Response σ) : Port Taskfile Response σ := ⟨ch, Taskfile.name, (·.ata)⟩

variable (ch : Channel Taskfile Response σ)

def read (t : Taskfile) (decode : List UInt8 → Except Fault α) : Routine σ (Except Fault α) := do
  let reply ← (port ch).issue t
  return (reply.bind Response.sector).bind decode

def unread (what : String) (e : Fault) : Routine σ Bool :=
  Routine.failed .optional s!"Read {what} failed: {e.message}\n\n"

def showOr (what : String) (t : Taskfile) (decode : List UInt8 → Except Fault α) (shown : α → Exam Unit) :
    Routine σ Bool := do
  match ← read ch t decode with
  | .ok a =>
    Routine.present (shown a)
    return true
  | .error e => unread what e

/-- A setting that has to be asked of the drive. -/
def askedSetting (id : Identity) (feature : Nat) (what unavailable : String) (shown : Nat → Exam Unit) :
    Routine σ Bool := do
  if !id.sctFeatureControl then
    Routine.say .plain unavailable
    return true
  else
    match ← (port ch).issue (.smartWriteLog 0xe0 (sctStateRequest feature)) with
    | .ok r =>
      Routine.present (shown r.sectorCount.toNat)
      return true
    | .error e => unread what e

def settings (id : Identity) (s : Sections) : Routine σ Bool := do
  Routine.present (toldSettings id s)
  Routine.heedIf s.sctReorder (askedSetting ch id 2 "SCT Feature Control (write cache reorder)"
    "Wt Cache Reorder: Unavailable\n" showReorder) false <|
  Routine.heedIf s.sctWriteCache (askedSetting ch id 1 "SCT Feature Control (write cache)"
    "SCT Write Cache Control: Unavailable\n" showCacheControl) false do
  Routine.say .plain "\n"
  return true

def health : Routine σ Bool := do
  match ← (port ch).issue .smartReturnStatus with
  | .error e => Routine.failed .mandatory s!"SMART Status command failed: {e.message}\n"
  | .ok r =>
    match r.smartPassed? with
    | none =>
      Routine.failed .mandatory
        "SMART Status not supported: Incomplete response, ATA output registers missing\n"
    | some passed =>
      Routine.present (showVerdict passed)
      return true

def smartDataWith (s : Sections) (d : SmartData) (ts : List Threshold) : Routine σ Bool := do
  Routine.present (showSmartData s d ts)
  return true

def smartData (s : Sections) : Routine σ Bool := do
  match ← read ch .smartReadData SmartData.decode with
  | .error e => unread "SMART Data" e
  | .ok d =>
    if s.attributes then
      match ← read ch .smartReadThresholds Threshold.decodeAll with
      | .ok ts => smartDataWith s d ts
      | .error e => Routine.heed (unread "SMART Thresholds" e) false (smartDataWith s d [])
    else smartDataWith s d []

/-- Reads a directory, and goes on with what the report is to have of it. -/
def withDirectory (wanted : Bool) (name short key : String) (t : Taskfile) (rest : Fields → Routine σ Bool) :
    Routine σ Bool := do
  if wanted then
    match ← read ch t LogDirectory.decode with
    | .ok d => rest (← Routine.present (directory name short key d))
    | .error e => Routine.heed (unread s!"{short} Log Directory" e) false (rest [])
  else rest []

def logDirectories (s : Sections) : Routine σ Bool :=
  withDirectory ch s.gpDirectory "General Purpose" "GP" "gp" (.readLogExt 0x00 0) fun gp =>
  withDirectory ch s.smartDirectory "SMART" "SMART" "smart" (.smartReadLog 0x00) fun smart => do
    Routine.present (showDirectories (gp ++ smart))
    return true

/-- Reads an extended log, if that is asked for. The plain one is shown too if it is wanted, or has to stand in
for the other. -/
def withPlain (asked : Prop) [Decidable asked] (wanted retry : Bool) (what : String) (retrying : Fault → String)
    (t : Taskfile) (decode : List UInt8 → Except Fault α) (shown : α → Exam Unit) (plain : Routine σ Bool) :
    Routine σ Bool := do
  let further (standsIn : Bool) : Routine σ Bool := if wanted || standsIn then plain else pure true
  if asked then
    match ← read ch t decode with
    | .ok a =>
      Routine.present (shown a)
      further false
    | .error e =>
      if retry then
        Routine.say .info (retrying e)
        further true
      else Routine.heed (unread what e) false (further false)
  else further false

def errorLogs (s : Sections) : Routine σ Bool :=
  withPlain ch (s.extErrorLog > 0) s.errorLog s.retryErrorLog "SMART Extended Comprehensive Error Log"
    (fun e => s!"Read SMART Extended Comprehensive Error Log failed: {e.message}, retrying with SMART Error Log\n")
    (.readLogExt 0x03 0) ErrorCount.decodeExt (showExtErrors s.extErrorLog)
    (showOr ch "SMART Error Log" (.smartReadLog 0x01) ErrorCount.decodeSummary showSummaryErrors)

def selfTestLogs (s : Sections) : Routine σ Bool :=
  withPlain ch (s.extSelfTestLog > 0) s.selfTestLog s.retrySelfTestLog "SMART Extended Self-test Log"
    (fun e => s!"Read SMART Extended Self-test Log failed: {e.message}, retrying with SMART Self-test Log\n")
    (.readLogExt 0x07 0) SelfTestLog.decodeExt (showExtSelfTests s.extSelfTestLog)
    (showOr ch "SMART Self-test Log" (.smartReadLog 0x06) SelfTestLog.decode showSelfTests)

def selectiveLog : Routine σ Bool :=
  showOr ch "SMART Selective Self-test Log" (.smartReadLog 0x09) SelectiveLog.decode showSpans

def sctTemperatures : Routine σ Bool :=
  showOr ch "SCT Status" (.smartReadLog 0xe0) SctTemperatures.decode showTemperatures

def statistics : Routine σ Bool :=
  showOr ch "Device Statistics" (.readLogExt 0x04 0) decodeStatisticsPages showStatistics

def pendingDefects (limit : Nat) : Routine σ Bool :=
  showOr ch "Pending Defects log" (.readLogExt 0x0c 0) decodePendingDefects (showDefects limit)

def phyCounters : Routine σ Bool :=
  showOr ch "SATA Phy Event Counters" (.readLogExt 0x11 0) PhyCounter.decodeAll showPhyCounters

def identitySections (s : Sections) (id : Identity) : Routine σ Bool := do
  Routine.presentIf s.driveInfo (driveInfo id s)
  Routine.presentIf (0 ≤ s.wordLevel) (dump id s.wordLevel s.bitLevel)
  if s.wantsSettings then settings ch id s else return true

/-- The answer of the last section makes no difference. -/
def behind (s : Sections) : Routine σ Unit := do
  Routine.presentIf s.wantsSmart (Procedure.print "=== START OF READ SMART DATA SECTION ===\n" : Exam Unit)
  Routine.heedIf s.status (health ch) () <|
  Routine.heedIf (s.generalValues || s.attributes) (smartData ch s) () <|
  Routine.heedIf (s.gpDirectory || s.smartDirectory) (logDirectories ch s) () <|
  Routine.heedIf (s.errorLog || s.extErrorLog > 0) (errorLogs ch s) () <|
  Routine.heedIf (s.selfTestLog || s.extSelfTestLog > 0) (selfTestLogs ch s) () <|
  Routine.heedIf s.selectiveLog (selectiveLog ch) () <|
  Routine.heedIf s.sctTemperatures (sctTemperatures ch) () do
  Routine.presentIf s.sctHistory (Procedure.unsupported "SCT Temperature History" : Exam Unit)
  Routine.presentIf (s.sctErrorRecovery > 0) (Procedure.unsupported "SCT Error Recovery Control" : Exam Unit)
  Routine.heedIf s.statistics (statistics ch) () <|
  Routine.heedIf (s.pendingDefects > 0) (pendingDefects ch s.pendingDefects) () do
  if s.phyCounters then
    let _ ← phyCounters ch

def all (s : Sections) : Routine σ Unit := do
  match ← read ch .identifyDevice Identity.decode with
  | .ok id => Routine.heed (identitySections ch s id) () (behind ch s)
  | .error e =>
    Routine.heed (Routine.failed .mandatory s!"Read Device Identity failed: {e.message}\n\n") () (behind ch s)

variable {ch}

theorem does_read {γ : Type} {t : Taskfile} {decode : List UInt8 → Except Fault α} {answer : Option γ → β}
    {m : Except Fault α → Routine σ β} {f : Except Fault α → Exam γ} (h : ∀ x, (port ch).Does (m x) (f x) answer) :
    (port ch).Does (read ch t decode >>= m) (Exam.read t decode >>= f) answer := by
  rw [read, bind_assoc]
  simp only [pure_bind]
  refine Does.issue fun reply => ?_
  cases reply with
  | ok r => exact h (r.sector.bind decode)
  | error e => exact h (.error e)

theorem says_showOr {what : String} {t : Taskfile} {decode : List UInt8 → Except Fault α} {shown : α → Exam Unit}
    (h : ∀ a, (shown a).always Act.Writing fun _ => True) :
    (port ch).Says (showOr ch what t decode shown) (show? what t decode shown) := by
  refine does_read fun x => ?_
  cases x with
  | ok a => exact says_present (h a)
  | error e => exact says_failed _ _

theorem says_askedSetting (id : Identity) (feature : Nat) (what unavailable : String) {shown : Nat → Exam Unit}
    (h : ∀ state, (shown state).always Act.Writing fun _ => True) :
    (port ch).Says (askedSetting ch id feature what unavailable shown)
      (if !id.sctFeatureControl then Procedure.print unavailable
      else sctState feature >>= fun
        | .error e => Exam.unread what e
        | .ok state => shown state) := by
  rw [askedSetting]
  cases id.sctFeatureControl with
  | false => exact Does.say rfl
  | true =>
    refine Does.issue fun reply => ?_
    cases reply with
    | ok r => exact says_present (h _)
    | error e => exact says_failed _ _

theorem says_settings (id : Identity) (s : Sections) : (port ch).Says (settings ch id s) (Exam.settings id s) := by
  refine Does.present (writing_toldSettings id s) fun _ => ?_
  refine Says.heedIf (says_askedSetting id 2 _ _ fun _ => by simp) ?_
  refine Says.heedIf (says_askedSetting id 1 _ _ fun _ => by simp) ?_
  exact Does.say rfl

theorem says_health : (port ch).Says (health ch) Exam.health := by
  refine Does.issue fun reply => ?_
  cases reply with
  | error e => exact says_failed _ _
  | ok r =>
    simp only []
    cases r.smartPassed? with
    | none => exact says_failed _ _
    | some passed => exact says_present (by cases passed <;> simp)

theorem says_smartDataWith (s : Sections) (d : SmartData) (ts : List Threshold) :
    (port ch).Says (smartDataWith s d ts) (showSmartData s d ts) :=
  says_present (by simp)

theorem says_smartData (s : Sections) : (port ch).Says (smartData ch s) (Exam.smartData s) := by
  refine does_read fun x => ?_
  cases x with
  | error e => exact says_failed _ _
  | ok d =>
    simp only []
    cases s.attributes with
    | false => exact says_smartDataWith s d []
    | true =>
      rw [if_pos rfl, if_pos rfl, thresholds, bind_bind]
      refine does_read fun x => ?_
      cases x with
      | ok ts => exact says_smartDataWith s d ts
      | error e => exact Does.heed (says_failed _ _) (says_smartDataWith s d [])

theorem says_withDirectory (wanted : Bool) (name short key : String) (t : Taskfile) {rest : Fields → Routine σ Bool}
    {f : Fields → Exam Unit} (h : ∀ fields, (port ch).Says (rest fields) (f fields)) :
    (port ch).Says (withDirectory ch wanted name short key t rest) (directory? wanted name short key t >>= f) := by
  cases wanted with
  | false => exact h []
  | true =>
    rw [withDirectory, if_pos rfl, directory?, if_pos rfl, bind_bind]
    refine does_read fun x => ?_
    cases x with
    | ok d => exact Does.present (writing_directory name short key d) h
    | error e => exact Does.heed (says_failed _ _) (h [])

theorem says_logDirectories (s : Sections) : (port ch).Says (logDirectories ch s) (Exam.logDirectories s) :=
  says_withDirectory _ _ _ _ _ fun _ => says_withDirectory _ _ _ _ _ fun _ =>
    says_present (by simp)

theorem says_withPlain {asked : Prop} [Decidable asked] {wanted retry : Bool} {what : String}
    {retrying : Fault → String} {t : Taskfile} {decode : List UInt8 → Except Fault α} {shown : α → Exam Unit}
    {plain : Routine σ Bool} {q : Exam Unit} {f : Except Fault α → Exam Bool}
    (hok : ∀ a, f (.ok a) = shown a >>= fun _ => pure false)
    (herror : ∀ e, f (.error e) =
      if retry then Procedure.info (retrying e) >>= fun _ => pure true
      else Exam.unread what e >>= fun _ => pure false)
    (hshown : ∀ a, (shown a).always Act.Writing fun _ => True) (hplain : (port ch).Says plain q) :
    let standingIn (standsIn : Bool) : Exam Unit := if wanted || standsIn then q else pure ()
    (port ch).Says (withPlain ch asked wanted retry what retrying t decode shown plain)
      (if asked then (Exam.read t decode >>= f) >>= standingIn else pure false >>= standingIn) := by
  have hfurther (standsIn : Bool) : (port ch).Says (if wanted || standsIn then plain else pure true)
      (if wanted || standsIn then q else pure ()) := by
    cases wanted || standsIn with
    | true => exact hplain
    | false => rfl
  by_cases hasked : asked
  · simp only [withPlain, if_pos hasked, bind_bind]
    refine does_read fun x => ?_
    cases x with
    | ok a =>
      rw [hok, bind_bind]
      exact Does.present (hshown a) fun _ => hfurther false
    | error e =>
      rw [herror]
      cases retry with
      | true => exact Does.say (hfurther true)
      | false => exact Does.heed (says_failed _ _) (hfurther false)
  · simp only [withPlain, if_neg hasked]
    exact hfurther false

theorem says_errorLogs (s : Sections) : (port ch).Says (errorLogs ch s) (Exam.errorLogs s) := by
  refine says_withPlain (fun _ => rfl) (fun _ => rfl) (fun _ => ?_) (says_showOr fun _ => ?_) <;> simp

theorem says_selfTestLogs (s : Sections) : (port ch).Says (selfTestLogs ch s) (Exam.selfTestLogs s) := by
  refine says_withPlain (fun _ => rfl) (fun _ => rfl) (fun _ => ?_) (says_showOr fun _ => ?_) <;> simp

theorem says_identitySections (s : Sections) (id : Identity) :
    (port ch).Says (identitySections ch s id) (Exam.identitySections s id) := by
  refine Does.presentIf (writing_driveInfo id s) ?_
  refine Does.presentIf (writing_dump id _ _) ?_
  cases s.wantsSettings with
  | true => exact says_settings id s
  | false => rfl

theorem ends_behind (s : Sections) : (port ch).Ends (behind ch s) (smartSections s) := by
  rw [behind, smartSections]
  refine Does.presentIf (by simp) ?_
  refine Ends.heedIf says_health ?_
  refine Ends.heedIf (says_smartData s) ?_
  refine Ends.heedIf (says_logDirectories s) ?_
  refine Ends.heedIf (says_errorLogs s) ?_
  refine Ends.heedIf (says_selfTestLogs s) ?_
  refine Ends.heedIf (says_showOr fun _ => by simp) ?_
  refine Ends.heedIf (says_showOr fun _ => by simp) ?_
  refine Does.presentIf (by simp [Procedure.unsupported]) ?_
  refine Does.presentIf (by simp [Procedure.unsupported]) ?_
  refine Ends.heedIf (says_showOr fun _ => by simp) ?_
  refine Ends.heedIf (says_showOr fun _ => by simp) ?_
  cases s.phyCounters with
  | true => exact Does.ends (says_showOr fun _ => by simp)
  | false => rfl

theorem ends_all (s : Sections) : (port ch).Ends (all ch s) (Exam.all s) := by
  rw [Exam.all, Exam.identity?, bind_bind]
  refine does_read fun x => ?_
  cases x with
  | ok id => exact Does.heed (says_identitySections s id) (ends_behind s)
  | error e => exact Does.heed (says_failed .mandatory _) (ends_behind s)

end Ata.Printer

namespace Task

def printer (link : Link σ) : Task → Routine σ Unit
  | .ata s => Ata.Printer.all link.ata s
  | .scsi s => Scsi.Printer.all link.scsi s
  | .nvme s => Nvme.Printer.all link.nvme s

/-- Sections that heed the answers of what they call, and trace their own commands, do what the sections do that are
stopped and traced by `Procedure.run`. -/
theorem printer_eq_run (link : Link σ) (t : Task) (state : σ) (r : Recorder) :
    t.printer link (state, r) = ((), (t.run link state r).channel, (t.run link state r).recorder) := by
  cases t with
  | ata s => exact (Ata.Printer.ends_all s).apply state r
  | scsi s => exact (Scsi.Printer.ends_all s).apply state r
  | nvme s => exact (Nvme.Printer.ends_all s).apply state r

end Task

end DriveHealth
