import DriveHealth.Nvme.Command
import DriveHealth.Nvme.Controller
import DriveHealth.Nvme.Log
import DriveHealth.Procedure
import DriveHealth.Text.Size
set_option autoImplicit false

namespace DriveHealth.Nvme

structure Sections where
  driveInfo : Bool := false
  status : Bool := false
  capabilities : Bool := false
  /-- The whole health log, not only its verdict. -/
  health : Bool := false
  /-- How many entries of the error log to show at most. -/
  errorEntries : Nat := 0
  selfTestLog : Bool := false
  deriving DecidableEq, Repr

def Sections.wantsIdentity (s : Sections) : Bool :=
  s.driveInfo || s.capabilities || s.errorEntries > 0 || s.selfTestLog

abbrev Exam (α : Type) := Procedure Command (List UInt8) α

namespace Exam

open Procedure

variable {α : Type}

/-- Reads and decodes a reply; one that cannot be decoded counts as a failure when commands are
traced. -/
def read (c : Command) (decode : List UInt8 → Except Fault α) : Exam (Except Fault α) :=
  .ask c (fun bs => (decode bs).isOk) fun r => .done (r.bind decode)

def controller? : Exam (Option Controller) := do
  match ← read .identifyController Controller.decode with
  | .ok c => return some c
  | .error e =>
    fail .mandatory s!"Read NVMe Identify Controller failed: {e.message}\n"
    return none

def clamp (n : Nat) : Nat := min 0xffffffffffffffff n

def driveInfo (c : Controller) : Exam Unit := do
  print "=== START OF INFORMATION SECTION ===\n"
  print s!"Model Number:                       {c.model}\n"
  print s!"Serial Number:                      {c.serial}\n"
  print s!"Firmware Version:                   {c.firmware}\n"
  print s!"PCI Vendor/Subsystem ID:            0x{Text.hex 4 c.vendorId}\n"
  print s!"IEEE OUI Identifier:                0x{Text.hex 6 c.ieeeOui}\n"
  if c.totalCapacity > 0 then
    print s!"Total NVM Capacity:                 {Text.capacity c.totalCapacity}\n"
  print s!"Controller ID:                      {c.controllerId}\n"
  print s!"NVMe Version:                       {c.versionText}\n"
  print s!"Number of Namespaces:               {c.namespaces}\n\n"
  set "model_name" (.text c.model)
  set "serial_number" (.text c.serial)
  set "firmware_version" (.text c.firmware)
  set "nvme_pci_vendor"
    (.record [("id", .nat c.vendorId), ("subsystem_id", .nat c.subsystemVendorId)])
  set "nvme_ieee_oui_identifier" (.nat c.ieeeOui)
  if c.totalCapacity > 0 then
    set "nvme_total_capacity" (.nat (clamp c.totalCapacity))
  set "nvme_controller_id" (.nat c.controllerId)
  set "nvme_version" (.record [("string", .text c.versionText), ("value", .nat c.version)])
  set "nvme_number_of_namespaces" (.nat c.namespaces)

def adminCommandNames : List String :=
  ["Security", "Format", "Frmw_DL", "NS_Mngmt", "Self_Test", "Directvs", "MI_Snd/Rec",
    "Vrt_Mngmt", "Drbl_Bf_Cfg", "Get_LBA_Sts"]

def nvmCommandNames : List String :=
  ["Comp", "Wr_Unc", "DS_Mngmt", "Wr_Zero", "Sav/Sel_Feat", "Resv", "Timestmp", "Verify"]

def bitNames (n : Nat) (names : List String) : List String :=
  (names.zipIdx.filter fun name => n.testBit name.2).map (·.1)

def joined (names : List String) : String := if names.isEmpty then "-" else " ".intercalate names

def threshold (kelvin : Nat) : String :=
  if kelvin = 0 then "-" else s!"{(kelvin : Int) - 273} Celsius"

def capabilities (c : Controller) : Exam Unit := do
  print s!"Optional Admin Commands (0x{Text.hex 4 c.adminCommands}):  {joined (bitNames c.adminCommands adminCommandNames)}\n"
  print s!"Optional NVM Commands (0x{Text.hex 4 c.nvmCommands}):    {joined (bitNames c.nvmCommands nvmCommandNames)}\n"
  print (if c.writeCache then "Volatile Write Cache:               Present\n"
    else "Volatile Write Cache:               Not Present\n")
  print s!"Warning  Comp. Temp. Threshold:     {threshold c.warningKelvin}\n"
  print s!"Critical Comp. Temp. Threshold:     {threshold c.criticalKelvin}\n"
  print s!"Error Log Page Entries:             {c.errorLogEntries}\n"
  print s!"Supported Power States:             {c.powerStates}\n\n"
  set "nvme_capabilities" (.record [
    ("optional_admin_commands", .nat c.adminCommands),
    ("optional_nvm_commands", .nat c.nvmCommands),
    ("volatile_write_cache", .bool c.writeCache),
    ("warning_temperature_kelvin", .nat c.warningKelvin),
    ("critical_temperature_kelvin", .nat c.criticalKelvin),
    ("error_log_entries", .nat c.errorLogEntries),
    ("power_states", .nat c.powerStates)])

def warnings : List String := [
  "available spare has fallen below threshold",
  "temperature is above or below thresholds",
  "NVM subsystem reliability has been degraded",
  "media has been placed in read only mode",
  "volatile memory backup device has failed",
  "persistent memory region has become read-only or unreliable"]

def verdict (h : Health) : Exam Unit := do
  if h.passed then print "SMART overall-health self-assessment test result: PASSED\n"
  else
    print "SMART overall-health self-assessment test result: FAILED!\n"
    (bitNames h.criticalWarning warnings).forM fun w => warn s!"- {w}\n"
  print "\n"
  setIn "smart_status" "passed" (.bool h.passed)
  setIn "smart_status" "nvme" (.record [("value", .nat h.criticalWarning)])

def unitBytes (units : Nat) : Nat := min 0xffffffffffffffffffffffffffffffff (units * 512000)

def dataUnits (units : Nat) : String := s!"{Text.grouped units} [{Text.siSize (unitBytes units)}]"

def healthLog (h : Health) : Exam Unit := do
  print "SMART/Health Information (NVMe Log 0x02)\n"
  print s!"Critical Warning:                   0x{Text.hex 2 h.criticalWarning}\n"
  print s!"Temperature:                        {h.celsius} Celsius\n"
  print s!"Available Spare:                    {h.spare}%\n"
  print s!"Available Spare Threshold:          {h.spareThreshold}%\n"
  print s!"Percentage Used:                    {h.used}%\n"
  print s!"Data Units Read:                    {dataUnits h.unitsRead}\n"
  print s!"Data Units Written:                 {dataUnits h.unitsWritten}\n"
  print s!"Host Read Commands:                 {Text.grouped h.hostReads}\n"
  print s!"Host Write Commands:                {Text.grouped h.hostWrites}\n"
  print s!"Controller Busy Time:               {Text.grouped h.busyTime}\n"
  print s!"Power Cycles:                       {Text.grouped h.powerCycles}\n"
  print s!"Power On Hours:                     {Text.grouped h.powerOnHours}\n"
  print s!"Unsafe Shutdowns:                   {Text.grouped h.unsafeShutdowns}\n"
  print s!"Media and Data Integrity Errors:    {Text.grouped h.mediaErrors}\n"
  print s!"Error Information Log Entries:      {Text.grouped h.errorLogEntries}\n"
  print s!"Warning  Comp. Temperature Time:    {h.warningMinutes}\n"
  print s!"Critical Comp. Temperature Time:    {h.criticalMinutes}\n\n"
  set "nvme_smart_health_information_log" (.record [
    ("critical_warning", .nat h.criticalWarning),
    ("temperature", .int h.celsius),
    ("available_spare", .nat h.spare),
    ("available_spare_threshold", .nat h.spareThreshold),
    ("percentage_used", .nat h.used),
    ("data_units_read", .nat (clamp h.unitsRead)),
    ("data_units_written", .nat (clamp h.unitsWritten)),
    ("host_reads", .nat (clamp h.hostReads)),
    ("host_writes", .nat (clamp h.hostWrites)),
    ("controller_busy_time", .nat (clamp h.busyTime)),
    ("power_cycles", .nat (clamp h.powerCycles)),
    ("power_on_hours", .nat (clamp h.powerOnHours)),
    ("unsafe_shutdowns", .nat (clamp h.unsafeShutdowns)),
    ("media_errors", .nat (clamp h.mediaErrors)),
    ("num_err_log_entries", .nat (clamp h.errorLogEntries)),
    ("warning_temp_time", .nat h.warningMinutes),
    ("critical_comp_time", .nat h.criticalMinutes)])
  set "power_on_time" (.record [("hours", .nat (clamp h.powerOnHours))])
  set "power_cycle_count" (.nat (clamp h.powerCycles))

abbrev showHealth (s : Sections) (h : Health) : Exam Unit := do
  print "=== START OF SMART DATA SECTION ===\n"
  if s.status then verdict h
  setIn "temperature" "current" (.int h.celsius)
  if s.health then healthLog h

/-- The failure is mandatory if the verdict is wanted. -/
def health (s : Sections) : Exam Unit := do
  match ← read (.logPage 0x02 512) Health.decode with
  | .error e =>
    fail (if s.status then .mandatory else .optional)
      s!"Read NVMe SMART/Health Information failed: {e.message}\n"
  | .ok h => showHealth s h

def errorLine (i : Nat) (e : ErrorEntry) : String :=
  s!"{Text.column 3 i} {Text.column 10 e.errorCount} {Text.column 5 e.submissionQueue}  0x{Text.hex 4 e.commandId}  0x{Text.hex 4 e.status} {Text.column 5 e.nsid} {Text.column 13 e.lba}\n"

def errorDatum (e : ErrorEntry) : Datum := .record [
  ("error_count", .nat e.errorCount),
  ("submission_queue_id", .nat e.submissionQueue),
  ("command_id", .nat e.commandId),
  ("status_field", .nat e.status),
  ("nsid", .nat e.nsid),
  ("lba", .nat e.lba)]

def errorTitles : String := "Num   ErrCount  SQId   CmdId  Status  NSID           LBA\n"

def noErrors : String := "No Errors Logged\n\n"

def errorKey : String := "nvme_error_information_log"

def showErrors (count available : Nat) (entries : List ErrorEntry) : Exam Unit := do
  print s!"Error Information (NVMe Log 0x01, {count} of {available} entries)\n"
  if entries.isEmpty then print noErrors
  else
    print errorTitles
    (entries.mapIdx errorLine).forM print
    print "\n"
  set errorKey (.record [
    ("size", .nat available),
    ("read", .nat count),
    ("logged", .nat entries.length),
    ("table", .list (entries.map errorDatum))])

/-- As many entries as are wanted and available, at least one. The log counts as 16 entries if the
controller did not tell. -/
def errorLog (wanted : Nat) (c : Option Controller) : Exam Unit := do
  let available := (c.map (·.errorLogEntries)).getD 16
  let count := max 1 (min wanted available)
  match ← send (.logPage 0x01 (count * ErrorEntry.size)) with
  | .error e => fail .optional s!"Read NVMe Error Information Log failed: {e.message}\n"
  | .ok bs => showErrors count available (ErrorEntry.decodeAll bs)

def selfTestLine (i : Nat) (t : SelfTest) : String :=
  let number := Text.alignLeft 2 (toString i)
  let kind := Text.alignLeft 16 (SelfTest.describe t.code)
  let result := Text.alignLeft 28 (SelfTest.resultText t.result)
  let lba := (t.failingLba.map toString).getD "-"
  s!" {number}  {kind}  {result} {Text.column 14 t.powerOnHours}  {lba}\n"

def selfTestDatum (t : SelfTest) : Datum :=
  .record ([
    ("self_test_code", .record [("value", .nat t.code), ("string", .text (SelfTest.describe t.code))]),
    ("self_test_result", .record [
      ("value", .nat t.result), ("string", .text (SelfTest.resultText t.result))]),
    ("power_on_hours", .nat t.powerOnHours)] ++
    (t.failingLba.map fun lba => ("lba", Datum.nat lba)).toList)

abbrev showSelfTests (log : SelfTestLog) : Exam Unit := do
  print "Self-test Log (NVMe Log 0x06)\n"
  let kind := if log.operation = 1 then "Short" else "Extended"
  print (if log.operation = 0 then "Self-test status: No self-test in progress\n"
    else s!"Self-test status: {kind} self-test in progress ({log.completion}% completed)\n")
  if log.results.isEmpty then print "No Self-tests Logged\n\n"
  else
    print "Num  Test_Description  Status                       Power_on_Hours  Failing_LBA\n"
    (log.results.mapIdx selfTestLine).forM print
    print "\n"
  set "nvme_self_test_log" (.record [
    ("current_self_test_operation", .record [("value", .nat log.operation)]),
    ("table", .list (log.results.map selfTestDatum))])

def selfTestLog (c : Option Controller) : Exam Unit := do
  if (c.map (·.hasSelfTest)) = some false then info "Self-tests not supported\n\n"
  else
    match ← read (.logPage 0x06 564) SelfTestLog.decode with
    | .error e => fail .optional s!"Read Self-test Log failed: {e.message}\n"
    | .ok log => showSelfTests log

def identitySections (s : Sections) (c : Controller) : Exam Unit := do
  if s.driveInfo then driveInfo c
  if s.capabilities then capabilities c

def all (s : Sections) : Exam Unit := do
  let c ← if s.wantsIdentity then controller? else pure none
  match c with
  | some c => identitySections s c
  | none => pure ()
  if s.status || s.health then health s
  if s.errorEntries > 0 then errorLog s.errorEntries c
  if s.selfTestLog then selfTestLog c

def run {σ : Type} (ch : Channel Command (List UInt8) σ) (s : Sections) (state : σ) (r : Recorder) :
    Outcome Unit σ :=
  Procedure.run ch Command.name (r.debug.nvme > 0) (all s) state r

end Exam

end DriveHealth.Nvme
