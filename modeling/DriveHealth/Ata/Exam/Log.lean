import DriveHealth.Ata.Exam.Basic
import DriveHealth.Ata.Log
import DriveHealth.Ata.PhyCounter
import DriveHealth.Ata.SelfTest
set_option autoImplicit false

namespace DriveHealth.Ata.Exam

open Procedure

def directory (name short key : String) (d : LogDirectory) : Exam Fields := do
  print s!"{name} Log Directory Version {d.version}\n"
  (d.entries.map fun e =>
    s!"{short} Log at address 0x{Text.hex 2 e.address} has {Text.column 5 e.sectors} sectors\n").forM print
  let table := d.entries.map fun e =>
    Datum.record [("address", .nat e.address), ("sectors", .nat e.sectors)]
  return [(key ++ "_dir_version", .nat d.version), (key ++ "_table", .list table)]

def directory? (wanted : Bool) (name short key : String) (t : Taskfile) : Exam Fields := do
  if wanted then
    match ← read t LogDirectory.decode with
    | .ok d => directory name short key d
    | .error e =>
      unread s!"{short} Log Directory" e
      return []
  else return []

abbrev showDirectories (fields : Fields) : Exam Unit := do
  print "\n"
  if !fields.isEmpty then set "ata_log_directory" (.record fields)

def logDirectories (s : Sections) : Exam Unit := do
  let gp ← directory? s.gpDirectory "General Purpose" "GP" "gp" (.readLogExt 0x00 0)
  let smart ← directory? s.smartDirectory "SMART" "SMART" "smart" (.smartReadLog 0x00)
  showDirectories (gp ++ smart)

abbrev showSummaryErrors (e : ErrorCount) : Exam Unit := do
  print s!"SMART Error Log Version: {e.version}\n"
  print (if e.count = 0 then "No Errors Logged\n\n" else s!"ATA Error Count: {e.count}\n\n")
  setIn "ata_smart_error_log" "summary"
    (.record [("revision", .nat e.version), ("count", .nat e.count)])

def summaryErrors : Exam Unit :=
  show? "SMART Error Log" (.smartReadLog 0x01) ErrorCount.decodeSummary showSummaryErrors

abbrev showExtErrors (limit : Nat) (e : ErrorCount) : Exam Unit := do
  print s!"SMART Extended Comprehensive Error Log Version: {e.version}\n"
  print (if e.count = 0 then "No Errors Logged\n\n"
    else s!"Device Error Count: {e.count} (showing at most {limit} entries)\n\n")
  setIn "ata_smart_error_log" "extended"
    (.record [("revision", .nat e.version), ("count", .nat e.count)])

/-- The extended log, and whether the summary log has to stand in for it. -/
def extErrors (s : Sections) : Exam Bool := do
  match ← read (.readLogExt 0x03 0) ErrorCount.decodeExt with
  | .ok e =>
    showExtErrors s.extErrorLog e
    return false
  | .error e =>
    if s.retryErrorLog then
      info s!"Read SMART Extended Comprehensive Error Log failed: {e.message}, retrying with SMART Error Log\n"
      return true
    else
      unread "SMART Extended Comprehensive Error Log" e
      return false

def errorLogs (s : Sections) : Exam Unit := do
  let instead ← if s.extErrorLog > 0 then extErrors s else pure false
  if s.errorLog || instead then summaryErrors

def selfTestLine (number : Nat) (t : SelfTest) : String :=
  let count := Text.alignLeft 2 (toString number)
  let kind := Text.alignLeft 18 (SelfTest.describe t.type)
  let status := Text.alignLeft 29 (SelfTest.statusText t.status)
  let lba := (t.failingLba.map toString).getD "-"
  s!"# {count} {kind}  {status} {Text.zeroPadded 2 (SelfTest.remaining t.status)}%  {Text.column 15 t.hours}  {lba}\n"

def selfTestDatum (t : SelfTest) : Datum :=
  .record ([
    ("type", .record [("value", .nat t.type), ("string", .text (SelfTest.describe t.type))]),
    ("status", .record [
      ("value", .nat t.status),
      ("string", .text (SelfTest.statusText t.status)),
      ("passed", .bool t.passed)]),
    ("lifetime_hours", .nat t.hours)] ++
    (t.failingLba.map fun lba => ("lba", Datum.nat lba)).toList)

def selfTestTable (log : SelfTestLog) (limit : Option Nat) (field : String) : Exam Unit := do
  let shown := match limit with
    | some n => log.entries.take n
    | none => log.entries
  if log.entries.isEmpty then print "No self-tests have been logged.\n\n"
  else
    print "Num  Test_Description    Status                  Remaining  LifeTime(hours)  LBA_of_first_error\n"
    (shown.mapIdx fun i t => selfTestLine (i + 1) t).forM print
    print "\n"
  setIn "ata_smart_self_test_log" field (.record [
    ("revision", .nat log.revision),
    ("count", .nat log.entries.length),
    ("table", .list (shown.map selfTestDatum))])

abbrev showSelfTests (log : SelfTestLog) : Exam Unit := do
  print s!"SMART Self-test log structure revision number {log.revision}\n"
  selfTestTable log none "standard"

def standardSelfTests : Exam Unit :=
  show? "SMART Self-test Log" (.smartReadLog 0x06) SelfTestLog.decode showSelfTests

abbrev showExtSelfTests (limit : Nat) (log : SelfTestLog) : Exam Unit := do
  print s!"SMART Extended Self-test Log Version: {log.revision}\n"
  selfTestTable log (some limit) "extended"

def extSelfTests (s : Sections) : Exam Bool := do
  match ← read (.readLogExt 0x07 0) SelfTestLog.decodeExt with
  | .ok log =>
    showExtSelfTests s.extSelfTestLog log
    return false
  | .error e =>
    if s.retrySelfTestLog then
      info s!"Read SMART Extended Self-test Log failed: {e.message}, retrying with SMART Self-test Log\n"
      return true
    else
      unread "SMART Extended Self-test Log" e
      return false

def selfTestLogs (s : Sections) : Exam Unit := do
  let instead ← if s.extSelfTestLog > 0 then extSelfTests s else pure false
  if s.selfTestLog || instead then standardSelfTests

abbrev showSpans (log : SelectiveLog) : Exam Unit := do
  print s!"SMART Selective self-test log data structure revision number {log.revision}\n"
  print " SPAN  MIN_LBA  MAX_LBA  CURRENT_TEST_STATUS\n"
  (log.spans.mapIdx fun i s =>
    s!"{Text.column 5 (i + 1)} {Text.column 8 s.first} {Text.column 8 s.last}  Not_testing\n").forM print
  print "\n"
  let table := log.spans.map fun s =>
    Datum.record [("lba_min", .nat s.first), ("lba_max", .nat s.last)]
  set "ata_smart_selective_self_test_log"
    (.record [("revision", .nat log.revision), ("table", .list table)])

def selectiveLog : Exam Unit :=
  show? "SMART Selective Self-test Log" (.smartReadLog 0x09) SelectiveLog.decode showSpans

abbrev showTemperatures (t : SctTemperatures) : Exam Unit := do
  let degrees (d : Option Int) : String := (d.map toString).getD "?"
  print s!"SCT Status Version:                  {t.version}\n"
  print s!"Current Temperature:                 {degrees t.current} Celsius\n"
  print s!"Power Cycle Min/Max Temperature:     {degrees t.cycleMin}/{degrees t.cycleMax} Celsius\n"
  print s!"Lifetime    Min/Max Temperature:     {degrees t.lifeMin}/{degrees t.lifeMax} Celsius\n\n"
  set "temperature" (.record [
    ("current", .opt .int t.current),
    ("power_cycle_min", .opt .int t.cycleMin),
    ("power_cycle_max", .opt .int t.cycleMax),
    ("lifetime_min", .opt .int t.lifeMin),
    ("lifetime_max", .opt .int t.lifeMax)])

def sctTemperatures : Exam Unit :=
  show? "SCT Status" (.smartReadLog 0xe0) SctTemperatures.decode showTemperatures

abbrev showStatistics (pages : List Nat) : Exam Unit := do
  print "Device Statistics (GP Log 0x04)\n"
  (pages.map fun p => s!"Page  0x{Text.hex 2 p}  {statisticsPageName p}\n").forM print
  print "\n"
  let listed := pages.map fun p =>
    Datum.record [("number", .nat p), ("name", .text (statisticsPageName p))]
  set "ata_device_statistics" (.record [("pages", .list listed)])

def statistics : Exam Unit :=
  show? "Device Statistics" (.readLogExt 0x04 0) decodeStatisticsPages showStatistics

abbrev showDefects (limit count : Nat) : Exam Unit := do
  print "Pending Defects log (GP Log 0x0c)\n"
  print (if count = 0 then "No Defects Logged\n\n"
    else s!"{Text.grouped count} entries (showing at most {limit})\n\n")
  set "ata_pending_defects_log" (.record [("size", .nat count)])

def pendingDefects (limit : Nat) : Exam Unit :=
  show? "Pending Defects log" (.readLogExt 0x0c 0) decodePendingDefects (showDefects limit)

abbrev showPhyCounters (counters : List PhyCounter) : Exam Unit := do
  print "SATA Phy Event Counters (GP Log 0x11)\n"
  print "ID          Value  Description\n"
  (counters.map fun c =>
    s!"0x{Text.hex 4 c.id} {Text.column 10 c.value}  {PhyCounter.name c.id}\n").forM print
  print "\n"
  let table := counters.map fun c =>
    Datum.record [("id", .nat c.id), ("name", .text (PhyCounter.name c.id)), ("value", .nat c.value)]
  set "sata_phy_event_counters" (.record [("table", .list table)])

def phyCounters : Exam Unit :=
  show? "SATA Phy Event Counters" (.readLogExt 0x11 0) PhyCounter.decodeAll showPhyCounters

end DriveHealth.Ata.Exam
