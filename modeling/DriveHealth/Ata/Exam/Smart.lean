import DriveHealth.Ata.Exam.Basic
import DriveHealth.Ata.SelfTest
import DriveHealth.Ata.SmartData
set_option autoImplicit false

namespace DriveHealth.Ata.Exam

open Procedure

abbrev showVerdict : Bool → Exam Unit
  | true => do
    print "SMART overall-health self-assessment test result: PASSED\n\n"
    setIn "smart_status" "passed" (.bool true)
  | false => do
    print "SMART overall-health self-assessment test result: FAILED!\n"
    warn "Drive failure expected in less than 24 hours. SAVE ALL DATA.\n\n"
    setIn "smart_status" "passed" (.bool false)

def health : Exam Unit := do
  match ← send .smartReturnStatus with
  | .error e => fail .mandatory s!"SMART Status command failed: {e.message}\n"
  | .ok r =>
    match r.smartPassed? with
    | none =>
      fail .mandatory
        "SMART Status not supported: Incomplete response, ATA output registers missing\n"
    | some passed => showVerdict passed

def generalValues (d : SmartData) : Exam Unit := do
  let status := d.selfTestStatus
  print "General SMART Values:\n"
  print s!"Offline data collection status:  (0x{Text.hex 2 d.offlineStatus})\n"
  print s!"Self-test execution status:      ({Text.column 4 status})\t{SelfTest.statusText status}\n"
  if status / 16 = 0xf then
    print s!"\t\t\t\t\t{SelfTest.remaining status}% of test remaining.\n"
  print s!"Total time to complete Offline data collection: ({Text.column 5 d.offlineSeconds}) seconds.\n"
  print s!"SMART capabilities:            (0x{Text.hex 4 d.smartCapability})\n"
  let negation := if d.errorLogging then "" else "NOT "
  print s!"Error logging capability:        (0x{Text.hex 2 d.errorLogCapability})\tError logging {negation}supported.\n"
  print s!"Short self-test routine recommended polling time:\t ({Text.column 4 d.shortMinutes}) minutes.\n"
  print s!"Extended self-test routine recommended polling time:\t ({Text.column 4 d.extendedMinutes}) minutes.\n"
  if d.conveyanceSupported then
    print s!"Conveyance self-test routine recommended polling time:\t ({Text.column 4 d.conveyanceMinutes}) minutes.\n"
  print "\n"
  let polling := [("short", Datum.nat d.shortMinutes), ("extended", Datum.nat d.extendedMinutes)] ++
    if d.conveyanceSupported then [("conveyance", Datum.nat d.conveyanceMinutes)] else []
  set "ata_smart_data" (.record [
    ("offline_data_collection", .record [
      ("status", .record [("value", .nat d.offlineStatus)]),
      ("completion_seconds", .nat d.offlineSeconds)]),
    ("self_test", .record [
      ("status", .record [("value", .nat status), ("string", .text (SelfTest.statusText status))]),
      ("polling_minutes", .record polling)]),
    ("capabilities", .record [
      ("values", .list [.nat d.offlineCapability, .nat d.smartCapability]),
      ("error_logging_supported", .bool d.errorLogging)])])

structure AttributeRow where
  attr : Attribute
  limit : Option Nat

namespace AttributeRow

def join (d : SmartData) (ts : List Threshold) : List AttributeRow :=
  d.attributes.map fun a => ⟨a, Threshold.limit? ts a.id⟩

def failing (r : AttributeRow) : Failing := r.attr.failing r.limit

def line (f : TableFormat) (r : AttributeRow) : String :=
  let a := r.attr
  let id := if f.hexId then s!"0x{Text.hex 2 a.id}" else Text.column 3 a.id
  let name := Text.alignLeft 23 (Attribute.name a.id)
  let values := s!"{Text.zeroPadded 3 a.value}   {Text.zeroPadded 3 a.worst}"
  let limit := (r.limit.map (Text.zeroPadded 3)).getD "---"
  let raw := if f.hexRaw then s!"0x{Text.hex 12 a.raw}" else toString a.raw
  if f.brief then
    let fail := match r.failing with
      | .never => "-"
      | .past => "Past"
      | .now => "NOW"
    s!"{id} {name} {Attribute.flagLetters a.flags}   {values}   {limit}    {Text.alignLeft 4 fail} {raw}\n"
  else
    let kind := Text.alignLeft 9 (if a.prefailure then "Pre-fail" else "Old_age")
    let updated := Text.alignLeft 8 (if a.online then "Always" else "Offline")
    let fail := match r.failing with
      | .never => "-"
      | .past => "In_the_past"
      | .now => "FAILING_NOW"
    s!"{id} {name} 0x{Text.hex 4 a.flags}   {values}   {limit}    {kind} {updated} {Text.alignLeft 11 fail} {raw}\n"

def datum (r : AttributeRow) : Datum :=
  let a := r.attr
  let fail := match r.failing with
    | .never => ""
    | .past => "past"
    | .now => "now"
  .record [
    ("id", .nat a.id),
    ("name", .text (Attribute.name a.id)),
    ("value", .nat a.value),
    ("worst", .nat a.worst),
    ("thresh", .nat (r.limit.getD 0)),
    ("when_failed", .text fail),
    ("flags", .record [
      ("value", .nat a.flags),
      ("string", .text (Attribute.flagLetters a.flags)),
      ("prefailure", .bool a.prefailure),
      ("updated_online", .bool a.online)]),
    ("raw", .record [("value", .nat a.raw), ("string", .text (toString a.raw))])]

end AttributeRow

def attributes (d : SmartData) (ts : List Threshold) (f : TableFormat) : Exam Unit := do
  let rows := AttributeRow.join d ts
  print s!"SMART Attributes Data Structure revision number: {d.revision}\n"
  print "Vendor Specific SMART Attributes with Thresholds:\n"
  print (if f.brief then
      "ID# ATTRIBUTE_NAME          FLAGS    VALUE WORST THRESH FAIL RAW_VALUE\n"
    else
      "ID# ATTRIBUTE_NAME          FLAG     VALUE WORST THRESH TYPE      UPDATED  WHEN_FAILED RAW_VALUE\n")
  (rows.map (AttributeRow.line f)).forM print
  print "\n"
  set "ata_smart_attributes"
    (.record [("revision", .nat d.revision), ("table", .list (rows.map AttributeRow.datum))])

def thresholds : Exam (List Threshold) := do
  match ← read .smartReadThresholds Threshold.decodeAll with
  | .ok ts => return ts
  | .error e =>
    unread "SMART Thresholds" e
    return []

abbrev showSmartData (s : Sections) (d : SmartData) (ts : List Threshold) : Exam Unit := do
  if s.generalValues then generalValues d
  if s.attributes then attributes d ts s.format

def smartData (s : Sections) : Exam Unit :=
  show? "SMART Data" .smartReadData SmartData.decode fun d => do
    let ts ← if s.attributes then thresholds else pure []
    showSmartData s d ts

end DriveHealth.Ata.Exam
