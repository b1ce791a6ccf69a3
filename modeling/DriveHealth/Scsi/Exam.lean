import DriveHealth.Procedure
import DriveHealth.Scsi.Command
import DriveHealth.Scsi.Inquiry
import DriveHealth.Scsi.Page
import DriveHealth.Text.Size
set_option autoImplicit false

namespace DriveHealth.Scsi

structure Sections where
  driveInfo : Bool := false
  status : Bool := false
  vendorAttributes : Bool := false
  errorLog : Bool := false
  selfTestLog : Bool := false
  mediaLog : Bool := false
  backgroundLog : Bool := false
  readCache : Bool := false
  writeCache : Bool := false
  sasPhy : Bool := false
  environment : Bool := false
  pendingDefects : Bool := false
  tapeStatistics : Bool := false
  zonedStatistics : Bool := false
  generalStatistics : Bool := false
  /-- How often the health verdict was asked for. -/
  healthRequests : Nat := 0
  deriving DecidableEq, Repr

abbrev Exam (α : Type) := Procedure Command (List UInt8) α

namespace Exam

open Procedure

variable {α : Type}

def read (c : Command) (decode : List UInt8 → Except Fault α) : Exam (Except Fault α) := do
  return (← send c).bind decode

def onOff (on : Bool) : String := if on then "Enabled" else "Disabled"

def inquiry? : Exam (Option Inquiry) := do
  match ← read .inquiry Inquiry.decode with
  | .ok i => return some i
  | .error e =>
    fail .mandatory s!"Standard Inquiry (36 bytes) failed: {e.message}\n"
    return none

abbrev showCapacity (c : Capacity) : Exam Unit := do
  print s!"User Capacity:        {Text.capacity c.bytes}\n"
  print s!"Logical block size:   {c.blockLength} bytes\n"
  set "user_capacity" (.record [("blocks", .nat c.blocks), ("bytes", .nat c.bytes)])
  set "logical_block_size" (.nat c.blockLength)

def capacity : Exam Unit := do
  match ← read .readCapacity Capacity.decode with
  | .ok c => showCapacity c
  | .error e => fail .optional s!"Read Capacity failed: {e.message}\n"

abbrev introduction (i : Inquiry) : Exam Unit := do
  print "=== START OF INFORMATION SECTION ===\n"
  print s!"Vendor:               {i.vendor}\n"
  print s!"Product:              {i.product}\n"
  print s!"Revision:             {i.revision}\n"
  set "scsi_vendor" (.text i.vendor)
  set "scsi_product" (.text i.product)
  set "scsi_revision" (.text i.revision)
  set "model_name" (.text (Text.trim s!"{i.vendor} {i.product}"))

abbrev deviceType (i : Inquiry) : Exam Unit := do
  print s!"Device type:          {i.typeName}\n\n"
  set "device_type" (.record [("scsi_value", .nat i.peripheralType), ("name", .text i.typeName)])

def driveInfo (i : Inquiry) : Exam Unit := do
  introduction i
  capacity
  deviceType i

abbrev showCaches (s : Sections) (page : Caching) : Exam Unit := do
  if s.readCache then
    print s!"Read Cache is:        {onOff !page.readCacheDisabled}\n"
    set "read_cache" (.record [("enabled", .bool !page.readCacheDisabled)])
  if s.writeCache then
    print s!"Writeback Cache is:   {onOff page.writeCacheEnabled}\n"
    set "write_cache" (.record [("enabled", .bool page.writeCacheEnabled)])
  print "\n"

def caches (s : Sections) : Exam Unit := do
  match ← read .caching Caching.decode with
  | .error e => fail .optional s!"Read caching mode page failed: {e.message}\n"
  | .ok page => showCaches s page

/-- The verdict; a second request for it adds the sense codes. -/
abbrev showExceptions (requests : Nat) (x : Exceptions) : Exam Unit := do
  print "=== START OF READ SMART DATA SECTION ===\n"
  print s!"SMART Health Status: {x.statusText}\n"
  if requests > 1 then
    print s!"Informational Exceptions: asc=0x{Text.hex 2 x.asc}, ascq=0x{Text.hex 2 x.ascq}\n"
  match x.temperature with
  | some t =>
    print s!"Current Drive Temperature:     {t} C\n"
    setIn "temperature" "current" (.nat t)
  | none => pure ()
  print "\n"
  setIn "smart_status" "passed" (.bool x.passed)

def health (requests : Nat) : Exam Unit := do
  match ← read .exceptions Exceptions.decode with
  | .error e =>
    fail .mandatory s!"Read Informational Exceptions log page failed: {e.message}\n"
  | .ok x => showExceptions requests x

def unavailable (s : Sections) : List (Bool × String) := [
  (s.vendorAttributes, "Vendor specific attributes"),
  (s.errorLog, "Error counter log"),
  (s.selfTestLog, "Self-test log"),
  (s.mediaLog, "Solid state media log"),
  (s.backgroundLog, "Background scan results log"),
  (s.sasPhy, "SAS Phy log"),
  (s.environment, "Environmental reports"),
  (s.pendingDefects, "Pending defects log"),
  (s.tapeStatistics, "Tape device statistics"),
  (s.zonedStatistics, "Zoned device statistics"),
  (s.generalStatistics, "General statistics and performance log")]

def all (s : Sections) : Exam Unit := do
  match ← inquiry? with
  | some i => if s.driveInfo then driveInfo i
  | none => pure ()
  if s.readCache || s.writeCache then caches s
  if s.status then health s.healthRequests
  ((unavailable s).filter (·.1)).forM fun u => unsupported u.2

def run {σ : Type} (ch : Channel Command (List UInt8) σ) (s : Sections) (state : σ) (r : Recorder) :
    Outcome Unit σ :=
  Procedure.run ch Command.name (r.debug.scsi > 0) (all s) state r

end Exam

end DriveHealth.Scsi
