import DriveHealth.Ata.Exam.Basic
import DriveHealth.Ata.Identity
import DriveHealth.Text.Size
set_option autoImplicit false

namespace DriveHealth.Ata.Exam

open Procedure

def driveInfo (id : Identity) (s : Sections) : Exam Unit := do
  print "=== START OF INFORMATION SECTION ===\n"
  print s!"Device Model:     {id.model}\n"
  print s!"Serial Number:    {id.serial}\n"
  print s!"Firmware Version: {id.firmware}\n"
  if id.capacityBytes > 0 then
    print s!"User Capacity:    {Text.capacity id.capacityBytes}\n"
  print s!"Sector Size:      {id.logicalSectorSize} bytes logical\n"
  match id.rotationRate? with
  | some 0 => print "Rotation Rate:    Solid State Device\n"
  | some rpm => print s!"Rotation Rate:    {rpm} rpm\n"
  | none => pure ()
  if !s.ignorePresets then
    print "Device is:        Not in drive database\n"
  if id.smartSupported then
    print "SMART support is: Available - device has SMART capability.\n"
    print s!"SMART support is: {onOff id.smartEnabled}\n"
  else
    print "SMART support is: Unavailable - device lacks SMART capability.\n"
  if id.checksumOk? = some false then
    warn "Warning! Drive Identity Structure error: invalid SMART checksum.\n"
  print "\n"
  set "model_name" (.text id.model)
  set "serial_number" (.text id.serial)
  set "firmware_version" (.text id.firmware)
  set "user_capacity" (.record [("blocks", .nat id.sectors), ("bytes", .nat id.capacityBytes)])
  set "logical_block_size" (.nat id.logicalSectorSize)
  match id.rotationRate? with
  | some rpm => set "rotation_rate" (.nat rpm)
  | none => pure ()
  if !s.ignorePresets then
    set "in_smartctl_database" (.bool false)
  set "smart_support"
    (.record [("available", .bool id.smartSupported), ("enabled", .bool id.smartEnabled)])

def bitLines (i w : Nat) (bitLevel : Int) : List String :=
  let listed := match bitLevel with
    | 0 => Identity.reports w && (Identity.describe? i).isSome
    | 1 => Identity.reports w
    | 2 => true
    | _ => false
  let bits := (List.range 16).reverse.filter fun k => listed && (w.testBit k || bitLevel == 2)
  bits.map fun k =>
    let label := Text.alignRight 9 s!"{i}.{k}"
    let digit := if w.testBit k then "1" else "0"
    s!"{label}  {digit}\n"

/-- The lines of the dump for word `i`: its own, if the level lists it, then those of its bits. -/
def wordLines (i w : Nat) (wordLevel bitLevel : Int) : List String :=
  if wordLevel < 1 && !Identity.reports w then []
  else
    let about := (Identity.describe? i).getD "-"
    s!"{Text.column 4 i}     0x{Text.hex 4 w}  {about}\n" :: bitLines i w bitLevel

def dump (id : Identity) (wordLevel bitLevel : Int) : Exam Unit := do
  print "=== ATA IDENTIFY DEVICE DATA ===\n"
  print "Word     Value   Description\n"
  (id.words.mapIdx fun i w => wordLines i w wordLevel bitLevel).flatten.forM print
  print "\n"
  set "ata_identify_device" (.record [("words", .list (id.words.map .nat))])

def levelSetting (label key : String) (supported on : Bool) (level : Nat) (text : String) :
    Exam Unit := do
  if !supported then print s!"{label} feature is:   Unavailable\n"
  else if on then print s!"{label} level is:     {text}\n"
  else print s!"{label} feature is:   Disabled\n"
  set key (.record [("supported", .bool supported), ("enabled", .bool (supported && on)),
    ("level", .nat level)])

def aam (id : Identity) : Exam Unit :=
  let level := id.word 94 % 256
  levelSetting "AAM" "ata_aam" (id.bit 83 9) (id.bit 86 9) level
    s!"{level} (recommended {id.word 94 / 256})"

def apm (id : Identity) : Exam Unit :=
  let level := id.word 91 % 256
  levelSetting "APM" "ata_apm" (id.bit 83 3) (id.bit 86 3) level s!"{level}"

def switchSetting (label key : String) (supported on : Bool) : Exam Unit := do
  let state := if supported then onOff on else "Unavailable"
  print s!"{label}{state}\n"
  set key (.record [("supported", .bool supported), ("enabled", .bool (supported && on))])

/-- The security status word: supported, enabled, locked and frozen from bit 0 up. -/
def security (w : Nat) : Exam Unit := do
  if !w.testBit 0 then
    print "ATA Security is:  Unavailable\n"
    set "ata_security" (.record [("state", .nat w), ("supported", .bool false)])
  else
    let on := w.testBit 1
    let locked := w.testBit 2
    let frozen := w.testBit 3
    let (level, text) :=
      if !on then if frozen then ("SEC2", "Disabled, frozen") else ("SEC1", "Disabled, NOT FROZEN")
      else if locked then ("SEC4", "ENABLED, **LOCKED**")
      else if frozen then ("SEC6", "ENABLED, frozen")
      else ("SEC5", "ENABLED, NOT FROZEN")
    print s!"ATA Security is:  {text} [{level}]\n"
    set "ata_security" (.record [("state", .nat w), ("string", .text text), ("enabled", .bool on),
      ("frozen", .bool frozen), ("locked", .bool locked)])

/-- Asks for the state of an SCT feature, which comes back in the sector count. -/
def sctState (feature : Nat) : Exam (Except Fault Nat) := do
  let reply ← send (.smartWriteLog 0xe0 (sctStateRequest feature))
  return reply.map (·.sectorCount.toNat)

abbrev showReorder (state : Nat) : Exam Unit := do
  let text := match state with
    | 1 => "Enabled"
    | 2 => "Disabled"
    | other => s!"Unknown (state {other})"
  print s!"Wt Cache Reorder: {text}\n"
  set "write_cache_reorder" (.record [("supported", .bool true), ("enabled", .bool (state == 1))])

def sctReorder (id : Identity) : Exam Unit := do
  if !id.sctFeatureControl then print "Wt Cache Reorder: Unavailable\n"
  else
    match ← sctState 2 with
    | .error e => unread "SCT Feature Control (write cache reorder)" e
    | .ok state => showReorder state

abbrev showCacheControl (state : Nat) : Exam Unit := do
  let text := match state with
    | 1 => "Controlled by ATA"
    | 2 => "Force Enabled"
    | 3 => "Force Disabled"
    | _ => "Unknown"
  print s!"SCT Write Cache Control: {text}\n"
  set "write_cache_sct" (.record [("state", .nat state), ("string", .text text)])

def sctWriteCache (id : Identity) : Exam Unit := do
  if !id.sctFeatureControl then print "SCT Write Cache Control: Unavailable\n"
  else
    match ← sctState 1 with
    | .error e => unread "SCT Feature Control (write cache)" e
    | .ok state => showCacheControl state

/-- The settings that the identity tells. -/
abbrev toldSettings (id : Identity) (s : Sections) : Exam Unit := do
  let want (asked : Bool) : Bool := asked || !s.askedOnly
  if want s.aam then aam id
  if want s.apm then apm id
  if want s.lookahead then
    switchSetting "Rd look-ahead is: " "read_lookahead" (id.bit 82 6) (id.bit 85 6)
  if want s.writeCache then
    switchSetting "Write cache is:   " "write_cache" (id.bit 82 5) (id.bit 85 5)
  if want s.dsn then switchSetting "DSN feature is:   " "ata_dsn" (id.bit 119 9) (id.bit 120 9)
  if want s.security then security (id.word 128)

def settings (id : Identity) (s : Sections) : Exam Unit := do
  toldSettings id s
  if s.sctReorder then sctReorder id
  if s.sctWriteCache then sctWriteCache id
  print "\n"

end DriveHealth.Ata.Exam
