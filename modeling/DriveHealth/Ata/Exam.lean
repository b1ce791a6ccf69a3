import DriveHealth.Ata.Exam.Identity
import DriveHealth.Ata.Exam.Log
import DriveHealth.Ata.Exam.Smart
set_option autoImplicit false

namespace DriveHealth.Ata.Exam

open Procedure

def identity? : Exam (Option Identity) := do
  match ← read .identifyDevice Identity.decode with
  | .ok id => return some id
  | .error e =>
    fail .mandatory s!"Read Device Identity failed: {e.message}\n\n"
    return none

def identitySections (s : Sections) (id : Identity) : Exam Unit := do
  if s.driveInfo then driveInfo id s
  if 0 ≤ s.wordLevel then dump id s.wordLevel s.bitLevel
  if s.wantsSettings then settings id s

def smartSections (s : Sections) : Exam Unit := do
  if s.wantsSmart then print "=== START OF READ SMART DATA SECTION ===\n"
  if s.status then health
  if s.generalValues || s.attributes then smartData s
  if s.gpDirectory || s.smartDirectory then logDirectories s
  if s.errorLog || s.extErrorLog > 0 then errorLogs s
  if s.selfTestLog || s.extSelfTestLog > 0 then selfTestLogs s
  if s.selectiveLog then selectiveLog
  if s.sctTemperatures then sctTemperatures
  if s.sctHistory then unsupported "SCT Temperature History"
  if s.sctErrorRecovery > 0 then unsupported "SCT Error Recovery Control"
  if s.statistics then statistics
  if s.pendingDefects > 0 then pendingDefects s.pendingDefects
  if s.phyCounters then phyCounters

def all (s : Sections) : Exam Unit := do
  match ← identity? with
  | some id => identitySections s id
  | none => pure ()
  smartSections s

def run {σ : Type} (ch : Channel Taskfile Response σ) (s : Sections) (state : σ) (r : Recorder) :
    Outcome Unit σ :=
  Procedure.run ch Taskfile.name (r.debug.ata > 0) (all s) state r

end DriveHealth.Ata.Exam
