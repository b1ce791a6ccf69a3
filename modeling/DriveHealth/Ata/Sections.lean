set_option autoImplicit false

namespace DriveHealth.Ata

structure TableFormat where
  brief : Bool := false
  hexId : Bool := false
  hexRaw : Bool := false
  deriving DecidableEq, Repr

structure Sections where
  driveInfo : Bool := false
  ignorePresets : Bool := false
  /-- Words of the identity to dump: none below 0, those that report something at 0, all above. -/
  wordLevel : Int := -1
  /-- Bits to dump: those set in described words at 0, in words that report something at 1, and all
  bits of all words at 2. -/
  bitLevel : Int := -1
  status : Bool := false
  generalValues : Bool := false
  attributes : Bool := false
  errorLog : Bool := false
  selfTestLog : Bool := false
  selectiveLog : Bool := false
  extErrorLog : Nat := 0
  retryErrorLog : Bool := false
  extSelfTestLog : Nat := 0
  retrySelfTestLog : Bool := false
  smartDirectory : Bool := false
  gpDirectory : Bool := false
  sctTemperatures : Bool := false
  sctHistory : Bool := false
  sctErrorRecovery : Nat := 0
  sctReorder : Bool := false
  sctWriteCache : Bool := false
  statistics : Bool := false
  pendingDefects : Nat := 0
  phyCounters : Bool := false
  /-- Report only the settings that are asked for. -/
  askedOnly : Bool := false
  aam : Bool := false
  apm : Bool := false
  security : Bool := false
  lookahead : Bool := false
  writeCache : Bool := false
  dsn : Bool := false
  format : TableFormat := {}
  deriving DecidableEq, Repr

namespace Sections

def wantsSettings (s : Sections) : Bool :=
  s.aam || s.apm || s.security || s.lookahead || s.writeCache || s.dsn || s.sctReorder || s.sctWriteCache

def wantsSmart (s : Sections) : Bool :=
  s.status || s.generalValues || s.attributes || s.errorLog || s.extErrorLog > 0 || s.selfTestLog ||
    s.extSelfTestLog > 0 || s.selectiveLog || s.smartDirectory || s.gpDirectory || s.sctTemperatures

end Sections

end DriveHealth.Ata
