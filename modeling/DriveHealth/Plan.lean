import DriveHealth.Ata.Sections
import DriveHealth.Checked
import DriveHealth.Nvme.Exam
import DriveHealth.Protocol
import DriveHealth.Query
import DriveHealth.Scsi.Exam
set_option autoImplicit false

/-!
Plans: which sections a query asks for, on top of those that the configuration always asks for. A plan
is built anew for each query; the only section that a query takes back is `ignorePresets`.
-/

namespace DriveHealth

structure Baseline where
  ata : Ata.Sections := {}
  scsi : Scsi.Sections := {}
  nvme : Nvme.Sections := {}
  /-- The layout of the attribute table was chosen on purpose. -/
  formatChosen : Bool := false
  deriving DecidableEq, Repr

structure Plan where
  ata : Ata.Sections := {}
  scsi : Scsi.Sections := {}
  nvme : Nvme.Sections := {}
  /-- The protocols that the query may use. -/
  protocols : ProtocolSet := .full
  deriving DecidableEq, Repr

namespace Plan

def ofBaseline (b : Baseline) : Plan := { ata := b.ata, scsi := b.scsi, nvme := b.nvme }

def identity (p : Plan) : Plan where
  ata := { p.ata with driveInfo := true, ignorePresets := false }
  scsi := { p.scsi with driveInfo := true }
  nvme := { p.nvme with driveInfo := true }
  protocols := p.protocols

def identify (mode : IdentifyMode) (p : Plan) : Plan :=
  { p with
    ata := { p.ata with wordLevel := mode.levels.1, bitLevel := mode.levels.2 }
    protocols := .singleton .ata }

def ataSettings (s : Ata.Sections) : SettingsGroup → Ata.Sections
  | .every =>
    { s with
      aam := true, apm := true, security := true, lookahead := true, writeCache := true, dsn := true }
  | .aam => { s with aam := true }
  | .apm => { s with apm := true }
  | .dsn => { s with dsn := true }
  | .lookahead => { s with lookahead := true }
  | .security => { s with security := true }
  | .writeCache => { s with writeCache := true }
  | .readCache => s
  | .reorder => { s with sctReorder := true }
  | .sctWriteCache => { s with sctWriteCache := true }

def scsiSettings (s : Scsi.Sections) : SettingsGroup → Scsi.Sections
  | .every => { s with readCache := true, writeCache := true }
  | .writeCache => { s with writeCache := true }
  | .readCache => { s with readCache := true }
  | _ => s

def settings (group : SettingsGroup) (p : Plan) : Plan :=
  { p with
    ata := { ataSettings p.ata group with askedOnly := true }
    scsi := scsiSettings p.scsi group }

def nvmeAll (s : Nvme.Sections) : Nvme.Sections :=
  { s with
    driveInfo := true, status := true, capabilities := true, health := true, errorEntries := 16
    selfTestLog := true }

def smartInfo (p : Plan) : Plan where
  ata := { p.ata with
    driveInfo := true, status := true, generalValues := true, attributes := true, errorLog := true
    selfTestLog := true, selectiveLog := true }
  scsi := { p.scsi with
    driveInfo := true, status := true, vendorAttributes := true, errorLog := true
    selfTestLog := true, mediaLog := true }
  nvme := nvmeAll p.nvme
  protocols := p.protocols

/-- Everything. The brief table is taken unless a layout was chosen. -/
def info (formatChosen : Bool) (p : Plan) : Plan where
  ata := { p.ata with
    driveInfo := true, status := true, generalValues := true, attributes := true
    extErrorLog := 8, retryErrorLog := true, extSelfTestLog := 25, retrySelfTestLog := true
    selectiveLog := true, smartDirectory := true, gpDirectory := true
    sctTemperatures := true, sctHistory := true, sctErrorRecovery := 1, sctReorder := true
    statistics := true, pendingDefects := 31, phyCounters := true
    askedOnly := true, aam := true, apm := true, security := true, lookahead := true
    writeCache := true, dsn := true
    format := { p.ata.format with brief := !formatChosen || p.ata.format.brief } }
  scsi := { p.scsi with
    driveInfo := true, status := true, vendorAttributes := true, errorLog := true
    selfTestLog := true, readCache := true, writeCache := true, backgroundLog := true
    mediaLog := true, sasPhy := true, environment := true, pendingDefects := true
    tapeStatistics := true, zonedStatistics := true, generalStatistics := true }
  nvme := nvmeAll p.nvme
  protocols := p.protocols

/-- One request for the health verdict more. They are counted in a word of 32 bits. -/
def health (p : Plan) : Checked Plan := do
  let requests ← Checked.add 32 p.scsi.healthRequests 1
  return {
    ata := { p.ata with status := true }
    scsi := { p.scsi with status := true, mediaLog := true, healthRequests := requests }
    nvme := { p.nvme with status := true }
    protocols := p.protocols }

def withoutPresets (p : Plan) : Plan := { p with ata := { p.ata with ignorePresets := true } }

end Plan

namespace Query

def plan (q : Query) (b : Baseline) : Checked Plan :=
  let p := Plan.ofBaseline b
  match q with
  | .identity => return p.identity
  | .identify mode => return p.identify mode
  | .settings group => return p.settings group
  | .smartInfo => return p.smartInfo
  | .info => return p.info b.formatChosen
  | .health => p.health

/-- A health query, where as many requests have been counted as a word can count. -/
def Overflows (q : Query) (b : Baseline) : Prop := q = .health ∧ 1 <<< 32 ≤ b.scsi.healthRequests + 1

instance (q : Query) (b : Baseline) : Decidable (q.Overflows b) := inferInstanceAs (Decidable (_ ∧ _))

theorem exists_plan {q : Query} {b : Baseline} (h : ¬ q.Overflows b) : ∃ p, q.plan b = .ok p := by
  cases q with
  | health =>
    have hcount : b.scsi.healthRequests + 1 < 1 <<< 32 := Nat.lt_of_not_le fun hle => h ⟨rfl, hle⟩
    rw [plan, Plan.health, Plan.ofBaseline, Checked.add_ok hcount]
    exact ⟨_, rfl⟩
  | _ => exact ⟨_, rfl⟩

end Query

end DriveHealth
