import DriveHealth.Config.Sections
import DriveHealth.Text.Blank
set_option autoImplicit false

namespace DriveHealth

structure Config where
  tolerance : ToleranceMode := .normal
  /-- Load the default drive database when it is first needed. -/
  useDefaultDatabase : Bool := true
  /-- The device types that a scan looks for; all of them if there are none. -/
  scanTypes : List String := []
  debug : DebugLevels := {}
  baseline : Baseline := {}
  deriving DecidableEq, Repr

structure Environment where
  tolerance : Option String := none
  useDefaultDatabase : Option String := none
  scanTypes : Option String := none
  debug : Option String := none

namespace Config

def fields : List (RecordField Config) := [
  .of "tolerance" (.choice ToleranceMode.ofName? ToleranceMode.name) (·.tolerance)
    fun s m => { s with tolerance := m },
  .of "use_default_db" .bool (·.useDefaultDatabase) fun s b => { s with useDefaultDatabase := b },
  .of "scan_types" (.list .text) (·.scanTypes) fun s ts => { s with scanTypes := ts },
  .of "debug" DebugLevels.codec (·.debug) fun s d => { s with debug := d },
  .of "baseline" Baseline.codec (·.baseline) fun s b => { s with baseline := b }]

def codec : Codec Config := .record fields {}

def isWord (t : String) : Bool := !t.isEmpty && !t.toList.any Text.isBlank

def levelsInRange (s : Ata.Sections) : Bool :=
  -1 ≤ s.wordLevel && s.wordLevel ≤ 1 && -1 ≤ s.bitLevel && s.bitLevel ≤ 2

def check (c : Config) : Except Fault Unit :=
  match c.scanTypes.find? (!isWord ·) with
  | some t => .error (.invalidConfig (.scanType t))
  | none =>
    if levelsInRange c.baseline.ata then .ok () else .error (.invalidConfig .identifyLevels)

/-- A decimal number below 256, with a plus sign or without. All that is too large counts as 256. -/
def debugLevel? (s : String) : Option Nat :=
  let digits := match s.toList with
    | '+' :: cs => cs
    | cs => cs
  if digits.isEmpty || !digits.all Char.isDigit then none
  else
    let n := digits.foldl (fun n c => min 256 (10 * n + (c.toNat - '0'.toNat))) 0
    if n < 256 then some n else none

/-- The parts between commas, trimmed; empty ones are left out. -/
def scanTypeList (s : String) : List String :=
  ((s.toList.splitOn ',').map fun cs => String.ofList (Text.stripped Text.isBlank cs)).filter
    (!·.isEmpty)

/-- A tolerance that is no mode and a debug level out of range leave their settings alone; a scan type
list is taken as it is. -/
def override (c : Config) (env : Environment) : Config where
  tolerance := (env.tolerance.bind ToleranceMode.parse?).getD c.tolerance
  useDefaultDatabase := (env.useDefaultDatabase.map fun s => s == "true" || s == "1").getD
    c.useDefaultDatabase
  scanTypes := (env.scanTypes.map scanTypeList).getD c.scanTypes
  debug := ((env.debug.bind debugLevel?).map fun n => ⟨n, n, n⟩).getD c.debug
  baseline := c.baseline

theorem check_eq_ok_iff {c : Config} :
    c.check = .ok () ↔ (∀ t ∈ c.scanTypes, isWord t = true) ∧ levelsInRange c.baseline.ata = true := by
  unfold check
  cases h : c.scanTypes.find? (!isWord ·) with
  | some t =>
    have hm := List.mem_of_find?_eq_some h
    have ht := List.find?_some h
    simp only [Bool.not_eq_true'] at ht
    constructor
    · intro e
      cases e
    · intro e
      simp [e.1 t hm] at ht
  | none =>
    have hw : ∀ t ∈ c.scanTypes, isWord t = true := by
      intro t hm
      simpa using List.find?_eq_none.1 h t hm
    by_cases hl : levelsInRange c.baseline.ata = true
    · simp [hl]
      exact hw
    · simp [hl]

end Config

end DriveHealth
