import DriveHealth.Config
import DriveHealth.Discovery
import DriveHealth.Edition
set_option autoImplicit false

/-!
The service that callers use: a backend, a configuration and whether they are fit for use. A service
that is not answers every question with nothing.
-/

namespace DriveHealth

inductive Status where
  | ready
  | unavailable (reason : String)
  deriving DecidableEq, Repr

structure Service (σ δ : Type) where
  backend : Backend σ δ
  config : Config
  status : Status
  edition : Edition
  /-- Whether there is a drive database, once that was tried. -/
  database : Option Bool := none
  state : σ

namespace Service

variable {σ δ : Type}

def start (backend : Backend σ δ) (config : Config) (edition : Edition) (state : σ) : Service σ δ :=
  let (outcome, state) := match config.check with
    | .ok () => backend.start state
    | .error e => (.error e, state)
  let status := match outcome with
    | .ok () => .ready
    | .error e => .unavailable e.message
  { backend, config, status, edition, state }

def isReady (s : Service σ δ) : Bool := s.status == .ready

def recorder (s : Service σ δ) : Recorder := .start s.config.tolerance.tolerance s.config.debug

/-- Loads the drive database the first time it is needed. -/
def needDatabase (s : Service σ δ) : Bool × Service σ δ :=
  match s.database with
  | some loaded => (loaded, s)
  | none =>
    let (loaded, state) := s.backend.loadDatabase s.config.useDefaultDatabase s.state
    (loaded, { s with database := some loaded, state })

/-- Carries out a plan on a device that was found: loads the database, opens the device, examines and
closes it. -/
def followPlan (s : Service σ δ) (d : δ) (p : Plan) (r : Recorder) :
    Except Fault Unit × Recorder × Service σ δ :=
  let (loaded, s) := s.needDatabase
  let p := if loaded then p else p.withoutPresets
  let (opened, state) := s.backend.openDevice d s.state
  match opened with
  | .error e => (.error e, r, { s with state })
  | .ok d =>
    let (r, state) := s.backend.carryOut p d r state
    (.ok (), r, { s with state })

/-- Queries a device that was found. A plan that cannot be made stops the program. -/
def queryFound (s : Service σ δ) (d : δ) (q : Query) (r : Recorder) :
    Checked (Except Fault Unit) × Recorder × Service σ δ :=
  match q.plan s.config.baseline with
  | .error trap => (.error trap, r, s)
  | .ok p =>
    let (outcome, r, s) := s.followPlan d p r
    (.ok outcome, r, s)

/-- Queries a device. Once it is open, the outcome is good whatever the examinations find. -/
def runQuery (s : Service σ δ) (t : Target) (q : Query) (r : Recorder) :
    Checked (Except Fault Unit) × Recorder × Service σ δ :=
  match s.status with
  | .unavailable reason => (.ok (.error (.unavailable reason)), r, s)
  | .ready =>
    let (found, state) := s.backend.find t s.state
    let s := { s with state }
    match found with
    | .error e => (.ok (.error e), r.reset, s)
    | .ok d => s.queryFound d q r.reset

/-- Scans for devices; for that there has to be a drive database. -/
def runScan (s : Service σ δ) (arguments : String) (mode : ScanMode) (r : Recorder) :
    Except Fault Unit × Recorder × Service σ δ :=
  match s.status with
  | .unavailable reason => (.error (.unavailable reason), r, s)
  | .ready =>
    let (loaded, s) := s.needDatabase
    if loaded then
      let (r, state) :=
        s.backend.discover s.config.scanTypes (.parse arguments) mode r.reset s.state
      (.ok (), r, { s with state })
    else (.error (.invalidConfig .noDriveDatabase), r, s)

def linesOf (r : Recorder) : Except Fault Unit → List String
  | .ok () => r.transcript.lines
  | .error _ => []

def query (s : Service σ δ) (name : String) (q : Query) : Checked (List String) × Service σ δ :=
  let (outcome, r, s) := s.runQuery { name } q s.recorder
  (outcome.map (linesOf r), s)

def queryPicked (s : Service σ δ) (name : String) :
    Except Fault Query → Checked (List String) × Service σ δ
  | .ok q => s.query name q
  | .error _ => (.ok [], s)

def identity (s : Service σ δ) (name : String) : Checked (List String) × Service σ δ := s.query name .identity

def identify (s : Service σ δ) (name : String) (choice : Int) : Checked (List String) × Service σ δ :=
  s.queryPicked name ((IdentifyMode.ofChoice choice).map .identify)

def settings (s : Service σ δ) (name : String) (choice : Int) : Checked (List String) × Service σ δ :=
  s.queryPicked name ((SettingsGroup.ofChoice choice).map .settings)

def smartInfo (s : Service σ δ) (name : String) : Checked (List String) × Service σ δ := s.query name .smartInfo

def info (s : Service σ δ) (name : String) : Checked (List String) × Service σ δ := s.query name .info

def health (s : Service σ δ) (name : String) : Checked (List String) × Service σ δ := s.query name .health

def scan (s : Service σ δ) (arguments : String) (mode : ScanMode) : List String × Service σ δ :=
  let (outcome, r, s) := s.runScan arguments mode s.recorder
  (linesOf r outcome, s)

def about (s : Service σ δ) (program : String) (piece : String → String) : String :=
  if s.isReady then piece (s.edition.describe program true) else ""

def version (s : Service σ δ) : String := s.about Edition.packageName Edition.banner

def copyright (s : Service σ δ) : String := s.about Edition.packageName Edition.copyright

def license (s : Service σ δ) : String := s.about Edition.packageName Edition.license

/-- The lines on the build. They begin with the package name, and so would the banner if the program
went by it, so here it goes by another name. -/
def buildInfo (s : Service σ δ) : String := s.about "x" (Edition.buildInfo s.edition.package)

end Service

end DriveHealth
