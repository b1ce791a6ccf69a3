import DriveHealth.Linux.Device
import DriveHealth.Text.Glob
set_option autoImplicit false

namespace DriveHealth.Linux

def directory : String := "/dev"

/-- Whether a scan for some types is interested in devices of a type. A SCSI disk may turn out to be
an ATA drive, so a scan for those takes it too. -/
def isWanted (types : List String) (type : String) : Bool :=
  types.isEmpty || types.any fun t =>
    if type = "scsi" then t = "scsi" || t = "sat" || t = "ata" else t = type

def after? (word : String) (cs : List Char) : Option (List Char) :=
  if word.toList.isPrefixOf cs then some (cs.drop word.length) else none

def isDisk (file : String) : Bool :=
  (after? "sd" file.toList).any fun cs => !cs.isEmpty && cs.all fun c => 'a' ≤ c && c ≤ 'z'

def isController (file : String) : Bool :=
  (after? "nvme" file.toList).any fun cs => !cs.isEmpty && cs.all Char.isDigit

structure Candidates where
  disks : List String
  controllers : List String
  deriving DecidableEq, Repr

def readPattern (lib : Text.Regex.Library) (p : String) : Except Fault lib.Compiled :=
  (lib.ofPattern p).mapError fun refusal => .malformed (.described refusal.message)

def candidates (types : List String) (wants : String → Bool) (files : List String) : Candidates :=
  let path (file : String) : String := s!"{directory}/{file}"
  let sorted (keep : String → Bool) : List String :=
    (((files.filter (wants ∘ path)).filter keep).map path).mergeSort
  { disks := if isWanted types "scsi" then sorted isDisk else []
    controllers := if isWanted types "nvme" then sorted isController else [] }

def Candidates.line (c : Candidates) : String :=
  s!"scan: {c.disks.length} SCSI/SAT and {c.controllers.length} NVMe candidates\n"

variable {σ : Type} (host : Host σ)

/-- A disk, labelled by what a short look at it tells, and closed again. -/
def classify (path : String) (s : σ) : Device × σ :=
  let d := Device.ofName path none
  let (opened, s) := host.openFile path s
  match opened with
  | .error _ => (d, s)
  | .ok () =>
    let (reply, s) := { d with isOpen := true }.sendScsi host .inquiry s
    match reply.bind Scsi.Inquiry.decode with
    | .ok i => (d.applyInquiry i, s)
    | .error _ => (d, s)

def classifyAll : List String → σ → List Device × σ
  | [], s => ([], s)
  | path :: paths, s =>
    let (d, s) := classify host path s
    let (ds, s) := classifyAll paths s
    (d :: ds, s)

def scan (types : List String) (pattern : Option String) (r : Recorder) (s : σ) :
    Except Fault (List Device) × Recorder × σ :=
  match types.find? fun t => (DeviceType.ofName? t).isNone with
  | some t => (.error (.unknownType t), r, s)
  | none =>
    match pattern.mapM (readPattern host.regex) with
    | .error e => (.error e, r, s)
    | .ok pattern =>
      let (files, s) := host.deviceFiles s
      match files with
      | .error e => (.error e, r, s)
      | .ok files =>
        let c := candidates types (fun path => pattern.all fun re => host.regex.isMatch re path) files
        let (disks, s) := classifyAll host c.disks s
        (.ok (disks ++ c.controllers.map fun path => Device.ofName path none), r.emit .info c.line, s)

def find (name : String) (typeHint : Option String) : Option Device :=
  let path := if name.toList.head? = some '/' then name else s!"{directory}/{name}"
  match typeHint with
  | none => some (.ofName path none)
  | some "auto" => some (.ofName path none)
  | some t => (DeviceType.ofName? t).map fun t => .ofName path (some t)

def backend : Backend σ Device where
  start s := (if host.hasDeviceDirectory s then .ok () else .error (.noSuchDevice directory), s)
  loadDatabase useDefault s := (useDefault || host.hasDriveDatabase s, s)
  lookup name typeHint s := (find name typeHint, s)
  scan := scan host
  connect d s := d.connect host s
  examine t d r s :=
    let out := t.run (d.link host) s r
    (d, out.recorder, out.channel)
  close d s := (d.close, s)
  facts := Device.facts

end DriveHealth.Linux
