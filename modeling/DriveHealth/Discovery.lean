import DriveHealth.Backend
import DriveHealth.Text.Blank
set_option autoImplicit false

/-!
The scan for devices: one line and one record for each device found. What the backend writes while it
looks around is kept only if some debug level is set.
-/

namespace DriveHealth

inductive ScanMode where
  | plain
  /-- Open every device before it is listed. -/
  | opening
  deriving DecidableEq, Repr

structure ScanRequest where
  pattern : Option String := none
  /-- Words that take the place of the comment on each line. -/
  annotations : List String := []
  deriving DecidableEq, Repr

/-- The first word is the pattern, unless it begins with a dash. -/
def ScanRequest.parse (s : String) : ScanRequest :=
  match Text.words s with
  | [] => {}
  | w :: ws =>
    if w.toList.head? = some '-' then { annotations := w :: ws }
    else { pattern := some w, annotations := ws }

namespace DeviceFacts

def heading (f : DeviceFacts) : String := s!"{f.name} -d {f.type}"

def line (f : DeviceFacts) (annotations : List String) : String :=
  if annotations.isEmpty then s!"{f.heading} # {f.infoName}, {f.protocols.text} device\n"
  else
    let words := " ".intercalate annotations
    s!"{f.heading} {words}\n"

def failureLine (f : DeviceFacts) : String :=
  s!"# {f.heading} # {f.infoName}, {f.protocols.text} device open failed: {f.failure}\n"

def record (f : DeviceFacts) : Fields := [
  ("name", .text f.name),
  ("info_name", .text f.infoName),
  ("type", .text f.type),
  ("protocol", .text f.protocols.text)]

end DeviceFacts

namespace Recorder

def writeDevice (index : Nat) (fields : Fields) (r : Recorder) : Recorder :=
  { r with report := fields.foldl (fun p f => p.setDevice index f.1 f.2) r.report }

end Recorder

namespace Backend

variable {σ δ : Type} (b : Backend σ δ)

def listDevice (mode : ScanMode) (annotations : List String) (index : Nat) (d : δ) (r : Recorder)
    (s : σ) : Recorder × σ :=
  let (d, s) := match mode with
    | .plain => (d, s)
    | .opening => b.connect d s
  let f := b.facts d
  let r := r.writeDevice index f.record
  if mode = .opening ∧ f.isOpen = false then
    ((r.emit .plain f.failureLine).writeDevice index [("open_error", .text f.failure)], s)
  else
    let (_, s) := b.closeIfOpen d s
    (r.emit .plain (f.line annotations), s)

def listDevices (mode : ScanMode) (annotations : List String) :
    Nat → List δ → Recorder → σ → Recorder × σ
  | _, [], r, s => (r, s)
  | index, d :: ds, r, s =>
    let (r, s) := b.listDevice mode annotations index d r s
    listDevices mode annotations (index + 1) ds r s

/-- Scans for devices. Suppression is the same afterwards as before. -/
def discover (types : List String) (request : ScanRequest) (mode : ScanMode) (r : Recorder) (s : σ) :
    Recorder × σ :=
  let suppressed := r.transcript.suppressed
  let (found, r, s) := b.scan types request.pattern (r.suppress !r.debug.any) s
  let r := r.suppress false
  let (r, s) := match found with
    | .error e => (r.emit .plain s!"# scan_smart_devices: {e.message}\n", s)
    | .ok ds => b.listDevices mode request.annotations 0 ds r s
  (r.suppress suppressed, s)

end Backend

end DriveHealth
