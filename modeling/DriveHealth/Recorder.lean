import DriveHealth.Report
import DriveHealth.Tolerance
import DriveHealth.Transcript
set_option autoImplicit false

namespace DriveHealth

structure DebugLevels where
  ata : Nat := 0
  scsi : Nat := 0
  nvme : Nat := 0
  deriving DecidableEq, Repr

def DebugLevels.any (d : DebugLevels) : Bool := d.ata > 0 || d.scsi > 0 || d.nvme > 0

structure Recorder where
  transcript : Transcript := {}
  report : Report := {}
  tolerance : Tolerance
  /-- The tolerance that `reset` goes back to. -/
  seed : Tolerance
  debug : DebugLevels := {}

namespace Recorder

def start (tolerance : Tolerance) (debug : DebugLevels) : Recorder :=
  { tolerance, seed := tolerance, debug }

/-- Drops all text and the report and restores the tolerance. Suppression stays as it is. -/
def reset (r : Recorder) : Recorder :=
  { r with transcript := r.transcript.clear, report := {}, tolerance := r.seed }

def emit (kind : EventKind) (text : String) (r : Recorder) : Recorder :=
  { r with transcript := r.transcript.emit kind text }

def write (w : Report.Write) (r : Recorder) : Recorder := { r with report := r.report.apply w }

def suppress (on : Bool) (r : Recorder) : Recorder :=
  { r with transcript := r.transcript.suppress on }

/-- Weighs a failure: whether the call may go on. If not, it says so in the text. -/
def excuse (c : FailureClass) (r : Recorder) : Bool × Recorder :=
  match r.tolerance.spend c with
  | some t => (true, { r with tolerance := t })
  | none => (false, r.emit .error c.refusal)

def drain (r : Recorder) : List String × Recorder :=
  (r.transcript.lines, { r with transcript := r.transcript.clear })

end Recorder

end DriveHealth
