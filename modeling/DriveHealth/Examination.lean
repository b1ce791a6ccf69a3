import DriveHealth.Ata.Exam
import DriveHealth.Plan
set_option autoImplicit false

namespace DriveHealth

inductive Task where
  | ata (s : Ata.Sections)
  | scsi (s : Scsi.Sections)
  | nvme (s : Nvme.Sections)
  deriving DecidableEq, Repr

def Task.protocol : Task → Protocol
  | .ata _ => .ata
  | .scsi _ => .scsi
  | .nvme _ => .nvme

def Plan.task (p : Plan) : Protocol → Task
  | .ata => .ata p.ata
  | .scsi => .scsi p.scsi
  | .nvme => .nvme p.nvme

/-- The tasks of a plan for a drive that answers to some protocols, in the order in which they run. -/
def Plan.tasks (p : Plan) (spoken : ProtocolSet) : List Task :=
  (spoken.inter p.protocols).toList.map p.task

structure Link (σ : Type) where
  ata : Channel Ata.Taskfile Ata.Response σ
  scsi : Channel Scsi.Command (List UInt8) σ
  nvme : Channel Nvme.Command (List UInt8) σ

def Task.run {σ : Type} (link : Link σ) (state : σ) (r : Recorder) : Task → Procedure.Outcome Unit σ
  | .ata s => Ata.Exam.run link.ata s state r
  | .scsi s => Scsi.Exam.run link.scsi s state r
  | .nvme s => Nvme.Exam.run link.nvme s state r

end DriveHealth
