set_option autoImplicit false

namespace DriveHealth

inductive Protocol where
  | ata
  | scsi
  | nvme
  deriving DecidableEq, Repr

namespace Protocol

def all : List Protocol := [.ata, .scsi, .nvme]

def name : Protocol → String
  | .ata => "ATA"
  | .scsi => "SCSI"
  | .nvme => "NVMe"

end Protocol

structure ProtocolSet where
  ata : Bool := false
  scsi : Bool := false
  nvme : Bool := false
  deriving DecidableEq, Repr

namespace ProtocolSet

def empty : ProtocolSet := {}

def full : ProtocolSet := ⟨true, true, true⟩

def contains (s : ProtocolSet) : Protocol → Bool
  | .ata => s.ata
  | .scsi => s.scsi
  | .nvme => s.nvme

def insert (s : ProtocolSet) : Protocol → ProtocolSet
  | .ata => { s with ata := true }
  | .scsi => { s with scsi := true }
  | .nvme => { s with nvme := true }

def singleton (p : Protocol) : ProtocolSet := empty.insert p

def ofList (ps : List Protocol) : ProtocolSet := ps.foldl insert empty

def toList (s : ProtocolSet) : List Protocol := Protocol.all.filter s.contains

def isEmpty (s : ProtocolSet) : Bool := s.toList.isEmpty

def inter (s t : ProtocolSet) : ProtocolSet := ⟨s.ata && t.ata, s.scsi && t.scsi, s.nvme && t.nvme⟩

def text (s : ProtocolSet) : String := "+".intercalate (s.toList.map Protocol.name)

end ProtocolSet

end DriveHealth
