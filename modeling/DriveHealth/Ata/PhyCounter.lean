import DriveHealth.Ata.Taskfile
set_option autoImplicit false

namespace DriveHealth.Ata

structure PhyCounter where
  id : Nat
  value : Nat
  deriving DecidableEq, Repr

namespace PhyCounter

/-- Reads counters until one has identifier 0, no size, or a value that goes past the end. Values are
cut to 64 bits. -/
def walk (bs : List UInt8) : List PhyCounter :=
  match bs with
  | lo :: hi :: rest =>
    let header := littleEndian [lo, hi]
    let id := header % 4096
    let size := header / 4096 % 8 * 2
    if id = 0 ∨ size = 0 ∨ rest.length < size then []
    else ⟨id, littleEndian (rest.take size) % (1 <<< 64)⟩ :: walk (rest.drop size)
  | _ => []
termination_by bs.length
decreasing_by simp; omega

/-- The counters lie between the first four octets of the GP log 11 and its last four. -/
def decodeAll (bs : List UInt8) : Except Fault (List PhyCounter) :=
  return walk ((← Block.require 512 "SATA Phy event counters" bs).slice 4 504).octets

def name (id : Nat) : String :=
  match id with
  | 0x001 => "Command failed due to ICRC error"
  | 0x002 => "R_ERR response for data FIS"
  | 0x003 => "R_ERR response for device-to-host data FIS"
  | 0x004 => "R_ERR response for host-to-device data FIS"
  | 0x005 => "R_ERR response for non-data FIS"
  | 0x006 => "R_ERR response for device-to-host non-data FIS"
  | 0x007 => "R_ERR response for host-to-device non-data FIS"
  | 0x008 => "Device-to-host non-data FIS retries"
  | 0x009 => "Transition from drive PhyRdy to drive PhyNRdy"
  | 0x00a => "Device-to-host register FISes sent due to a COMRESET"
  | 0x00b => "CRC errors within host-to-device FIS"
  | 0x00d => "Non-CRC errors within host-to-device FIS"
  | 0x00f => "R_ERR response for host-to-device data FIS, CRC"
  | 0x010 => "R_ERR response for host-to-device data FIS, non-CRC"
  | 0x012 => "R_ERR response for host-to-device non-data FIS, CRC"
  | 0x013 => "R_ERR response for host-to-device non-data FIS, non-CRC"
  | _ => "Unknown"

end PhyCounter

end DriveHealth.Ata
