import DriveHealth.Block
set_option autoImplicit false

namespace DriveHealth.Scsi

inductive CommandBlock where
  | inquiry (allocation : UInt8)
  | readCapacity
  | logSense (page : UInt8) (allocation : UInt16)
  | modeSense (page : UInt8) (allocation : UInt16)
  deriving DecidableEq, Repr

namespace CommandBlock

def allocationOctets (n : UInt16) : List UInt8 := [(n >>> 8).toUInt8, n.toUInt8]

/-- Current cumulative values for LOG SENSE; current values without block descriptors for
MODE SENSE (10). -/
def octets : CommandBlock → List UInt8
  | .inquiry allocation => [0x12, 0, 0, 0, allocation, 0]
  | .readCapacity => [0x25, 0, 0, 0, 0, 0, 0, 0, 0, 0]
  | .logSense page allocation =>
    [0x4d, 0, 0x40 ||| (page &&& 0x3f), 0, 0, 0, 0] ++ allocationOctets allocation ++ [0]
  | .modeSense page allocation =>
    [0x5a, 0x08, page &&& 0x3f, 0, 0, 0, 0] ++ allocationOctets allocation ++ [0]

def name : CommandBlock → String
  | .inquiry _ => "INQUIRY"
  | .readCapacity => "READ CAPACITY(10)"
  | .logSense _ _ => "LOG SENSE"
  | .modeSense _ _ => "MODE SENSE(10)"

end CommandBlock

structure Command where
  block : CommandBlock
  dataLength : Nat
  deriving DecidableEq, Repr

namespace Command

def cdb (c : Command) : List UInt8 := c.block.octets

def name (c : Command) : String := c.block.name

def inquiry : Command := ⟨.inquiry 36, 36⟩

def readCapacity : Command := ⟨.readCapacity, 8⟩

def caching : Command := ⟨.modeSense 0x08 64, 64⟩

def exceptions : Command := ⟨.logSense 0x2f 252, 252⟩

end Command

end DriveHealth.Scsi
