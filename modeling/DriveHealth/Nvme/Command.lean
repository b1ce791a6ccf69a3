import DriveHealth.Block
set_option autoImplicit false

namespace DriveHealth.Nvme

inductive Command where
  | identifyController
  | logPage (page : Nat) (length : Nat)
  deriving DecidableEq, Repr

namespace Command

def opcode : Command → Nat
  | .identifyController => 0x06
  | .logPage _ _ => 0x02

def nsid : Command → Nat
  | .identifyController => 0
  | .logPage _ _ => 0xffffffff

/-- For a log page, the page number with the count of 32-bit words, less one, from bit 16 on; the
length is cut to 32 bits first, and the count loses what does not fit in 16. -/
def cdw10 : Command → Nat
  | .identifyController => 1
  | .logPage page length => page ||| ((length % (1 <<< 32) / 4 - 1) <<< 16 % (1 <<< 32))

def dataLength : Command → Nat
  | .identifyController => 4096
  | .logPage _ length => length

def name : Command → String
  | .identifyController => "IDENTIFY CONTROLLER"
  | .logPage _ _ => "GET LOG PAGE"

end Command

end DriveHealth.Nvme
