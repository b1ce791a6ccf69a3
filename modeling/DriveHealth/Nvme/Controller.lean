import DriveHealth.Block
import DriveHealth.Text.Blank
import DriveHealth.Text.Utf8
set_option autoImplicit false

namespace DriveHealth.Nvme

structure Controller where
  vendorId : Nat
  subsystemVendorId : Nat
  serial : String
  model : String
  firmware : String
  ieeeOui : Nat
  controllerId : Nat
  version : Nat
  adminCommands : Nat
  errorLogEntries : Nat
  powerStates : Nat
  warningKelvin : Nat
  criticalKelvin : Nat
  totalCapacity : Nat
  namespaces : Nat
  nvmCommands : Nat
  writeCache : Bool
  deriving DecidableEq, Repr

namespace Controller

/-- Text without the spaces and NULs around it; other blanks stay. -/
def text (bs : List UInt8) : String :=
  String.ofList (Text.stripped (fun c => c == ' ' || c == '\x00') (Text.Utf8.decodeLossy bs))

/-- Error log entries and power states are counted from 0. -/
def ofBlock (b : Block 4096) : Controller where
  vendorId := b.little 0 2
  subsystemVendorId := b.little 2 2
  serial := text (b.slice 4 20).octets
  model := text (b.slice 24 40).octets
  firmware := text (b.slice 64 8).octets
  ieeeOui := b.little 73 3
  controllerId := b.little 78 2
  version := b.little 80 4
  adminCommands := b.little 256 2
  errorLogEntries := b.byte 262 + 1
  powerStates := b.byte 263 + 1
  warningKelvin := b.little 266 2
  criticalKelvin := b.little 268 2
  totalCapacity := b.little 280 16
  namespaces := b.little 516 4
  nvmCommands := b.little 520 2
  writeCache := (b.byte 525).testBit 0

def decode (bs : List UInt8) : Except Fault Controller :=
  return ofBlock (← Block.require 4096 "IDENTIFY CONTROLLER" bs)

def versionText (c : Controller) : String :=
  let major := c.version / 65536
  let minor := c.version / 256 % 256
  let tertiary := c.version % 256
  if c.version = 0 then "<1.2"
  else if tertiary = 0 then s!"{major}.{minor}"
  else s!"{major}.{minor}.{tertiary}"

def hasSelfTest (c : Controller) : Bool := c.adminCommands.testBit 4

end Controller

end DriveHealth.Nvme
