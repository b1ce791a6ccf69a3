set_option autoImplicit false

namespace DriveHealth

inductive Defect where
  | truncated (what : String) (need got : Nat)
  | shortSector (got : Nat)
  | shortInquiry (got : Nat)
  | shortCapacity
  | malformedExceptions
  | shortModeSense
  | noCachingPage
  | described (text : String)
  deriving DecidableEq, Repr

def Defect.message : Defect → String
  | .truncated what need got => s!"{what}: need {need} bytes, got {got}"
  | .shortSector got => s!"short ATA reply ({got} bytes)"
  | .shortInquiry got => s!"short INQUIRY reply ({got} bytes)"
  | .shortCapacity => "short READ CAPACITY reply"
  | .malformedExceptions => "malformed Informational Exceptions log page"
  | .shortModeSense => "short MODE SENSE reply"
  | .noCachingPage => "caching mode page missing"
  | .described text => text

inductive ConfigDefect where
  | scanType (name : String)
  | identifyLevels
  | noDriveDatabase
  | unreadable
  | described (text : String)
  deriving DecidableEq, Repr

def ConfigDefect.message : ConfigDefect → String
  | .scanType name => s!"scan type '{name}' must be a non-empty word"
  | .identifyLevels => "identify levels out of range"
  | .noDriveDatabase => "drive database unavailable"
  | .unreadable => "unreadable document"
  | .described text => text

inductive Fault where
  | io (reason : String)
  | ioctl (reason : String)
  | noSuchDevice (name : String)
  | cannotOpen (name reason : String)
  | unavailable (reason : String)
  | unsupportedDevice
  | unknownType (name : String)
  | malformed (defect : Defect)
  | choiceOutOfRange (choice max : Int)
  | invalidConfig (defect : ConfigDefect)
  | commandFailed (command reason : String)
  deriving DecidableEq, Repr

def Fault.message : Fault → String
  | .io reason => s!"I/O Error: {reason}"
  | .ioctl reason => s!"Ioctl Error: {reason}"
  | .noSuchDevice name => s!"Device not found: {name}"
  | .cannotOpen name reason => s!"Unable to open {name}: {reason}"
  | .unavailable reason => s!"SMART interface unavailable: {reason}"
  | .unsupportedDevice => "The device or its protocol is not supported by this backend"
  | .unknownType name => s!"Unknown device type '{name}'"
  | .malformed defect => s!"Failed to parse device data: {defect.message}"
  | .choiceOutOfRange choice max => s!"Choice {choice} is outside 0..={max}"
  | .invalidConfig defect => s!"Invalid configuration: {defect.message}"
  | .commandFailed command reason => s!"{command} failed: {reason}"

end DriveHealth
