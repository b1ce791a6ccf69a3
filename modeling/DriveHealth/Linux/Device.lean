import DriveHealth.Ata.PassThrough
import DriveHealth.Backend
import DriveHealth.Linux.Host
set_option autoImplicit false

namespace DriveHealth.Linux

inductive DeviceType where
  | ata
  /-- An ATA drive behind a bridge that takes SCSI commands. -/
  | sat
  | scsi
  | nvme
  deriving DecidableEq, Repr

namespace DeviceType

def all : List DeviceType := [.ata, .sat, .scsi, .nvme]

def name : DeviceType → String
  | .ata => "ata"
  | .sat => "sat"
  | .scsi => "scsi"
  | .nvme => "nvme"

def ofName? (s : String) : Option DeviceType := all.find? (·.name = s)

def protocol : DeviceType → Protocol
  | .ata => .ata
  | .sat => .ata
  | .scsi => .scsi
  | .nvme => .nvme

theorem ofName?_name (t : DeviceType) : ofName? t.name = some t := by cases t <;> decide

end DeviceType

/-- The last part of a path. Empty parts and single dots do not count; a path that ends by going up
has none. -/
def fileName? (path : List Char) : Option (List Char) :=
  (((path.splitOn '/').filter fun p => p ≠ [] ∧ p ≠ ['.']).getLast?).filter (· ≠ ['.', '.'])

def looksLikeNvme (path : String) : Bool :=
  (fileName? path.toList).any "nvme".toList.isPrefixOf

structure Device where
  name : String
  type : DeviceType
  protocols : ProtocolSet
  /-- The type that the caller asked for. Without one, a SCSI device is probed when it is opened. -/
  requested : Option DeviceType := none
  infoName : String := name
  isOpen : Bool := false
  lastError : Option String := none
  deriving DecidableEq, Repr

namespace Device

def ofName (name : String) (requested : Option DeviceType) : Device :=
  let type := requested.getD (if looksLikeNvme name then .nvme else .scsi)
  { name, type, protocols := .singleton type.protocol, requested }

def facts (d : Device) : DeviceFacts where
  name := d.name
  type := d.type.name
  infoName := d.infoName
  protocols := d.protocols
  isOpen := d.isOpen
  lastError := d.lastError

def bridged (d : Device) : Device :=
  { d with type := .sat, infoName := s!"{d.name} [SAT]", protocols := .singleton .ata }

def applyInquiry (d : Device) (i : Scsi.Inquiry) : Device := if i.isAta then d.bridged else d

def close (d : Device) : Device := { d with isOpen := false }

/-- The device, closed because of a fault. The fault of a file is told without saying what it is. -/
def failed (d : Device) (e : Fault) : Device :=
  { d with
    isOpen := false
    lastError := some (match e with
      | .io reason => reason
      | e => e.message) }

variable {σ : Type} (host : Host σ) (d : Device)

def notOpen (d : Device) : Fault := .cannotOpen d.name "device is not open"

def sendScsi (c : Scsi.Command) (s : σ) : Except Fault (List UInt8) × σ :=
  if d.isOpen then
    let transfer := if c.dataLength = 0 then .none else .inward c.dataLength
    let (outcome, s) := host.scsi d.name c.cdb transfer s
    (outcome.bind fun x =>
      match x.check false with
      | .ok () => .ok x.data
      | .error reason => .error (.commandFailed "SCSI command" reason), s)
  else (.error d.notOpen, s)

def transferOf (t : Ata.Taskfile) : Transfer :=
  match t.direction with
  | .none => .none
  | .inward => .inward (Ata.sectorSize * max 1 t.sectorCount.toNat)
  | .outward => .outward t.dataOut

/-- What an ATA command brings back; registers only if it asked for them and the sense data has them. -/
def responseOf (t : Ata.Taskfile) (x : Completion) : Ata.Response :=
  let data := if t.direction = .inward then x.data else []
  match if t.wantsRegisters then Scsi.AtaRegisters.ofSense? x.sense else none with
  | some r => ⟨data, r.sectorCount, r.lbaMid, r.lbaHigh⟩
  | none => { data }

def sendAta (t : Ata.Taskfile) (s : σ) : Except Fault Ata.Response × σ :=
  if d.isOpen then
    let (outcome, s) := host.scsi d.name t.passThrough (transferOf t) s
    (outcome.bind fun x =>
      match x.check t.wantsRegisters with
      | .ok () => .ok (responseOf t x)
      | .error reason => .error (.commandFailed t.name reason), s)
  else (.error d.notOpen, s)

def sendNvme (c : Nvme.Command) (s : σ) : Except Fault (List UInt8) × σ :=
  if d.isOpen then
    let (outcome, s) := host.nvme d.name c s
    (outcome.bind fun x =>
      if x.status = 0 then .ok x.data
      else .error (.ioctl
        s!"NVMe admin opcode 0x{Text.hex 2 c.opcode} status 0x{Text.hex 4 x.status}"), s)
  else (.error d.notOpen, s)

def link : Link σ where
  ata := ⟨d.sendAta host⟩
  scsi := ⟨d.sendScsi host⟩
  nvme := ⟨d.sendNvme host⟩

/-- Asks an open SCSI device what it is. -/
def probe (s : σ) : Device × σ :=
  let (reply, s) := d.sendScsi host .inquiry s
  match reply.bind Scsi.Inquiry.decode with
  | .ok i => (d.applyInquiry i, s)
  | .error e => (d.failed e, s)

/-- Opens a device; a SCSI device whose type nobody asked for is probed. -/
def connect (s : σ) : Device × σ :=
  let (opened, s) := host.openFile d.name s
  match opened with
  | .error e => (d.failed e, s)
  | .ok () =>
    let d := { d with isOpen := true }
    if d.requested = some .sat then (d.bridged, s)
    else if d.requested = none ∧ d.type = .scsi then d.probe host s
    else (d, s)

end Device

end DriveHealth.Linux
