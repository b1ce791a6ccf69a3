import DriveHealth.Ata.PassThrough
import DriveHealth.Proofs.Conduct
import DriveHealth.Proofs.LogPage
set_option autoImplicit false

namespace DriveHealth

namespace Ata

/-- What an ATA PASS-THROUGH (16) command block says about its data. -/
structure TransferFields where
  protocol : UInt8
  /-- T_DIR: the data comes from the device. -/
  fromDevice : Bool
  /-- BYT_BLOK: the length counts blocks. -/
  countsBlocks : Bool
  /-- T_LENGTH: where the length is; 0 for no data, 2 for the sector count. -/
  lengthField : UInt8
  sectorCount : UInt8
  deriving DecidableEq

def TransferFields.ofCdb (cdb : List UInt8) : TransferFields where
  protocol := (cdb.getD 1 0 >>> 1) &&& 0x0f
  fromDevice := cdb.getD 2 0 &&& 0x08 != 0
  countsBlocks := cdb.getD 2 0 &&& 0x04 != 0
  lengthField := cdb.getD 2 0 &&& 0x03
  sectorCount := cdb.getD 6 0

def Direction.fields (count : UInt8) : Direction → TransferFields
  | .none => ⟨3, false, false, 0, count⟩
  | .inward => ⟨4, true, true, 2, count⟩
  | .outward => ⟨5, false, true, 2, count⟩

namespace Taskfile

theorem transferFields_passThrough (t : Taskfile) :
    TransferFields.ofCdb t.passThrough = t.direction.fields t.sectorCount := by
  cases hd : t.direction <;> cases he : t.extended <;> cases hw : t.wantsRegisters <;>
    simp [TransferFields.ofCdb, passThrough, Direction.fields, Direction.protocolCode,
      Direction.transferFlags, hd, he, hw] <;> decide

/-- The request for the state of an SCT feature, in the registers and in the 512 octets that go out:
action 4, function 2, the feature, and zeros. -/
structure AsksSctState (t : Taskfile) : Prop where
  command : t.command = 0xb0
  features : t.features = 0xd6
  address : t.lbaLow = 0xe0
  request : ∃ low high, t.dataOut = [4, 0, 2, 0, low, high] ++ List.replicate 506 0

/-- A command that changes nothing on the drive, and whose registers and command block describe its
data. -/
structure ReadOnly (t : Taskfile) : Prop where
  /-- IDENTIFY DEVICE, READ LOG EXT, SMART READ DATA, READ THRESHOLDS, READ LOG or RETURN STATUS, or the
  request for the state of an SCT feature. -/
  known : t.command = 0xec ∨ t.command = 0x2f ∨
    (t.command = 0xb0 ∧ t.features ∈ [0xd0, 0xd1, 0xd5, 0xda]) ∨ t.AsksSctState
  outward : t.direction = .outward → t.AsksSctState
  signature : t.command = 0xb0 → t.lbaMid = 0x4f ∧ t.lbaHigh = 0xc2
  dataOut : t.dataOut.length = if t.direction = .outward then 512 * t.sectorCount.toNat else 0
  sectorCount : (t.direction = .inward → t.sectorCount = 1) ∧ (t.direction = .none → t.sectorCount = 0)
  commandBlock : TransferFields.ofCdb t.passThrough = t.direction.fields t.sectorCount

end Taskfile

theorem sctStateRequest_eq (feature : Nat) :
    sctStateRequest feature =
      [4, 0, 2, 0, UInt8.ofNat feature, UInt8.ofNat (feature / 256)] ++ List.replicate 506 0 := by
  simp [-List.reduceReplicate, sctStateRequest, littleOctets, List.rightpad, sectorSize]

theorem Exam.Sends.readOnly {t : Taskfile} (h : Exam.Sends t) : t.ReadOnly := by
  cases h with
  | sctState feature =>
    have hs : (Taskfile.smartWriteLog 0xe0 (sctStateRequest feature)).AsksSctState :=
      ⟨rfl, rfl, rfl, _, _, sctStateRequest_eq feature⟩
    have hl : (sctStateRequest feature).length = 512 := by
      simp [-List.reduceReplicate, sctStateRequest_eq]
    exact ⟨.inr (.inr (.inr hs)), fun _ => hs, fun _ => ⟨rfl, rfl⟩, hl, ⟨nofun, nofun⟩,
      Taskfile.transferFields_passThrough _⟩
  | _ =>
    refine ⟨?_, ?_, ?_, ?_, ?_, Taskfile.transferFields_passThrough _⟩ <;>
      simp [Taskfile.identifyDevice, Taskfile.readLogExt, Taskfile.smartReadData,
        Taskfile.smartReadThresholds, Taskfile.smartReadLog, Taskfile.smartReturnStatus, Taskfile.smart]

end Ata

namespace Scsi.Command

def allocation? : List UInt8 → Option Nat
  | 0x12 :: rest => some (bigEndian ((rest.drop 2).take 2))
  | 0x4d :: rest => some (bigEndian ((rest.drop 6).take 2))
  | 0x5a :: rest => some (bigEndian ((rest.drop 6).take 2))
  | _ => none

/-- INQUIRY, READ CAPACITY (10), LOG SENSE or MODE SENSE (10), with room for all that may come back. -/
structure ReadOnly (c : Command) : Prop where
  known : c.cdb.head? ∈ [some 0x12, some 0x25, some 0x4d, some 0x5a]
  allocation : (c.cdb.head? = some 0x25 ∧ c.dataLength = 8) ∨ allocation? c.cdb = some c.dataLength

theorem bigEndian_allocationOctets (n : UInt16) : bigEndian (CommandBlock.allocationOctets n) = n.toNat := by
  have hn := n.toNat_lt
  simp only [CommandBlock.allocationOctets, bigEndian, List.reverse_cons, List.reverse_nil, List.nil_append,
    List.singleton_append, littleEndian, UInt16.toNat_toUInt8, UInt16.toNat_shiftRight]
  simp
  omega

theorem readOnly_logSense (page : UInt8) (allocation : UInt16) :
    ReadOnly ⟨.logSense page allocation, allocation.toNat⟩ :=
  ⟨by simp [cdb, CommandBlock.octets], .inr (congrArg some (bigEndian_allocationOctets allocation))⟩

theorem readOnly_modeSense (page : UInt8) (allocation : UInt16) :
    ReadOnly ⟨.modeSense page allocation, allocation.toNat⟩ :=
  ⟨by simp [cdb, CommandBlock.octets], .inr (congrArg some (bigEndian_allocationOctets allocation))⟩

end Scsi.Command

/-- The command block and the room for data are told apart, and agree. -/
theorem Scsi.Exam.Sends.readOnly {c : Scsi.Command} (h : Scsi.Exam.Sends c) : c.ReadOnly := by
  cases h with
  | inquiry => exact ⟨by decide, .inr rfl⟩
  | readCapacity => exact ⟨by decide, .inl ⟨rfl, rfl⟩⟩
  | caching => exact Scsi.Command.readOnly_modeSense 0x08 64
  | exceptions => exact Scsi.Command.readOnly_logSense 0x2f 252

namespace Nvme

/-- IDENTIFY of the controller or GET LOG PAGE, for as much data as there is room for. -/
structure Command.ReadOnly (c : Command) : Prop where
  known : c.opcode = 0x06 ∨ c.opcode = 0x02
  identify : c.opcode = 0x06 → c.cdw10 = 1 ∧ c.dataLength = 4096
  /-- The upper half of the word counts the 32-bit words of the page, less one. -/
  transfer : c.opcode = 0x02 → 4 * ((c.cdw10 >>> 16) + 1) = c.dataLength
  page : ∀ page length, c = .logPage page length → c.cdw10 % 0x10000 = page

theorem Command.cdw10_logPage {page words : Nat} (hp : page < 0x10000) (hw : words ≤ 0x10000) :
    (logPage page (4 * words)).cdw10 = (words - 1) <<< 16 + page := by
  -- the count fits into the upper half, so that neither cut changes it
  have hcount : (4 * words % 2 ^ 32 / 4 - 1) % 2 ^ 16 = words - 1 := by omega
  rw [cdw10_halves hp, hcount]

theorem Exam.Sends.readOnly {c : Command} (h : Exam.Sends c) : c.ReadOnly := by
  cases h with
  | identifyController => exact ⟨.inl rfl, fun _ => ⟨rfl, rfl⟩, nofun, nofun⟩
  | logPage page words hp h0 hw =>
    refine ⟨.inr rfl, nofun, fun _ => ?_, ?_⟩
    · rw [Command.cdw10_logPage hp hw, Command.dataLength]
      simp only [Nat.shiftLeft_eq, Nat.shiftRight_eq_div_pow]
      omega
    · rintro _ _ ⟨⟩
      rw [Command.cdw10_logPage hp hw, Nat.shiftLeft_eq]
      omega

end Nvme

namespace Task

def ReadOnly : (t : Task) → t.Command → Prop
  | .ata _ => Ata.Taskfile.ReadOnly
  | .scsi _ => Scsi.Command.ReadOnly
  | .nvme _ => Nvme.Command.ReadOnly

theorem Sends.readOnly {t : Task} {c : t.Command} (h : t.Sends c) : t.ReadOnly c := by
  cases t with
  | ata s => exact Ata.Exam.Sends.readOnly h
  | scsi s => exact Scsi.Exam.Sends.readOnly h
  | nvme s => exact Nvme.Exam.Sends.readOnly h

theorem commands_readOnly {σ : Type} (link : Link σ) (t : Task) (state : σ) (r : Recorder) :
    ∀ x ∈ (t.runLogged link state r).channel.2, t.ReadOnly x.1 := by
  rw [log_runLogged]
  rintro x hx
  obtain ⟨a, ha, hxa⟩ := List.mem_flatMap.1 hx
  have horderly := t.orderly_acts link state r.tolerance a ha
  cases a with
  | sent c reply success =>
    obtain rfl : x = (c, reply) := by simpa [Act.exchanges] using hxa
    exact Sends.readOnly horderly
  | _ => simp [Act.exchanges] at hxa

theorem commands_readOnly_silent :
    let run := (Task.ata { attributes := true }).runLogged .silent () (Recorder.start ⟨1, false⟩ {})
    (Ata.Taskfile.smartReadData, .error (.io "no answer")) ∈ run.channel.2 ∧
      Ata.Taskfile.smartReadData.ReadOnly := by
  have h : (Ata.Taskfile.smartReadData, .error (.io "no answer")) ∈
      ((Task.ata { attributes := true }).runLogged .silent () (Recorder.start ⟨1, false⟩ {})).channel.2 :=
    .tail _ (.head _)
  exact ⟨h, commands_readOnly .silent _ () _ _ h⟩

end Task

end DriveHealth
