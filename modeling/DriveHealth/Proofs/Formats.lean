import DriveHealth.Proofs.CheckedAta
import DriveHealth.Proofs.CheckedNvme
import DriveHealth.Proofs.CheckedScsi
set_option autoImplicit false

namespace DriveHealth

inductive Format where
  | identity
  | smartData
  | thresholds
  | directory
  | summaryErrors
  | extErrors
  | selfTests
  | extSelfTests
  | selectiveLog
  | sctStatus
  | statistics
  | pendingDefects
  | phyCounters
  | sense
  | registers
  | inquiry
  | capacity
  | exceptions
  | caching
  | controller
  | health
  | errorLog
  | nvmeSelfTests
  deriving DecidableEq, Repr

namespace Format

def Result : Format → Type
  | identity => Ata.Identity
  | smartData => Ata.SmartData
  | thresholds => List Ata.Threshold
  | directory => Ata.LogDirectory
  | summaryErrors | extErrors => Ata.ErrorCount
  | selfTests | extSelfTests => Ata.SelfTestLog
  | selectiveLog => Ata.SelectiveLog
  | sctStatus => Ata.SctTemperatures
  | statistics => List Nat
  | pendingDefects => Nat
  | phyCounters => List Ata.PhyCounter
  | sense => Option Scsi.Sense
  | registers => Option Scsi.AtaRegisters
  | inquiry => Scsi.Inquiry
  | capacity => Scsi.Capacity
  | exceptions => Scsi.Exceptions
  | caching => Scsi.Caching
  | controller => Nvme.Controller
  | health => Nvme.Health
  | errorLog => List Nvme.ErrorEntry
  | nvmeSelfTests => Nvme.SelfTestLog

def decode : (f : Format) → List UInt8 → Except Fault f.Result
  | identity, bs => Ata.Identity.decode bs
  | smartData, bs => Ata.SmartData.decode bs
  | thresholds, bs => Ata.Threshold.decodeAll bs
  | directory, bs => Ata.LogDirectory.decode bs
  | summaryErrors, bs => Ata.ErrorCount.decodeSummary bs
  | extErrors, bs => Ata.ErrorCount.decodeExt bs
  | selfTests, bs => Ata.SelfTestLog.decode bs
  | extSelfTests, bs => Ata.SelfTestLog.decodeExt bs
  | selectiveLog, bs => Ata.SelectiveLog.decode bs
  | sctStatus, bs => Ata.SctTemperatures.decode bs
  | statistics, bs => Ata.decodeStatisticsPages bs
  | pendingDefects, bs => Ata.decodePendingDefects bs
  | phyCounters, bs => Ata.PhyCounter.decodeAll bs
  | sense, bs => .ok (Scsi.Sense.ofOctets? bs)
  | registers, bs => .ok (Scsi.AtaRegisters.ofSense? bs)
  | inquiry, bs => Scsi.Inquiry.decode bs
  | capacity, bs => Scsi.Capacity.decode bs
  | exceptions, bs => Scsi.Exceptions.decode bs
  | caching, bs => Scsi.Caching.decode bs
  | controller, bs => Nvme.Controller.decode bs
  | health, bs => Nvme.Health.decode bs
  | errorLog, bs => .ok (Nvme.ErrorEntry.decodeAll bs)
  | nvmeSelfTests, bs => Nvme.SelfTestLog.decode bs

/-- The same, found in checked arithmetic. -/
def parse : (f : Format) → List UInt8 → Checked (Except Fault f.Result)
  | identity, bs => Ata.Identity.parse bs
  | smartData, bs => Ata.SmartData.parse bs
  | thresholds, bs => Ata.Threshold.parseAll bs
  | directory, bs => Ata.LogDirectory.parse bs
  | summaryErrors, bs => Ata.ErrorCount.parseSummary bs
  | extErrors, bs => Ata.ErrorCount.parseExt bs
  | selfTests, bs => Ata.SelfTestLog.parse bs
  | extSelfTests, bs => Ata.SelfTestLog.parseExt bs
  | selectiveLog, bs => Ata.SelectiveLog.parse bs
  | sctStatus, bs => Ata.SctTemperatures.parse bs
  | statistics, bs => Ata.parseStatisticsPages bs
  | pendingDefects, bs => Ata.parsePendingDefects bs
  | phyCounters, bs => Ata.PhyCounter.parseAll bs
  | sense, bs => do return .ok (← Scsi.Sense.parse bs)
  | registers, bs => do return .ok (← Scsi.AtaRegisters.parse bs)
  | inquiry, bs => Scsi.Inquiry.parse bs
  | capacity, bs => Scsi.Capacity.parse bs
  | exceptions, bs => Scsi.Exceptions.parse bs
  | caching, bs => Scsi.Caching.parse bs
  | controller, bs => Nvme.Controller.parse bs
  | health, bs => Nvme.Health.parse bs
  | errorLog, bs => do return .ok (← Nvme.ErrorEntry.parseAll bs)
  | nvmeSelfTests, bs => Nvme.SelfTestLog.parse bs

theorem parse_eq (f : Format) (bs : List UInt8) : f.parse bs = .ok (f.decode bs) := by
  cases f with
  | identity => exact Ata.Identity.parse_eq bs
  | smartData => exact Ata.SmartData.parse_eq bs
  | thresholds => exact Ata.Threshold.parseAll_eq bs
  | directory => exact Ata.LogDirectory.parse_eq bs
  | summaryErrors => exact Ata.ErrorCount.parseSummary_eq bs
  | extErrors => exact Ata.ErrorCount.parseExt_eq bs
  | selfTests => exact Ata.SelfTestLog.parse_eq bs
  | extSelfTests => exact Ata.SelfTestLog.parseExt_eq bs
  | selectiveLog => exact Ata.SelectiveLog.parse_eq bs
  | sctStatus => exact Ata.SctTemperatures.parse_eq bs
  | statistics => exact Ata.parseStatisticsPages_eq bs
  | pendingDefects => exact Ata.parsePendingDefects_eq bs
  | phyCounters => exact Ata.PhyCounter.parseAll_eq bs
  | sense => rw [parse, Scsi.Sense.parse_eq]; rfl
  | registers => rw [parse, Scsi.AtaRegisters.parse_eq]; rfl
  | inquiry => exact Scsi.Inquiry.parse_eq bs
  | capacity => exact Scsi.Capacity.parse_eq bs
  | exceptions => exact Scsi.Exceptions.parse_eq bs
  | caching => exact Scsi.Caching.parse_eq bs
  | controller => exact Nvme.Controller.parse_eq bs
  | health => exact Nvme.Health.parse_eq bs
  | errorLog => rw [parse, Nvme.ErrorEntry.parseAll_eq]; rfl
  | nvmeSelfTests => exact Nvme.SelfTestLog.parse_eq bs

/-- How many octets data of a format takes, as far as it tells this itself. -/
def need (bs : List UInt8) : Format → Nat
  | identity | smartData | thresholds | directory | summaryErrors | extErrors | selfTests | extSelfTests
  | selectiveLog | sctStatus | statistics | pendingDefects | phyCounters | health => 512
  | controller => 4096
  | nvmeSelfTests => 564
  | errorLog => Nvme.ErrorEntry.size
  | inquiry => 36
  | capacity => 8
  | exceptions => 10
  | caching =>
    match Block.ofOctets? 8 bs with
    | none => 8
    | some header => 8 + header.big 6 2 + 3
  | sense =>
    match Scsi.senseFormat? bs with
    | none | some .descriptor => 4
    | some .fixed => 14
  | registers =>
    match Scsi.senseFormat? bs with
    | none | some .descriptor => 8
    | some .fixed => 12

/-- The outcome that stands for too few octets: nothing where data may be of any length, else an error
that says that the data could not be read. -/
def Lacking : (f : Format) → Except Fault f.Result → Prop
  | sense, r => r = .ok none
  | registers, r => r = .ok none
  | errorLog, r => r = .ok []
  | _, r => ∃ defect, r = .error (.malformed defect)

theorem require_short {n : Nat} {what : String} {bs : List UInt8} (h : bs.length < n) :
    Block.require n what bs = .error (.malformed (.truncated what n bs.length)) :=
  dif_neg (Nat.not_le.2 h)

theorem bind_require_short {α : Type} {n : Nat} {what : String} {bs : List UInt8} {g : Block n → α}
    (h : bs.length < n) : (do let b ← Block.require n what bs; return g b) =
      .error (.malformed (.truncated what n bs.length)) := by
  rw [require_short h]
  rfl

section

variable {bs : List UInt8}

theorem sense_short (h : bs.length < sense.need bs) : Scsi.Sense.ofOctets? bs = none := by
  cases hformat : Scsi.senseFormat? bs with
  | none => simp [Scsi.Sense.ofOctets?, hformat]
  | some form =>
    cases form <;>
    · simp only [need, hformat] at h
      simp [Scsi.Sense.ofOctets?, hformat, Checked.ofOctets?_short h]

theorem registers_short (h : bs.length < registers.need bs) : Scsi.AtaRegisters.ofSense? bs = none := by
  cases hformat : Scsi.senseFormat? bs with
  | none => simp [Scsi.AtaRegisters.ofSense?, hformat]
  | some form =>
    cases form <;>
    · simp only [need, hformat] at h
      simp [Scsi.AtaRegisters.ofSense?, hformat, Checked.ofOctets?_short h]

theorem inquiry_short (h : bs.length < 36) :
    Scsi.Inquiry.decode bs = .error (.malformed (.shortInquiry bs.length)) := by
  simp [Scsi.Inquiry.decode, Checked.ofOctets?_short h]

theorem capacity_short (h : bs.length < 8) : Scsi.Capacity.decode bs = .error (.malformed .shortCapacity) := by
  simp [Scsi.Capacity.decode, Checked.ofOctets?_short h]

theorem exceptions_short (h : bs.length < 10) :
    Scsi.Exceptions.decode bs = .error (.malformed .malformedExceptions) := by
  simp [Scsi.Exceptions.decode, Checked.ofOctets?_short h]

theorem caching_short (h : bs.length < caching.need bs) :
    ∃ defect, Scsi.Caching.decode bs = .error (.malformed defect) := by
  rcases Nat.lt_or_ge bs.length 8 with hn | hn
  · exact ⟨.shortModeSense, by simp [Scsi.Caching.decode, Checked.ofOctets?_short hn]⟩
  · obtain ⟨header, rfl⟩ := Checked.exists_block hn
    simp only [need, Checked.ofOctets?_octets] at h
    have hpage : Block.ofOctets? 3 (header.octets.drop (8 + header.big 6 2)) = none := by
      refine Checked.ofOctets?_short ?_
      rw [List.length_drop]
      omega
    exact ⟨.noCachingPage, by simp [Scsi.Caching.decode, Checked.ofOctets?_octets, hpage]⟩

theorem errorLog_short (h : bs.length < Nvme.ErrorEntry.size) : Nvme.ErrorEntry.decodeAll bs = [] := by
  have hnone : bs.length / Nvme.ErrorEntry.size = 0 := Nat.div_eq_of_lt h
  have hparse := Nvme.ErrorEntry.parseAll_eq bs
  rw [Nvme.ErrorEntry.parseAll, Checked.chunks, hnone] at hparse
  exact (Except.ok.inj hparse).symm

end

theorem lacking_of_short (f : Format) (bs : List UInt8) (h : bs.length < f.need bs) :
    f.Lacking (f.decode bs) := by
  cases f with
  | identity | smartData | thresholds | directory | summaryErrors | extErrors | selfTests | extSelfTests
  | selectiveLog | sctStatus | statistics | pendingDefects | phyCounters | health | controller
  | nvmeSelfTests => exact ⟨_, bind_require_short h⟩
  | sense => exact congrArg Except.ok (sense_short h)
  | registers => exact congrArg Except.ok (registers_short h)
  | inquiry => exact ⟨_, inquiry_short h⟩
  | capacity => exact ⟨_, capacity_short h⟩
  | exceptions => exact ⟨_, exceptions_short h⟩
  | caching => exact caching_short h
  | errorLog => exact congrArg Except.ok (errorLog_short h)

end Format

end DriveHealth
