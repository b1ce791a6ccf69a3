import DriveHealth.Proofs.Always
set_option autoImplicit false

namespace DriveHealth

open Procedure

theorem Procedure.orderly_send {Cmd Reply : Type} {ok : Cmd → Prop} {c : Cmd}
    {Q : Except Fault Reply → Prop} (hc : ok c) (hQ : ∀ x, Q x) :
    (send c : Procedure Cmd Reply _).always (Act.Orderly ok) Q := fun x => ⟨hc, hQ x⟩

namespace Ata

inductive Exam.Sends : Taskfile → Prop where
  | identifyDevice : Sends .identifyDevice
  | smartReadData : Sends .smartReadData
  | smartReadThresholds : Sends .smartReadThresholds
  | smartReturnStatus : Sends .smartReturnStatus
  | smartReadLog (address : UInt8) : Sends (.smartReadLog address)
  | readLogExt (address page : UInt8) : Sends (.readLogExt address page)
  | sctState (feature : Nat) : Sends (.smartWriteLog 0xe0 (sctStateRequest feature))

namespace Exam

variable {α : Type}

theorem orderly_read {t : Taskfile} {decode : List UInt8 → Except Fault α} {Q : Except Fault α → Prop}
    (ht : Sends t) (hQ : ∀ x, Q x) : (read t decode).always (Act.Orderly Sends) Q := by
  rw [read, always_bind]
  exact orderly_send ht fun x => hQ _

@[simp] theorem orderly_unread (what : String) (e : Fault) :
    (unread what e).always (Act.Orderly Sends) fun _ => True := by
  simp [unread]

theorem orderly_show? {what : String} {t : Taskfile} {decode : List UInt8 → Except Fault α}
    {present : α → Exam Unit} (ht : Sends t)
    (hp : ∀ a, (present a).always (Act.Orderly Sends) fun _ => True) :
    (show? what t decode present).always (Act.Orderly Sends) fun _ => True := by
  rw [show?, always_bind]
  refine orderly_read ht fun x => ?_
  cases x with
  | ok a => exact hp a
  | error e => simp

@[simp] theorem orderly_driveInfo (id : Identity) (s : Sections) :
    (driveInfo id s).always (Act.Orderly Sends) fun _ => True := by
  rcases hr : id.rotationRate? with _ | _ | rpm <;> simp [driveInfo, hr]

theorem endsLine_wordLines {i w : Nat} {wordLevel bitLevel : Int} {l : String}
    (h : l ∈ wordLines i w wordLevel bitLevel) : EndsLine l := by
  rw [wordLines] at h
  split at h
  · simp at h
  · obtain rfl | h := List.mem_cons.1 h
    · simp
    · simp only [bitLines, List.mem_map] at h
      obtain ⟨k, -, rfl⟩ := h
      simp

@[simp] theorem orderly_dump (id : Identity) (wordLevel bitLevel : Int) :
    (dump id wordLevel bitLevel).always (Act.Orderly Sends) fun _ => True := by
  have h : ∀ l ∈ (id.words.mapIdx fun i w => wordLines i w wordLevel bitLevel).flatten,
      (print l : Exam Unit).always (Act.Orderly Sends) fun _ => True := by
    intro l hl
    obtain ⟨ls, hls, hl⟩ := List.mem_flatten.1 hl
    obtain ⟨i, hi, rfl⟩ := List.mem_mapIdx.1 hls
    simp [endsLine_wordLines hl]
  simp [dump, -always_forM, always_forM.2 h]

@[simp] theorem orderly_levelSetting (label key : String) (supported on : Bool) (level : Nat)
    (text : String) :
    (levelSetting label key supported on level text).always (Act.Orderly Sends) fun _ => True := by
  simp [levelSetting]

@[simp] theorem orderly_switchSetting (label key : String) (supported on : Bool) :
    (switchSetting label key supported on).always (Act.Orderly Sends) fun _ => True := by
  simp [switchSetting]

@[simp] theorem orderly_security (w : Nat) :
    (security w).always (Act.Orderly Sends) fun _ => True := by
  simp [security]

theorem orderly_sctState {feature : Nat} {Q : Except Fault Nat → Prop} (hQ : ∀ x, Q x) :
    (sctState feature).always (Act.Orderly Sends) Q := by
  rw [sctState, always_bind]
  exact orderly_send (.sctState feature) fun x => hQ _

@[simp] theorem orderly_sctReorder (id : Identity) :
    (sctReorder id).always (Act.Orderly Sends) fun _ => True := by
  rw [sctReorder, always_ite]
  split
  · simp
  · rw [always_bind]
    refine orderly_sctState fun x => ?_
    cases x <;> simp

@[simp] theorem orderly_sctWriteCache (id : Identity) :
    (sctWriteCache id).always (Act.Orderly Sends) fun _ => True := by
  rw [sctWriteCache, always_ite]
  split
  · simp
  · rw [always_bind]
    refine orderly_sctState fun x => ?_
    cases x <;> simp

@[simp] theorem orderly_settings (id : Identity) (s : Sections) :
    (settings id s).always (Act.Orderly Sends) fun _ => True := by
  simp [settings, aam, apm]

@[simp] theorem orderly_health : health.always (Act.Orderly Sends) fun _ => True := by
  rw [health, always_bind]
  refine orderly_send .smartReturnStatus fun x => ?_
  cases x with
  | error e => simp
  | ok r =>
    rcases h : r.smartPassed? with _ | _ | _ <;> simp [h]

@[simp] theorem orderly_generalValues (d : SmartData) :
    (generalValues d).always (Act.Orderly Sends) fun _ => True := by
  simp [generalValues]

@[simp] theorem endsLine_attributeLine (f : TableFormat) (r : AttributeRow) : EndsLine (r.line f) := by
  simp only [AttributeRow.line]
  split <;> exact endsLine_line _

@[simp] theorem orderly_attributes (d : SmartData) (ts : List Threshold) (f : TableFormat) :
    (attributes d ts f).always (Act.Orderly Sends) fun _ => True := by
  simp [attributes]

@[simp] theorem orderly_thresholds : thresholds.always (Act.Orderly Sends) fun _ => True := by
  rw [thresholds, always_bind]
  refine orderly_read .smartReadThresholds fun x => ?_
  cases x <;> simp

@[simp] theorem orderly_smartData (s : Sections) :
    (smartData s).always (Act.Orderly Sends) fun _ => True :=
  orderly_show? .smartReadData fun d => by simp

@[simp] theorem orderly_directory (name short key : String) (d : LogDirectory) :
    (directory name short key d).always (Act.Orderly Sends) fun _ => True := by
  simp [directory]

theorem orderly_directory? (wanted : Bool) (name short key : String) {t : Taskfile} (ht : Sends t) :
    (directory? wanted name short key t).always (Act.Orderly Sends) fun _ => True := by
  rw [directory?, always_ite]
  split
  · rw [always_bind]
    refine orderly_read ht fun x => ?_
    cases x <;> simp
  · simp

@[simp] theorem orderly_logDirectories (s : Sections) :
    (logDirectories s).always (Act.Orderly Sends) fun _ => True := by
  simp [logDirectories, orderly_directory?, Sends.readLogExt, Sends.smartReadLog]

@[simp] theorem orderly_summaryErrors : summaryErrors.always (Act.Orderly Sends) fun _ => True :=
  orderly_show? (.smartReadLog 0x01) fun e => by simp

@[simp] theorem orderly_extErrors (s : Sections) :
    (extErrors s).always (Act.Orderly Sends) fun _ => True := by
  rw [extErrors, always_bind]
  refine orderly_read (.readLogExt 0x03 0) fun x => ?_
  cases x <;> simp

@[simp] theorem orderly_errorLogs (s : Sections) :
    (errorLogs s).always (Act.Orderly Sends) fun _ => True := by
  simp [errorLogs]

@[simp] theorem endsLine_selfTestLine (number : Nat) (t : SelfTest) :
    EndsLine (selfTestLine number t) :=
  endsLine_line _

@[simp] theorem orderly_selfTestTable (log : SelfTestLog) (limit : Option Nat) (field : String) :
    (selfTestTable log limit field).always (Act.Orderly Sends) fun _ => True := by
  simp [selfTestTable]

@[simp] theorem orderly_standardSelfTests :
    standardSelfTests.always (Act.Orderly Sends) fun _ => True :=
  orderly_show? (.smartReadLog 0x06) fun log => by simp

@[simp] theorem orderly_extSelfTests (s : Sections) :
    (extSelfTests s).always (Act.Orderly Sends) fun _ => True := by
  rw [extSelfTests, always_bind]
  refine orderly_read (.readLogExt 0x07 0) fun x => ?_
  cases x <;> simp

@[simp] theorem orderly_selfTestLogs (s : Sections) :
    (selfTestLogs s).always (Act.Orderly Sends) fun _ => True := by
  simp [selfTestLogs]

@[simp] theorem orderly_selectiveLog : selectiveLog.always (Act.Orderly Sends) fun _ => True :=
  orderly_show? (.smartReadLog 0x09) fun log => by simp

@[simp] theorem orderly_sctTemperatures : sctTemperatures.always (Act.Orderly Sends) fun _ => True :=
  orderly_show? (.smartReadLog 0xe0) fun t => by simp

@[simp] theorem orderly_statistics : statistics.always (Act.Orderly Sends) fun _ => True :=
  orderly_show? (.readLogExt 0x04 0) fun pages => by simp

@[simp] theorem orderly_pendingDefects (limit : Nat) :
    (pendingDefects limit).always (Act.Orderly Sends) fun _ => True :=
  orderly_show? (.readLogExt 0x0c 0) fun count => by simp

@[simp] theorem orderly_phyCounters : phyCounters.always (Act.Orderly Sends) fun _ => True :=
  orderly_show? (.readLogExt 0x11 0) fun counters => by simp

theorem orderly_identity? : identity?.always (Act.Orderly Sends) fun _ => True := by
  rw [identity?, always_bind]
  refine orderly_read .identifyDevice fun x => ?_
  cases x <;> simp

theorem orderly_identitySections (s : Sections) (id : Identity) :
    (identitySections s id).always (Act.Orderly Sends) fun _ => True := by
  simp [identitySections]

theorem orderly_smartSections (s : Sections) :
    (smartSections s).always (Act.Orderly Sends) fun _ => True := by
  simp [smartSections, unsupported]

theorem orderly_all (s : Sections) : (all s).always (Act.Orderly Sends) fun _ => True := by
  rw [all, always_bind]
  refine orderly_identity?.mono (fun _ => id) fun x _ => ?_
  cases x with
  | none => exact orderly_smartSections s
  | some i => simp [orderly_identitySections, orderly_smartSections]

end Exam

end Ata

namespace Scsi.Exam

variable {α : Type}

inductive Sends : Command → Prop where
  | inquiry : Sends .inquiry
  | readCapacity : Sends .readCapacity
  | caching : Sends .caching
  | exceptions : Sends .exceptions

theorem orderly_read {c : Command} {decode : List UInt8 → Except Fault α} {Q : Except Fault α → Prop}
    (hc : Sends c) (hQ : ∀ x, Q x) : (read c decode).always (Act.Orderly Sends) Q := by
  rw [read, always_bind]
  exact orderly_send hc fun x => hQ _

@[simp] theorem orderly_capacity : capacity.always (Act.Orderly Sends) fun _ => True := by
  rw [capacity, always_bind]
  refine orderly_read .readCapacity fun x => ?_
  cases x <;> simp

@[simp] theorem orderly_driveInfo (i : Inquiry) :
    (driveInfo i).always (Act.Orderly Sends) fun _ => True := by
  simp [driveInfo]

@[simp] theorem orderly_caches (s : Sections) :
    (caches s).always (Act.Orderly Sends) fun _ => True := by
  rw [caches, always_bind]
  refine orderly_read .caching fun x => ?_
  cases x <;> simp

@[simp] theorem orderly_health (requests : Nat) :
    (health requests).always (Act.Orderly Sends) fun _ => True := by
  rw [health, always_bind]
  refine orderly_read .exceptions fun x => ?_
  cases x with
  | error e => simp
  | ok x => cases h : x.temperature <;> simp [h]

theorem orderly_inquiry? : inquiry?.always (Act.Orderly Sends) fun _ => True := by
  rw [inquiry?, always_bind]
  refine orderly_read .inquiry fun x => ?_
  cases x <;> simp

theorem orderly_all (s : Sections) : (all s).always (Act.Orderly Sends) fun _ => True := by
  rw [all, always_bind]
  refine orderly_inquiry?.mono (fun _ => id) fun x _ => ?_
  cases x <;> simp [unsupported]

end Scsi.Exam

namespace Nvme

/-- The commands of an examination. A log page comes in whole words, as many as 16 bits can count. -/
inductive Exam.Sends : Command → Prop where
  | identifyController : Sends .identifyController
  | logPage (page words : Nat) (hp : page < 0x10000) (h0 : 0 < words) (hw : words ≤ 0x10000) :
    Sends (.logPage page (4 * words))

namespace Exam

variable {α : Type}

theorem orderly_read {c : Command} {decode : List UInt8 → Except Fault α} {Q : Except Fault α → Prop}
    (hc : Sends c) (hQ : ∀ x, (∀ a, x = .ok a → ∃ bs, decode bs = .ok a) → Q x) :
    (read c decode).always (Act.Orderly Sends) Q := by
  intro reply
  refine ⟨hc, hQ _ fun a ha => ?_⟩
  cases reply with
  | ok bs => exact ⟨bs, ha⟩
  | error e => cases ha

theorem errorLogEntries_le {bs : List UInt8} {c : Controller} (h : Controller.decode bs = .ok c) :
    c.errorLogEntries ≤ 256 := by
  rw [Controller.decode, Block.require] at h
  split at h
  · cases h
    exact Block.byte_lt ..
  · cases h

theorem orderly_controller? : controller?.always (Act.Orderly Sends) fun c =>
    ∀ x ∈ c, x.errorLogEntries ≤ 256 := by
  rw [controller?, always_bind]
  refine orderly_read .identifyController fun x hx => ?_
  cases x with
  | error e => simp
  | ok c =>
    obtain ⟨bs, hbs⟩ := hx c rfl
    simpa using errorLogEntries_le hbs

@[simp] theorem orderly_driveInfo (c : Controller) :
    (driveInfo c).always (Act.Orderly Sends) fun _ => True := by
  simp [driveInfo]

@[simp] theorem orderly_capabilities (c : Controller) :
    (capabilities c).always (Act.Orderly Sends) fun _ => True := by
  simp [capabilities]

@[simp] theorem orderly_verdict (h : Health) :
    (verdict h).always (Act.Orderly Sends) fun _ => True := by
  simp [verdict]

@[simp] theorem orderly_healthLog (h : Health) :
    (healthLog h).always (Act.Orderly Sends) fun _ => True := by
  simp [healthLog]

@[simp] theorem orderly_health (s : Sections) :
    (health s).always (Act.Orderly Sends) fun _ => True := by
  rw [health, always_bind]
  refine orderly_read (.logPage 0x02 128 (by decide) (by decide) (by decide)) fun x _ => ?_
  cases x <;> simp

@[simp] theorem endsLine_errorLine (i : Nat) (e : ErrorEntry) : EndsLine (errorLine i e) :=
  endsLine_line _

theorem orderly_errorLog (wanted : Nat) {c : Option Controller}
    (hc : ∀ x ∈ c, x.errorLogEntries ≤ 256) :
    (errorLog wanted c).always (Act.Orderly Sends) fun _ => True := by
  have ha : (c.map (·.errorLogEntries)).getD 16 ≤ 256 := by
    cases c with
    | none => decide
    | some x => exact hc x rfl
  have hs : Sends (.logPage 0x01
      (max 1 (min wanted ((c.map (·.errorLogEntries)).getD 16)) * ErrorEntry.size)) := by
    -- an entry takes 16 words
    rw [ErrorEntry.size, show 64 = 4 * 16 from rfl, Nat.mul_left_comm]
    exact .logPage 0x01 _ (by decide) (by omega) (by omega)
  simp only [errorLog]
  rw [always_bind]
  refine orderly_send hs fun x => ?_
  cases x <;> simp [showErrors, errorTitles, noErrors]

@[simp] theorem endsLine_selfTestLine (i : Nat) (t : SelfTest) : EndsLine (selfTestLine i t) :=
  endsLine_line _

@[simp] theorem orderly_selfTestLog (c : Option Controller) :
    (selfTestLog c).always (Act.Orderly Sends) fun _ => True := by
  rw [selfTestLog, always_ite]
  split
  · simp
  · rw [always_bind]
    refine orderly_read (.logPage 0x06 141 (by decide) (by decide) (by decide)) fun x _ => ?_
    cases x <;> simp

theorem orderly_identitySections (s : Sections) (c : Controller) :
    (identitySections s c).always (Act.Orderly Sends) fun _ => True := by
  simp [identitySections]

theorem orderly_all (s : Sections) : (all s).always (Act.Orderly Sends) fun _ => True := by
  simp only [all, always_ite]
  split
  · rw [always_bind]
    refine orderly_controller?.mono (fun _ => id) fun c hc => ?_
    cases c <;> simp [orderly_identitySections, orderly_errorLog, hc]
  · simp [orderly_errorLog]

end Exam

end Nvme

namespace Task

def Sends : (t : Task) → t.Command → Prop
  | .ata _ => Ata.Exam.Sends
  | .scsi _ => Scsi.Exam.Sends
  | .nvme _ => Nvme.Exam.Sends

theorem orderly_acts {σ : Type} (link : Link σ) (state : σ) (tol : Tolerance) (t : Task) :
    ∀ a ∈ t.acts link state tol, a.Orderly t.Sends := by
  have h : t.procedure.always (Act.Orderly t.Sends) fun _ => True := by
    cases t with
    | ata s => exact Ata.Exam.orderly_all s
    | scsi s => exact Scsi.Exam.orderly_all s
    | nvme s => exact Nvme.Exam.orderly_all s
  exact (h.course (t.channel link) state tol).1

end Task

end DriveHealth
