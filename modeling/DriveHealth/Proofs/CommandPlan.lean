import DriveHealth.Proofs.Lenience
import DriveHealth.Proofs.Rehearsal
set_option autoImplicit false

/-!
The commands of an ATA examination: seventeen at most, each with the condition under which it is due. The
conditions depend on what is asked for and on the replies to earlier commands, and on nothing else.
-/

namespace DriveHealth.Ata

open Procedure

namespace Exam

variable {α : Type} (f : Taskfile → Except Fault Response)

def decoded (t : Taskfile) (decode : List UInt8 → Except Fault α) : Except Fault α :=
  (f t).bind fun r => r.sector.bind decode

/-- Whether the identity was decoded and has bits 0 and 4 of word 206 set. -/
def sctOffered : Bool :=
  match decoded f .identifyDevice Identity.decode with
  | .ok id => id.bit 206 0 && id.bit 206 4
  | .error _ => false

def steps (s : Sections) : List (Bool × Taskfile) := [
  (true, .identifyDevice),
  (s.sctReorder && sctOffered f, .smartWriteLog 0xe0 (sctStateRequest 2)),
  (s.sctWriteCache && sctOffered f, .smartWriteLog 0xe0 (sctStateRequest 1)),
  (s.status, .smartReturnStatus),
  (s.generalValues || s.attributes, .smartReadData),
  (s.attributes && (decoded f .smartReadData SmartData.decode).isOk, .smartReadThresholds),
  (s.gpDirectory, .readLogExt 0x00 0),
  (s.smartDirectory, .smartReadLog 0x00),
  (s.extErrorLog > 0, .readLogExt 0x03 0),
  (s.errorLog || (s.extErrorLog > 0 && !(decoded f (.readLogExt 0x03 0) ErrorCount.decodeExt).isOk &&
    s.retryErrorLog), .smartReadLog 0x01),
  (s.extSelfTestLog > 0, .readLogExt 0x07 0),
  (s.selfTestLog || (s.extSelfTestLog > 0 &&
    !(decoded f (.readLogExt 0x07 0) SelfTestLog.decodeExt).isOk && s.retrySelfTestLog),
    .smartReadLog 0x06),
  (s.selectiveLog, .smartReadLog 0x09),
  (s.sctTemperatures, .smartReadLog 0xe0),
  (s.statistics, .readLogExt 0x04 0),
  (s.pendingDefects > 0, .readLogExt 0x0c 0),
  (s.phyCounters, .readLogExt 0x11 0)]

def due (steps : List (Bool × Taskfile)) : List Taskfile := (steps.filter (·.1)).map (·.2)

def plan (s : Sections) : List Taskfile := due (steps f s)

@[simp] theorem due_nil : due [] = [] := rfl

@[simp] theorem due_cons (b : Bool) (t : Taskfile) (rest : List (Bool × Taskfile)) :
    due ((b, t) :: rest) = (if b then [t] else []) ++ due rest := by
  cases b <;> simp [due]

theorem nodup_plan (s : Sections) : (plan f s).Nodup := by
  have hall : ((steps f s).map (·.2)).Nodup := by
    simp only [steps, List.map_cons, List.map_nil]
    decide
  exact hall.sublist (List.filter_sublist.map _)

@[simp] theorem answer_read (t : Taskfile) (decode : List UInt8 → Except Fault α) :
    (read t decode).answer f = decoded f t decode := rfl

@[simp] theorem commands_read (t : Taskfile) (decode : List UInt8 → Except Fault α) :
    (read t decode).commands f = [t] := rfl

@[simp] theorem commands_unread (what : String) (e : Fault) : (unread what e).commands f = [] := rfl

theorem commands_show? {what : String} {t : Taskfile} {decode : List UInt8 → Except Fault α}
    {present : α → Exam Unit} (h : ∀ a, (present a).commands f = []) :
    (show? what t decode present).commands f = [t] := by
  rw [show?, commands_bind, commands_read, answer_read]
  cases decoded f t decode <;> simp [h]

@[simp] theorem commands_driveInfo (id : Identity) (s : Sections) :
    (driveInfo id s).commands f = [] := by
  rcases hr : id.rotationRate? with _ | _ | rpm <;> simp [driveInfo, hr]

@[simp] theorem commands_dump (id : Identity) (wordLevel bitLevel : Int) :
    (dump id wordLevel bitLevel).commands f = [] := by
  simp [dump]

@[simp] theorem commands_levelSetting (label key : String) (supported on : Bool) (level : Nat)
    (text : String) : (levelSetting label key supported on level text).commands f = [] := by
  simp [levelSetting]

@[simp] theorem commands_switchSetting (label key : String) (supported on : Bool) :
    (switchSetting label key supported on).commands f = [] := by
  simp [switchSetting]

@[simp] theorem commands_security (w : Nat) : (security w).commands f = [] := by
  simp [security]

@[simp] theorem commands_sctState (feature : Nat) :
    (sctState feature).commands f = [.smartWriteLog 0xe0 (sctStateRequest feature)] := rfl

@[simp] theorem commands_sctReorder (id : Identity) : (sctReorder id).commands f =
    if id.sctFeatureControl then [.smartWriteLog 0xe0 (sctStateRequest 2)] else [] := by
  cases h : id.sctFeatureControl with
  | false => simp [sctReorder, h]
  | true => cases hs : (sctState 2).answer f <;> simp [sctReorder, h, hs]

@[simp] theorem commands_sctWriteCache (id : Identity) : (sctWriteCache id).commands f =
    if id.sctFeatureControl then [.smartWriteLog 0xe0 (sctStateRequest 1)] else [] := by
  cases h : id.sctFeatureControl with
  | false => simp [sctWriteCache, h]
  | true => cases hs : (sctState 1).answer f <;> simp [sctWriteCache, h, hs]

theorem commands_settings (id : Identity) (s : Sections) : (settings id s).commands f =
    (if s.sctReorder && id.sctFeatureControl then [.smartWriteLog 0xe0 (sctStateRequest 2)] else []) ++
    if s.sctWriteCache && id.sctFeatureControl then [.smartWriteLog 0xe0 (sctStateRequest 1)] else [] := by
  cases hr : s.sctReorder <;> cases hw : s.sctWriteCache <;> simp [settings, aam, apm, hr, hw]

@[simp] theorem commands_health : health.commands f = [.smartReturnStatus] := by
  rw [health, commands_bind, commands_send, answer_send]
  cases f .smartReturnStatus with
  | error e => simp
  | ok r =>
    rcases h : r.smartPassed? with _ | _ | _ <;> simp [h]

@[simp] theorem commands_thresholds : thresholds.commands f = [.smartReadThresholds] := by
  rw [thresholds, commands_bind, commands_read, answer_read]
  cases decoded f .smartReadThresholds Threshold.decodeAll <;> simp

theorem commands_smartData (s : Sections) :
    (if s.generalValues || s.attributes then (smartData s).commands f else []) =
      due [(s.generalValues || s.attributes, .smartReadData),
        (s.attributes && (decoded f .smartReadData SmartData.decode).isOk, .smartReadThresholds)] := by
  rw [smartData, show?, commands_bind, commands_read, answer_read]
  cases decoded f .smartReadData SmartData.decode with
  | ok d => cases h : s.attributes <;> simp [showSmartData, generalValues, attributes, h, Except.isOk, Except.toBool]
  | error e => simp [Except.isOk, Except.toBool]

@[simp] theorem commands_directory? (wanted : Bool) (name short key : String) (t : Taskfile) :
    (directory? wanted name short key t).commands f = if wanted then [t] else [] := by
  cases wanted with
  | false => rfl
  | true => cases h : decoded f t LogDirectory.decode <;> simp [directory?, directory, h]

theorem commands_logDirectories (s : Sections) :
    (if s.gpDirectory || s.smartDirectory then (logDirectories s).commands f else []) =
      due [(s.gpDirectory, .readLogExt 0x00 0), (s.smartDirectory, .smartReadLog 0x00)] := by
  cases hg : s.gpDirectory <;> cases hs : s.smartDirectory <;> simp [logDirectories, hg, hs]

@[simp] theorem commands_summaryErrors : summaryErrors.commands f = [.smartReadLog 0x01] :=
  commands_show? f fun e => by simp

theorem commands_extErrors (s : Sections) : (extErrors s).commands f = [.readLogExt 0x03 0] := by
  rw [extErrors, commands_bind, commands_read, answer_read]
  cases decoded f (.readLogExt 0x03 0) ErrorCount.decodeExt <;> simp

theorem answer_extErrors (s : Sections) : (extErrors s).answer f =
    (!(decoded f (.readLogExt 0x03 0) ErrorCount.decodeExt).isOk && s.retryErrorLog) := by
  rw [extErrors, answer_bind, answer_read]
  cases decoded f (.readLogExt 0x03 0) ErrorCount.decodeExt with
  | ok e => simp [Except.isOk, Except.toBool]
  | error e => cases s.retryErrorLog <;> simp [Except.isOk, Except.toBool]

theorem commands_errorLogs (s : Sections) :
    (if s.errorLog || s.extErrorLog > 0 then (errorLogs s).commands f else []) =
      due [(s.extErrorLog > 0, .readLogExt 0x03 0),
        (s.errorLog || (s.extErrorLog > 0 && !(decoded f (.readLogExt 0x03 0) ErrorCount.decodeExt).isOk &&
          s.retryErrorLog), .smartReadLog 0x01)] := by
  by_cases h : s.extErrorLog > 0 <;> cases hl : s.errorLog <;>
    simp [errorLogs, h, hl, commands_extErrors, answer_extErrors]

theorem commands_selfTestTable (log : SelfTestLog) (limit : Option Nat) (field : String) :
    (selfTestTable log limit field).commands f = [] := by
  simp [selfTestTable]

@[simp] theorem commands_standardSelfTests : standardSelfTests.commands f = [.smartReadLog 0x06] :=
  commands_show? f fun log => by simp [commands_selfTestTable]

theorem commands_extSelfTests (s : Sections) :
    (extSelfTests s).commands f = [.readLogExt 0x07 0] := by
  rw [extSelfTests, commands_bind, commands_read, answer_read]
  cases decoded f (.readLogExt 0x07 0) SelfTestLog.decodeExt <;> simp [commands_selfTestTable]

theorem answer_extSelfTests (s : Sections) : (extSelfTests s).answer f =
    (!(decoded f (.readLogExt 0x07 0) SelfTestLog.decodeExt).isOk && s.retrySelfTestLog) := by
  rw [extSelfTests, answer_bind, answer_read]
  cases decoded f (.readLogExt 0x07 0) SelfTestLog.decodeExt with
  | ok e => simp [Except.isOk, Except.toBool]
  | error e => cases s.retrySelfTestLog <;> simp [Except.isOk, Except.toBool]

theorem commands_selfTestLogs (s : Sections) :
    (if s.selfTestLog || s.extSelfTestLog > 0 then (selfTestLogs s).commands f else []) =
      due [(s.extSelfTestLog > 0, .readLogExt 0x07 0),
        (s.selfTestLog || (s.extSelfTestLog > 0 &&
          !(decoded f (.readLogExt 0x07 0) SelfTestLog.decodeExt).isOk && s.retrySelfTestLog),
          .smartReadLog 0x06)] := by
  by_cases h : s.extSelfTestLog > 0 <;> cases hl : s.selfTestLog <;>
    simp [selfTestLogs, h, hl, commands_extSelfTests, answer_extSelfTests]

@[simp] theorem commands_selectiveLog : selectiveLog.commands f = [.smartReadLog 0x09] :=
  commands_show? f fun log => by simp

@[simp] theorem commands_sctTemperatures : sctTemperatures.commands f = [.smartReadLog 0xe0] :=
  commands_show? f fun t => by simp

@[simp] theorem commands_statistics : statistics.commands f = [.readLogExt 0x04 0] :=
  commands_show? f fun pages => by simp

@[simp] theorem commands_pendingDefects (limit : Nat) :
    (pendingDefects limit).commands f = [.readLogExt 0x0c 0] :=
  commands_show? f fun count => by simp

@[simp] theorem commands_phyCounters : phyCounters.commands f = [.readLogExt 0x11 0] :=
  commands_show? f fun counters => by simp

theorem ite_append {β : Type} (c : Prop) [Decidable c] (l r : List β) :
    (if c then l ++ r else r) = (if c then l else []) ++ r := by
  split <;> simp

theorem commands_smartSections (s : Sections) :
    (smartSections s).commands f = due ((steps f s).drop 3) := by
  simp only [smartSections, commands_bind, commands_ite, commands_print, commands_health,
    commands_selectiveLog, commands_sctTemperatures, unsupported, commands_info, commands_statistics,
    commands_pendingDefects, commands_phyCounters, commands_pure, List.nil_append, ite_append, ite_self,
    commands_smartData, commands_logDirectories, commands_errorLogs, commands_selfTestLogs]
  simp only [steps, List.drop_succ_cons, List.drop_zero, due_cons, due_nil, List.append_nil,
    List.append_assoc, decide_eq_true_eq]

theorem commands_identitySections (s : Sections) (id : Identity) :
    (identitySections s id).commands f =
      due [(s.sctReorder && id.sctFeatureControl, .smartWriteLog 0xe0 (sctStateRequest 2)),
        (s.sctWriteCache && id.sctFeatureControl, .smartWriteLog 0xe0 (sctStateRequest 1))] := by
  -- if one of the two is asked for, settings are wanted
  have hs : (if s.wantsSettings then (settings id s).commands f else []) = (settings id s).commands f := by
    rw [commands_settings, Sections.wantsSettings]
    cases s.sctReorder <;> cases s.sctWriteCache <;> simp
  simp only [identitySections, commands_bind, commands_ite, commands_driveInfo, commands_dump,
    commands_pure, List.nil_append, ite_self, hs]
  simp [commands_settings]

@[simp] theorem commands_identity? : identity?.commands f = [.identifyDevice] := by
  rw [identity?, commands_bind, commands_read, answer_read]
  cases decoded f .identifyDevice Identity.decode <;> simp

theorem answer_identity? :
    identity?.answer f = (decoded f .identifyDevice Identity.decode).toOption := by
  rw [identity?, answer_bind, answer_read]
  cases decoded f .identifyDevice Identity.decode <;> rfl

theorem commands_all (s : Sections) : (all s).commands f = plan f s := by
  have hsmart := commands_smartSections f s
  rw [all, commands_bind, commands_identity?, answer_identity?]
  cases hid : decoded f .identifyDevice Identity.decode with
  | ok id =>
    have hsct : sctOffered f = id.sctFeatureControl := by rw [sctOffered, hid]; rfl
    simp [commands_identitySections, hsmart, plan, steps, hsct, Except.toOption]
  | error e =>
    have hsct : sctOffered f = false := by rw [sctOffered, hid]
    simp [hsmart, plan, steps, hsct, Except.toOption]

/-- The commands of every examination are different, and are the first ones of the plan that belongs to
their replies; all of the plan, if no refusal is read in the text. -/
theorem run_follows_plan {σ : Type} (ch : Channel Taskfile Response σ) (s : Sections) (state : σ)
    {r : Recorder} (shown : r.transcript.suppressed = false) :
    let run := Exam.run ch.logged s (state, []) r
    let sent := run.channel.2.map (·.1)
    sent.Nodup ∧ sent <+: plan (replies run.channel.2) s ∧
      ∃ es, run.recorder.transcript.events = r.transcript.events ++ es ∧
        ((∀ e ∈ es, ¬ e.IsRefusal) → sent = plan (replies run.channel.2) s) := by
  intro run sent
  have hrun := Procedure.run_eq_course ch.logged Taskfile.name (r.debug.ata > 0) (all s) (state, []) r
  rw [course_logged, List.nil_append] at hrun
  have hlog : run.channel.2 = ((all s).course ch state r.tolerance).acts.flatMap Act.exchanges :=
    congrArg (·.channel.2) hrun
  have hrec : run.recorder = Act.performAll Taskfile.name (r.debug.ata > 0)
      ((all s).course ch state r.tolerance).acts r := congrArg (·.recorder) hrun
  have hnodup : sent.Nodup := by
    have h := (all s).nodup_commands_course ch state r.tolerance [] List.nodup_nil fun f _ => by
      simpa [commands_all] using nodup_plan f s
    simpa [sent, hlog] using h
  obtain ⟨hfirst, hwhole⟩ := course_commands (replies run.channel.2) ch (all s) state r.tolerance
    (by rw [← hlog]; exact replies_of_mem hnodup)
  rw [← hlog, commands_all] at hfirst hwhole
  refine ⟨hnodup, hfirst, _, by rw [hrec]; exact Act.events_performAll _ _ _ shown, fun hes => hwhole ?_⟩
  obtain hw | ⟨before, c, hc⟩ := (all s).course_ends ch state r.tolerance
  · exact hw.finished
  · refine absurd ⟨c, rfl⟩ (hes (Event.refusal c) ?_)
    simp [hc.acts_eq, Act.events]

theorem run_follows_plan_silent :
    let s : Sections := { status := true, sctReorder := true, extErrorLog := 8, retryErrorLog := true }
    let run := Exam.run Link.silent.ata.logged s ((), []) (Recorder.start ⟨9, false⟩ {})
    run.channel.2.map (·.1) =
        [.identifyDevice, .smartReturnStatus, .readLogExt 0x03 0, .smartReadLog 0x01] ∧
      run.channel.2.map (·.1) <+: plan (replies run.channel.2) s := by
  have h := @run_follows_plan Unit Link.silent.ata
    { status := true, sctReorder := true, extErrorLog := 8, retryErrorLog := true } ()
    (Recorder.start ⟨9, false⟩ {}) rfl
  exact ⟨rfl, h.2.1⟩

end Exam

end DriveHealth.Ata
