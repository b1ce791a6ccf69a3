import DriveHealth.Proofs.CommandPlan
import DriveHealth.Proofs.Script
set_option autoImplicit false

namespace DriveHealth.Ata

open Procedure

/-- All that is asked for in `s` is asked for in `u` as well, and in the same way. -/
structure Sections.Within (s u : Sections) : Prop where
  driveInfo : s.driveInfo → u.driveInfo
  ignorePresets : u.ignorePresets = s.ignorePresets
  words : 0 ≤ s.wordLevel → u.wordLevel = s.wordLevel ∧ u.bitLevel = s.bitLevel
  status : s.status → u.status
  generalValues : s.generalValues → u.generalValues
  attributes : s.attributes → u.attributes
  format : u.format = s.format
  errorLog : s.errorLog → u.errorLog
  extErrorLog : 0 < s.extErrorLog → u.extErrorLog = s.extErrorLog
  retryErrorLog : u.retryErrorLog = s.retryErrorLog
  selfTestLog : s.selfTestLog → u.selfTestLog
  extSelfTestLog : 0 < s.extSelfTestLog → u.extSelfTestLog = s.extSelfTestLog
  retrySelfTestLog : u.retrySelfTestLog = s.retrySelfTestLog
  selectiveLog : s.selectiveLog → u.selectiveLog
  smartDirectory : s.smartDirectory → u.smartDirectory
  gpDirectory : s.gpDirectory → u.gpDirectory
  sctTemperatures : s.sctTemperatures → u.sctTemperatures
  sctHistory : s.sctHistory → u.sctHistory
  sctErrorRecovery : 0 < s.sctErrorRecovery → 0 < u.sctErrorRecovery
  sctReorder : s.sctReorder → u.sctReorder
  sctWriteCache : s.sctWriteCache → u.sctWriteCache
  statistics : s.statistics → u.statistics
  pendingDefects : 0 < s.pendingDefects → u.pendingDefects = s.pendingDefects
  phyCounters : s.phyCounters → u.phyCounters
  askedOnly : u.askedOnly = s.askedOnly
  aam : s.aam → u.aam
  apm : s.apm → u.apm
  security : s.security → u.security
  lookahead : s.lookahead → u.lookahead
  writeCache : s.writeCache → u.writeCache
  dsn : s.dsn → u.dsn

namespace Exam

variable {α : Type} (f : Taskfile → Except Fault Response)

@[simp] theorem script_read (t : Taskfile) (decode : List UInt8 → Except Fault α) :
    (read t decode).script f = [.sent t (f t) (succeeds (fun _ => true) (f t))] := rfl

@[simp] theorem script_unread (what : String) (e : Fault) : (unread what e).script f =
    [.said .error s!"Read {what} failed: {e.message}\n\n", .forgiven .optional] := rfl

theorem script_show? (what : String) (t : Taskfile) (decode : List UInt8 → Except Fault α)
    (present : α → Exam Unit) :
    (show? what t decode present).script f = (read t decode).script f ++
      match decoded f t decode with
      | .ok a => (present a).script f
      | .error e => (unread what e).script f := by
  rw [show?, script_bind, answer_read]
  cases decoded f t decode <;> rfl

@[simp] theorem script_sctState (feature : Nat) : (sctState feature).script f =
    (send (.smartWriteLog 0xe0 (sctStateRequest feature))).script f := rfl

theorem script_settings (id : Identity) (s : Sections) : (settings id s).script f =
    (if s.aam || !s.askedOnly then (aam id).script f else []) ++
    ((if s.apm || !s.askedOnly then (apm id).script f else []) ++
    ((if s.lookahead || !s.askedOnly then
      (switchSetting "Rd look-ahead is: " "read_lookahead" (id.bit 82 6) (id.bit 85 6)).script f else []) ++
    ((if s.writeCache || !s.askedOnly then
      (switchSetting "Write cache is:   " "write_cache" (id.bit 82 5) (id.bit 85 5)).script f else []) ++
    ((if s.dsn || !s.askedOnly then
      (switchSetting "DSN feature is:   " "ata_dsn" (id.bit 119 9) (id.bit 120 9)).script f else []) ++
    ((if s.security || !s.askedOnly then (security (id.word 128)).script f else []) ++
    ((if s.sctReorder then (sctReorder id).script f else []) ++
    ((if s.sctWriteCache then (sctWriteCache id).script f else []) ++
    [.said .plain "\n"]))))))) := by
  simp only [settings, toldSettings, script_bind, script_ite, script_print, script_pure, ite_append, List.append_assoc]

theorem script_smartData (s : Sections) : (smartData s).script f =
    (read .smartReadData SmartData.decode).script f ++
      match decoded f .smartReadData SmartData.decode with
      | .ok d => (if s.attributes then thresholds.script f else []) ++
        ((if s.generalValues then (generalValues d).script f else []) ++
        (if s.attributes then (attributes d (thresholds.answer f) s.format).script f else []))
      | .error e => (unread "SMART Data" e).script f := by
  rw [smartData, script_show?]
  cases decoded f .smartReadData SmartData.decode with
  | ok d => cases ha : s.attributes <;> cases hg : s.generalValues <;> simp [showSmartData, ha, hg]
  | error e => rfl

theorem script_logDirectories (s : Sections) : (logDirectories s).script f =
    let gp := directory? s.gpDirectory "General Purpose" "GP" "gp" (.readLogExt 0x00 0)
    let smart := directory? s.smartDirectory "SMART" "SMART" "smart" (.smartReadLog 0x00)
    let fields := gp.answer f ++ smart.answer f
    gp.script f ++ (smart.script f ++ (.said .plain "\n" ::
      if !fields.isEmpty then [.wrote (.set "ata_log_directory" (.record fields))] else [])) := by
  simp [logDirectories]

theorem script_errorLogs (s : Sections) : (errorLogs s).script f =
    (if s.extErrorLog > 0 then (extErrors s).script f else []) ++
      if s.errorLog || (s.extErrorLog > 0 && (extErrors s).answer f) then summaryErrors.script f else [] := by
  by_cases h : s.extErrorLog > 0 <;> simp [errorLogs, h]

theorem script_selfTestLogs (s : Sections) : (selfTestLogs s).script f =
    (if s.extSelfTestLog > 0 then (extSelfTests s).script f else []) ++
      if s.selfTestLog || (s.extSelfTestLog > 0 && (extSelfTests s).answer f) then
        standardSelfTests.script f else [] := by
  by_cases h : s.extSelfTestLog > 0 <;> simp [selfTestLogs, h]

theorem script_identitySections (s : Sections) (id : Identity) : (identitySections s id).script f =
    (if s.driveInfo then (driveInfo id s).script f else []) ++
    ((if 0 ≤ s.wordLevel then (dump id s.wordLevel s.bitLevel).script f else []) ++
    (if s.wantsSettings then (settings id s).script f else [])) := by
  simp only [identitySections, script_bind, script_ite, script_pure, ite_append]

theorem script_smartSections (s : Sections) : (smartSections s).script f =
    (if s.wantsSmart then [.said .plain "=== START OF READ SMART DATA SECTION ===\n"] else []) ++
    ((if s.status then health.script f else []) ++
    ((if s.generalValues || s.attributes then (smartData s).script f else []) ++
    ((if s.gpDirectory || s.smartDirectory then (logDirectories s).script f else []) ++
    ((if s.errorLog || s.extErrorLog > 0 then (errorLogs s).script f else []) ++
    ((if s.selfTestLog || s.extSelfTestLog > 0 then (selfTestLogs s).script f else []) ++
    ((if s.selectiveLog then selectiveLog.script f else []) ++
    ((if s.sctTemperatures then sctTemperatures.script f else []) ++
    ((if s.sctHistory then (unsupported "SCT Temperature History").script f else []) ++
    ((if s.sctErrorRecovery > 0 then (unsupported "SCT Error Recovery Control").script f else []) ++
    ((if s.statistics then statistics.script f else []) ++
    ((if s.pendingDefects > 0 then (pendingDefects s.pendingDefects).script f else []) ++
    (if s.phyCounters then phyCounters.script f else [])))))))))))) := by
  simp only [smartSections, script_bind, script_ite, script_print, script_pure, ite_append, decide_eq_true_eq,
    Bool.or_eq_true]

theorem script_all (s : Sections) : (all s).script f =
    identity?.script f ++ ((match identity?.answer f with
      | some id => (identitySections s id).script f
      | none => []) ++ (smartSections s).script f) := by
  rw [all, script_bind]
  cases identity?.answer f <;> simp

theorem targets_show? {what : String} {t : Taskfile} {decode : List UInt8 → Except Fault α}
    {present : α → Exam Unit} {places : List (String × Option String)}
    (h : ∀ a, (Act.targets ((present a).script f)).Sublist places) :
    (Act.targets ((show? what t decode present).script f)).Sublist places := by
  rw [script_show?]
  cases decoded f t decode with
  | ok a => simpa using h a
  | error e => simp

theorem targets_driveInfo (id : Identity) (s : Sections) :
    (Act.targets ((driveInfo id s).script f)).Sublist [("model_name", none), ("serial_number", none),
      ("firmware_version", none), ("user_capacity", none), ("logical_block_size", none), ("rotation_rate", none),
      ("in_smartctl_database", none), ("smart_support", none)] := by
  rcases hr : id.rotationRate? with _ | _ | rpm <;> cases hp : s.ignorePresets <;>
    simp [driveInfo, hr, hp, Report.Write.target]

theorem targets_dump (id : Identity) (wordLevel bitLevel : Int) :
    (Act.targets ((dump id wordLevel bitLevel).script f)).Sublist [("ata_identify_device", none)] := by
  simp [dump, Report.Write.target]

theorem targets_levelSetting (label key : String) (supported on : Bool) (level : Nat) (text : String) :
    (Act.targets ((levelSetting label key supported on level text).script f)).Sublist [(key, none)] := by
  simp [levelSetting, Report.Write.target]

theorem targets_switchSetting (label key : String) (supported on : Bool) :
    (Act.targets ((switchSetting label key supported on).script f)).Sublist [(key, none)] := by
  simp [switchSetting, Report.Write.target]

theorem targets_security (w : Nat) :
    (Act.targets ((security w).script f)).Sublist [("ata_security", none)] := by
  simp [security, Report.Write.target]

theorem targets_sctReorder (id : Identity) :
    (Act.targets ((sctReorder id).script f)).Sublist [("write_cache_reorder", none)] := by
  cases h : id.sctFeatureControl <;> cases hs : (sctState 2).answer f <;>
    simp [sctReorder, h, hs, Report.Write.target]

theorem targets_sctWriteCache (id : Identity) :
    (Act.targets ((sctWriteCache id).script f)).Sublist [("write_cache_sct", none)] := by
  cases h : id.sctFeatureControl <;> cases hs : (sctState 1).answer f <;>
    simp [sctWriteCache, h, hs, Report.Write.target]

theorem targets_health :
    (Act.targets (health.script f)).Sublist [("smart_status", some "passed")] := by
  rw [health, script_bind, answer_send]
  cases f .smartReturnStatus with
  | error e => simp
  | ok r =>
    rcases h : r.smartPassed? with _ | _ | _ <;> simp [h, Report.Write.target]

theorem ite_sublist {β : Type} {c : Prop} [Decidable c] {l l' : List β} (h : l.Sublist l') :
    (if c then l else []).Sublist l' := by
  split
  · exact h
  · exact List.nil_sublist _

theorem targets_settings (id : Identity) (s : Sections) :
    (Act.targets ((settings id s).script f)).Sublist [("ata_aam", none), ("ata_apm", none),
      ("read_lookahead", none), ("write_cache", none), ("ata_dsn", none), ("ata_security", none),
      ("write_cache_reorder", none), ("write_cache_sct", none)] := by
  rw [script_settings]
  simp only [Act.targets_append, Act.targets_ite, Act.targets_nil, Act.targets_said]
  exact (ite_sublist (targets_levelSetting ..)).append ((ite_sublist (targets_levelSetting ..)).append
    ((ite_sublist (targets_switchSetting ..)).append ((ite_sublist (targets_switchSetting ..)).append
    ((ite_sublist (targets_switchSetting ..)).append ((ite_sublist (targets_security ..)).append
    ((ite_sublist (targets_sctReorder ..)).append ((ite_sublist (targets_sctWriteCache ..)).append
    (List.Sublist.refl []))))))))

theorem targets_thresholds : Act.targets (thresholds.script f) = [] := by
  rw [thresholds, script_bind, answer_read]
  cases decoded f .smartReadThresholds Threshold.decodeAll <;> simp

theorem targets_generalValues (d : SmartData) :
    (Act.targets ((generalValues d).script f)).Sublist [("ata_smart_data", none)] := by
  simp [generalValues, Report.Write.target]

theorem targets_attributes (d : SmartData) (ts : List Threshold) (format : TableFormat) :
    (Act.targets ((attributes d ts format).script f)).Sublist [("ata_smart_attributes", none)] := by
  simp [attributes, Report.Write.target]

theorem targets_smartData (s : Sections) :
    (Act.targets ((smartData s).script f)).Sublist
      [("ata_smart_data", none), ("ata_smart_attributes", none)] := by
  rw [script_smartData]
  cases decoded f .smartReadData SmartData.decode with
  | ok d =>
    simp only [script_read, Act.targets_append, Act.targets_ite, Act.targets_sent, Act.targets_nil,
      targets_thresholds, ite_self, List.nil_append]
    exact (ite_sublist (targets_generalValues f d)).append (ite_sublist (targets_attributes f d _ _))
  | error e => simp

theorem targets_directory? (wanted : Bool) (name short key : String) (t : Taskfile) :
    Act.targets ((directory? wanted name short key t).script f) = [] := by
  cases wanted with
  | false => rfl
  | true => cases h : decoded f t LogDirectory.decode <;> simp [directory?, directory, h]

theorem targets_logDirectories (s : Sections) :
    (Act.targets ((logDirectories s).script f)).Sublist [("ata_log_directory", none)] := by
  simp only [script_logDirectories, Act.targets_append, targets_directory?, Act.targets_said, Act.targets_ite,
    Act.targets_wrote, Act.targets_nil, List.nil_append]
  exact ite_sublist (List.Sublist.refl _)

theorem targets_summaryErrors :
    (Act.targets (summaryErrors.script f)).Sublist [("ata_smart_error_log", some "summary")] :=
  targets_show? f fun e => by simp [Report.Write.target]

theorem targets_extErrors (s : Sections) :
    (Act.targets ((extErrors s).script f)).Sublist [("ata_smart_error_log", some "extended")] := by
  rw [extErrors, script_bind, answer_read]
  cases decoded f (.readLogExt 0x03 0) ErrorCount.decodeExt <;> simp [Report.Write.target]

theorem targets_errorLogs (s : Sections) : (Act.targets ((errorLogs s).script f)).Sublist
    [("ata_smart_error_log", some "extended"), ("ata_smart_error_log", some "summary")] := by
  simp only [script_errorLogs, Act.targets_append, Act.targets_ite, Act.targets_nil]
  exact (ite_sublist (targets_extErrors f s)).append (ite_sublist (targets_summaryErrors f))

theorem targets_selfTestTable (log : SelfTestLog) (limit : Option Nat) (field : String) :
    (Act.targets ((selfTestTable log limit field).script f)).Sublist
      [("ata_smart_self_test_log", some field)] := by
  simp [selfTestTable, Report.Write.target]

theorem targets_standardSelfTests :
    (Act.targets (standardSelfTests.script f)).Sublist [("ata_smart_self_test_log", some "standard")] :=
  targets_show? f fun log => by simpa using targets_selfTestTable f log none "standard"

theorem targets_extSelfTests (s : Sections) :
    (Act.targets ((extSelfTests s).script f)).Sublist [("ata_smart_self_test_log", some "extended")] := by
  rw [extSelfTests, script_bind, answer_read]
  cases decoded f (.readLogExt 0x07 0) SelfTestLog.decodeExt with
  | ok log => simpa using targets_selfTestTable f log (some s.extSelfTestLog) "extended"
  | error e => simp

theorem targets_selfTestLogs (s : Sections) : (Act.targets ((selfTestLogs s).script f)).Sublist
    [("ata_smart_self_test_log", some "extended"), ("ata_smart_self_test_log", some "standard")] := by
  simp only [script_selfTestLogs, Act.targets_append, Act.targets_ite, Act.targets_nil]
  exact (ite_sublist (targets_extSelfTests f s)).append (ite_sublist (targets_standardSelfTests f))

theorem targets_selectiveLog :
    (Act.targets (selectiveLog.script f)).Sublist [("ata_smart_selective_self_test_log", none)] :=
  targets_show? f fun log => by simp [Report.Write.target]

theorem targets_sctTemperatures :
    (Act.targets (sctTemperatures.script f)).Sublist [("temperature", none)] :=
  targets_show? f fun t => by simp [Report.Write.target]

theorem targets_statistics :
    (Act.targets (statistics.script f)).Sublist [("ata_device_statistics", none)] :=
  targets_show? f fun pages => by simp [Report.Write.target]

theorem targets_pendingDefects (limit : Nat) :
    (Act.targets ((pendingDefects limit).script f)).Sublist [("ata_pending_defects_log", none)] :=
  targets_show? f fun count => by simp [Report.Write.target]

theorem targets_phyCounters :
    (Act.targets (phyCounters.script f)).Sublist [("sata_phy_event_counters", none)] :=
  targets_show? f fun counters => by simp [Report.Write.target]

def identityPlaces : List (String × Option String) := [("model_name", none), ("serial_number", none),
  ("firmware_version", none), ("user_capacity", none), ("logical_block_size", none), ("rotation_rate", none),
  ("in_smartctl_database", none), ("smart_support", none), ("ata_identify_device", none), ("ata_aam", none),
  ("ata_apm", none), ("read_lookahead", none), ("write_cache", none), ("ata_dsn", none), ("ata_security", none),
  ("write_cache_reorder", none), ("write_cache_sct", none)]

def smartPlaces : List (String × Option String) := [("smart_status", some "passed"), ("ata_smart_data", none),
  ("ata_smart_attributes", none), ("ata_log_directory", none), ("ata_smart_error_log", some "extended"),
  ("ata_smart_error_log", some "summary"), ("ata_smart_self_test_log", some "extended"),
  ("ata_smart_self_test_log", some "standard"), ("ata_smart_selective_self_test_log", none),
  ("temperature", none), ("ata_device_statistics", none), ("ata_pending_defects_log", none),
  ("sata_phy_event_counters", none)]

theorem targets_identitySections (s : Sections) (id : Identity) :
    (Act.targets ((identitySections s id).script f)).Sublist identityPlaces := by
  simp only [script_identitySections, Act.targets_append, Act.targets_ite, Act.targets_nil]
  exact (ite_sublist (targets_driveInfo f id s)).append ((ite_sublist (targets_dump ..)).append
    (ite_sublist (targets_settings f id s)))

theorem targets_smartSections (s : Sections) :
    (Act.targets ((smartSections s).script f)).Sublist smartPlaces := by
  simp only [script_smartSections, unsupported, script_info, Act.targets_append, Act.targets_ite,
    Act.targets_nil, Act.targets_said, ite_self, List.nil_append]
  exact (ite_sublist (targets_health f)).append ((ite_sublist (targets_smartData f s)).append
    ((ite_sublist (targets_logDirectories f s)).append ((ite_sublist (targets_errorLogs f s)).append
    ((ite_sublist (targets_selfTestLogs f s)).append ((ite_sublist (targets_selectiveLog f)).append
    ((ite_sublist (targets_sctTemperatures f)).append ((ite_sublist (targets_statistics f)).append
    ((ite_sublist (targets_pendingDefects f _)).append (ite_sublist (targets_phyCounters f))))))))))

theorem targets_identity? : Act.targets (identity?.script f) = [] := by
  rw [identity?, script_bind, answer_read]
  cases decoded f .identifyDevice Identity.decode <;> simp

theorem targets_all (s : Sections) : (Act.targets ((all s).script f)).Pairwise Report.Apart := by
  have hplaces : (identityPlaces ++ smartPlaces).Pairwise Report.Apart := by decide
  refine hplaces.sublist ?_
  rw [script_all, Act.targets_append, targets_identity?, List.nil_append, Act.targets_append]
  refine List.Sublist.append ?_ (targets_smartSections f s)
  cases identity?.answer f with
  | some id => exact targets_identitySections f s id
  | none => exact List.nil_sublist _

variable {s u : Sections}

theorem driveInfo_congr (h : s.Within u) (id : Identity) : driveInfo id u = driveInfo id s := by
  simp only [driveInfo, h.ignorePresets]

theorem extErrors_congr (h : s.Within u) (hs : 0 < s.extErrorLog) : extErrors u = extErrors s := by
  simp only [extErrors, h.extErrorLog hs, h.retryErrorLog]

theorem extSelfTests_congr (h : s.Within u) (hs : 0 < s.extSelfTestLog) : extSelfTests u = extSelfTests s := by
  simp only [extSelfTests, h.extSelfTestLog hs, h.retrySelfTestLog]

theorem keeps_settings (h : s.Within u) (id : Identity) :
    Act.Keeps ((settings id s).script f) ((settings id u).script f) := by
  have want {a b : Bool} (hab : a → b) : (a || !s.askedOnly) = true → (b || !u.askedOnly) = true := by
    rw [h.askedOnly, Bool.or_eq_true, Bool.or_eq_true]
    exact Or.imp_left hab
  rw [script_settings, script_settings]
  exact (Act.Keeps.ite_same (want h.aam)).append ((Act.Keeps.ite_same (want h.apm)).append
    ((Act.Keeps.ite_same (want h.lookahead)).append ((Act.Keeps.ite_same (want h.writeCache)).append
    ((Act.Keeps.ite_same (want h.dsn)).append ((Act.Keeps.ite_same (want h.security)).append
    ((Act.Keeps.ite_same h.sctReorder).append ((Act.Keeps.ite_same h.sctWriteCache).append
    (.refl _))))))))

theorem keeps_smartData (h : s.Within u) :
    Act.Keeps ((smartData s).script f) ((smartData u).script f) := by
  rw [script_smartData, script_smartData, h.format]
  refine (Act.Keeps.refl _).append ?_
  cases decoded f .smartReadData SmartData.decode with
  | ok d =>
    exact (Act.Keeps.ite_same h.attributes).append ((Act.Keeps.ite_same h.generalValues).append
      (Act.Keeps.ite_same h.attributes))
  | error e => exact .refl _

theorem field_of_directory? {wanted : Bool} {name short key : String} {t : Taskfile} {field : String}
    {value : Datum} (h : ((directory? wanted name short key t).answer f).get? field = some value) :
    field = key ++ "_dir_version" ∨ field = key ++ "_table" := by
  have hmem := Fields.mem_of_get? h
  cases wanted with
  | false => simp [directory?] at hmem
  | true =>
    cases hd : decoded f t LogDirectory.decode with
    | ok d =>
      simp only [directory?, directory, if_true, answer_bind, answer_read, hd, answer_pure, List.mem_cons,
        Prod.mk.injEq, List.not_mem_nil, or_false] at hmem
      exact hmem.imp And.left And.left
    | error e => simp [directory?, hd] at hmem

theorem answer_directory?_mono {wanted wanted' : Bool} (h : wanted → wanted') (name short key : String)
    (t : Taskfile) : (directory? wanted name short key t).answer f = [] ∨
      (directory? wanted name short key t).answer f = (directory? wanted' name short key t).answer f := by
  cases wanted with
  | false => exact .inl rfl
  | true => exact .inr (by rw [h rfl])

theorem keeps_directory? {wanted wanted' : Bool} (h : wanted → wanted') (name short key : String)
    (t : Taskfile) : Act.Keeps ((directory? wanted name short key t).script f)
      ((directory? wanted' name short key t).script f) := by
  cases wanted with
  | false => exact .nil
  | true =>
    rw [h rfl]
    exact .refl _

theorem get?_directories_mono (h : s.Within u) (field : String) (value : Datum) :
    let first (s : Sections) := directory? s.gpDirectory "General Purpose" "GP" "gp" (.readLogExt 0x00 0)
    let second (s : Sections) := directory? s.smartDirectory "SMART" "SMART" "smart" (.smartReadLog 0x00)
    Fields.get? ((first s).answer f ++ (second s).answer f) field = some value →
      Fields.get? ((first u).answer f ++ (second u).answer f) field = some value := by
  refine Fields.get?_append_mono (answer_directory?_mono f h.gpDirectory ..)
    (answer_directory?_mono f h.smartDirectory ..) fun field value hfield => ?_
  rw [Option.eq_none_iff_forall_ne_some]
  intro value' hfield'
  obtain rfl | rfl := field_of_directory? f hfield <;>
    exact absurd (field_of_directory? f hfield') (by decide)

theorem keeps_logDirectories (h : s.Within u) :
    Act.Keeps ((logDirectories s).script f) ((logDirectories u).script f) := by
  have hget := get?_directories_mono f h
  have hfilled {fs : Fields} : (!fs.isEmpty) = true ↔ fs ≠ [] := by simp
  rw [script_logDirectories, script_logDirectories]
  refine .append (keeps_directory? f h.gpDirectory ..) (.append (keeps_directory? f h.smartDirectory ..)
    (.cons (.refl _) (Act.Keeps.ite ?_ fun hne => .cons (.wrote ?_) .nil)))
  · intro hne
    obtain ⟨field, value, hfield⟩ := Fields.exists_get? (hfilled.1 hne)
    exact hfilled.2 (List.ne_nil_of_mem (Fields.mem_of_get? (hget field value hfield)))
  · exact Report.Write.within_record _ (hfilled.1 hne) hget

theorem extErrorLog_mono (h : s.Within u) (hs : s.extErrorLog > 0) : u.extErrorLog > 0 := by
  rwa [h.extErrorLog hs]

theorem extSelfTestLog_mono (h : s.Within u) (hs : s.extSelfTestLog > 0) : u.extSelfTestLog > 0 := by
  rwa [h.extSelfTestLog hs]

theorem keeps_errorLogs (h : s.Within u) :
    Act.Keeps ((errorLogs s).script f) ((errorLogs u).script f) := by
  rw [script_errorLogs, script_errorLogs]
  refine (Act.Keeps.ite (extErrorLog_mono h) fun hs => ?_).append (.ite_same ?_)
  · rw [extErrors_congr h hs]
    exact .refl _
  · simp only [Bool.or_eq_true, Bool.and_eq_true, decide_eq_true_eq]
    exact Or.imp h.errorLog fun ⟨hs, hinstead⟩ =>
      ⟨extErrorLog_mono h hs, by rwa [extErrors_congr h hs]⟩

theorem keeps_selfTestLogs (h : s.Within u) :
    Act.Keeps ((selfTestLogs s).script f) ((selfTestLogs u).script f) := by
  rw [script_selfTestLogs, script_selfTestLogs]
  refine (Act.Keeps.ite (extSelfTestLog_mono h) fun hs => ?_).append (.ite_same ?_)
  · rw [extSelfTests_congr h hs]
    exact .refl _
  · simp only [Bool.or_eq_true, Bool.and_eq_true, decide_eq_true_eq]
    exact Or.imp h.selfTestLog fun ⟨hs, hinstead⟩ =>
      ⟨extSelfTestLog_mono h hs, by rwa [extSelfTests_congr h hs]⟩

theorem wantsSettings_mono (h : s.Within u) : s.wantsSettings → u.wantsSettings := by
  simp only [Sections.wantsSettings, Bool.or_eq_true]
  exact .imp (.imp (.imp (.imp (.imp (.imp (.imp h.aam h.apm) h.security) h.lookahead) h.writeCache) h.dsn)
    h.sctReorder) h.sctWriteCache

theorem wantsSmart_mono (h : s.Within u) : s.wantsSmart → u.wantsSmart := by
  simp only [Sections.wantsSmart, Bool.or_eq_true, decide_eq_true_eq]
  exact .imp (.imp (.imp (.imp (.imp (.imp (.imp (.imp (.imp (.imp h.status h.generalValues) h.attributes)
    h.errorLog) (extErrorLog_mono h)) h.selfTestLog) (extSelfTestLog_mono h)) h.selectiveLog) h.smartDirectory)
    h.gpDirectory) h.sctTemperatures

theorem keeps_identitySections (h : s.Within u) (id : Identity) :
    Act.Keeps ((identitySections s id).script f) ((identitySections u id).script f) := by
  rw [script_identitySections, script_identitySections, driveInfo_congr h]
  refine (Act.Keeps.ite_same h.driveInfo).append ((Act.Keeps.ite ?_ fun hs => ?_).append
    (Act.Keeps.ite (wantsSettings_mono h) fun _ => keeps_settings f h id))
  · intro hs
    rwa [(h.words hs).1]
  · rw [(h.words hs).1, (h.words hs).2]
    exact .refl _

theorem keeps_smartSections (h : s.Within u) :
    Act.Keeps ((smartSections s).script f) ((smartSections u).script f) := by
  have hor {a b c d : Bool} (hab : a → b) (hcd : c → d) : (a || c) = true → (b || d) = true := by
    rw [Bool.or_eq_true, Bool.or_eq_true]
    exact Or.imp hab hcd
  have hpending (hs : s.pendingDefects > 0) : u.pendingDefects > 0 := by rwa [h.pendingDefects hs]
  rw [script_smartSections, script_smartSections]
  refine (Act.Keeps.ite_same (wantsSmart_mono h)).append ((Act.Keeps.ite_same h.status).append
    ((Act.Keeps.ite (hor h.generalValues h.attributes) fun _ => keeps_smartData f h).append
    ((Act.Keeps.ite (hor h.gpDirectory h.smartDirectory) fun _ => keeps_logDirectories f h).append
    ((Act.Keeps.ite (hor h.errorLog ?_) fun _ => keeps_errorLogs f h).append
    ((Act.Keeps.ite (hor h.selfTestLog ?_) fun _ => keeps_selfTestLogs f h).append
    ((Act.Keeps.ite_same h.selectiveLog).append ((Act.Keeps.ite_same h.sctTemperatures).append
    ((Act.Keeps.ite_same h.sctHistory).append ((Act.Keeps.ite_same h.sctErrorRecovery).append
    ((Act.Keeps.ite_same h.statistics).append ((Act.Keeps.ite hpending fun hs => ?_).append
    (Act.Keeps.ite_same h.phyCounters))))))))))))
  · simpa using extErrorLog_mono h
  · simpa using extSelfTestLog_mono h
  · rw [h.pendingDefects hs]
    exact .refl _

theorem keeps_all (h : s.Within u) : Act.Keeps ((all s).script f) ((all u).script f) := by
  rw [script_all, script_all]
  refine (Act.Keeps.refl _).append (.append ?_ (keeps_smartSections f h))
  cases identity?.answer f with
  | some id => exact keeps_identitySections f h id
  | none => exact .refl _

/-- To ask for more takes nothing away, if neither examination is refused: the events are all there, in the same
order, and so is each leaf of the report, with its value. -/
theorem more_sections_keep_the_rest {σ : Type} (ch : Channel Taskfile Response σ) (hch : ch.Memoryless)
    (h : s.Within u) (state state' : σ) {r : Recorder} (shown : r.transcript.suppressed = false)
    (empty : r.report = {}) :
    let less := (Exam.run ch s state r).recorder
    let more := (Exam.run ch u state' r).recorder
    ∃ es es', less.transcript.events = r.transcript.events ++ es ∧
      more.transcript.events = r.transcript.events ++ es' ∧
      ((∀ e ∈ es ++ es', ¬ e.IsRefusal) → es.Sublist es' ∧
        ∀ key path leaf, less.report.LeafAt key path leaf → more.report.LeafAt key path leaf) := by
  intro less more
  let f (c : Taskfile) : Except Fault Response := (ch.send c state).1
  have hf (c : Taskfile) (s : σ) : (ch.send c s).1 = f c := hch c s state
  obtain ⟨es, hes, hless⟩ := run_script f ch hf Taskfile.name (r.debug.ata > 0) (all s) state shown
  obtain ⟨es', hes', hmore⟩ := run_script f ch hf Taskfile.name (r.debug.ata > 0) (all u) state' shown
  refine ⟨es, es', hes, hes', fun hno => ?_⟩
  obtain ⟨rfl, hreport⟩ := hless fun e he => hno e (List.mem_append_left _ he)
  obtain ⟨rfl, hreport'⟩ := hmore fun e he => hno e (List.mem_append_right _ he)
  have hkeeps := keeps_all f h
  refine ⟨hkeeps.sublist_events _ _, fun key path leaf hleaf => ?_⟩
  have hmem := hkeeps.leafAt (targets_all f u) (by rwa [← empty, ← hreport])
  rwa [← empty, ← hreport'] at hmem

def blankDrive : Channel Taskfile Response Unit where
  send _ u := (.ok { data := List.replicate 512 0 }, u)

def blankRecord (s : Sections) : Recorder :=
  (Exam.run blankDrive s () (Recorder.start ⟨0, false⟩ {})).recorder

def number? : Datum → Option Int
  | .int n => some n
  | _ => none

theorem more_sections_keep_the_rest_blankDrive :
    let s : Sections := { gpDirectory := true }
    let u : Sections := { s with smartDirectory := true, sctHistory := true }
    blankDrive.Memoryless ∧ s.Within u ∧
      (blankRecord s).transcript.events.Sublist (blankRecord u).transcript.events ∧
      (blankRecord u).report.LeafAt "ata_log_directory" [.field "gp_dir_version"] (.nat 0) := by
  intro s u
  have hch : blankDrive.Memoryless := fun _ _ _ => rfl
  have hwithin : s.Within u := by constructor <;> decide
  obtain ⟨es, es', hes, hes', hkeeps⟩ := more_sections_keep_the_rest blankDrive hch hwithin () ()
    (r := Recorder.start ⟨0, false⟩ {}) rfl rfl
  rw [← blankRecord] at hes hes' hkeeps
  rw [← blankRecord] at hkeeps
  have hless : ∀ e ∈ (blankRecord s).transcript.events, e.kind ≠ .error := by decide +kernel
  have hmore : ∀ e ∈ (blankRecord u).transcript.events, e.kind ≠ .error := by decide +kernel
  have hleaf : (blankRecord s).report.LeafAt "ata_log_directory" [.field "gp_dir_version"] (.nat 0) := by
    have hversion : (((blankRecord s).report.sectionFields "ata_log_directory").get? "gp_dir_version").bind
        number? = some 0 := by decide +kernel
    obtain ⟨d, hd, hnumber⟩ := Option.bind_eq_some_iff.1 hversion
    cases d with
    | int n =>
      obtain rfl : n = 0 := Option.some.inj hnumber
      exact ⟨_, Report.get?_of_sectionFields hd, .field hd (.here trivial)⟩
    | _ => cases hnumber
  obtain ⟨hsub, hleaves⟩ := hkeeps fun e he => by
    rintro ⟨c, rfl⟩
    obtain he | he := List.mem_append.1 he
    · exact hless _ (hes ▸ List.mem_append_right _ he) rfl
    · exact hmore _ (hes' ▸ List.mem_append_right _ he) rfl
  rw [hes, hes']
  exact ⟨hch, hwithin, hsub.append_left _, hleaves _ _ _ hleaf⟩

end Exam

end DriveHealth.Ata
