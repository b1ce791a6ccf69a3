import DriveHealth.Proofs.Bookkeeping
set_option autoImplicit false

namespace DriveHealth

open Procedure

namespace Ata.Exam

open Ledger

variable {α : Type} {d : Bool}

theorem watched_read {t : Taskfile} {decode : List UInt8 → Except Fault α} {l : Ledger}
    {Q : Ledger → Except Fault α → Prop} (h : ∀ x, Q l x) :
    (read t decode).watched (monitor Place.all) l Q := by
  rw [read, watched_bind, Ledger.watched_send]
  exact fun reply => h _

@[simp] theorem settles_unread {what : String} (h : Unheaded ("Read " ++ what)) (e : Fault) :
    (unread what e).Settles Place.all := fun d => by
  have ht : Unheaded s!"Read {what} failed: {e.message}\n\n" := ((h.append _).append _).append _
  exact (watched_fail_unheaded ht).2 rfl

theorem settles_show? {what : String} {t : Taskfile} {decode : List UInt8 → Except Fault α}
    {present : α → Exam Unit} (h : Unheaded ("Read " ++ what))
    (hp : ∀ a, (present a).Settles Place.all) : (show? what t decode present).Settles Place.all := by
  intro d
  rw [show?, watched_bind]
  refine watched_read fun x => ?_
  cases x with
  | ok a => exact hp a d
  | error e => exact settles_unread h e d

@[simp] theorem settles_driveInfo (id : Identity) (s : Sections) :
    (driveInfo id s).Settles Place.all := fun d => by
  rcases hr : id.rotationRate? with _ | _ | rpm <;> simp [driveInfo, hr]

theorem unheaded_wordLines {i w : Nat} {wordLevel bitLevel : Int} {line : String}
    (h : line ∈ wordLines i w wordLevel bitLevel) : Unheaded line := by
  rw [wordLines] at h
  split at h
  · simp at h
  · obtain rfl | h := List.mem_cons.1 h
    · simp
    · simp only [bitLines, List.mem_map] at h
      obtain ⟨k, -, rfl⟩ := h
      have hk : BeginsLow s!"{i}.{k}" := (((beginsLow_toString i).append _).append _)
      exact (((hk.alignRight 9).unheaded.append _).append _).append _

@[simp] theorem settles_dump (id : Identity) (wordLevel bitLevel : Int) :
    (dump id wordLevel bitLevel).Settles Place.all := fun d => by
  have h : ∀ l ∈ (id.words.mapIdx fun i w => wordLines i w wordLevel bitLevel).flatten,
      (monitor Place.all : Monitor Taskfile Response Ledger).Ignores ⟨[], d, false⟩ (.said .plain l) := by
    intro l hl
    obtain ⟨ls, hls, hl⟩ := List.mem_flatten.1 hl
    obtain ⟨i, hi, rfl⟩ := List.mem_mapIdx.1 hls
    exact ignores_unheaded _ _ .plain (unheaded_wordLines hl)
  simp [dump, watched_forM_print h]

@[simp] theorem settles_levelSetting {label key : String} (hl : Unheaded label) (hk : key ∉ usedKeys)
    (supported on : Bool) (level : Nat) (text : String) :
    (levelSetting label key supported on level text).Settles Place.all := fun d => by
  simp [levelSetting, hl, -usedKeys_eq, hk]

@[simp] theorem settles_switchSetting {label key : String} (hl : Unheaded label) (hk : key ∉ usedKeys)
    (supported on : Bool) : (switchSetting label key supported on).Settles Place.all := fun d => by
  simp [switchSetting, hl, -usedKeys_eq, hk]

@[simp] theorem settles_security (w : Nat) : (security w).Settles Place.all := fun d => by
  simp [security]

theorem watched_sctState {feature : Nat} {l : Ledger} {Q : Ledger → Except Fault Nat → Prop}
    (h : ∀ x, Q l x) : (sctState feature).watched (monitor Place.all) l Q := by
  rw [sctState, watched_bind, Ledger.watched_send]
  exact fun reply => h _

@[simp] theorem settles_sctReorder (id : Identity) : (sctReorder id).Settles Place.all := fun d => by
  rw [sctReorder, watched_ite]
  split
  · simp
  · rw [watched_bind]
    refine watched_sctState fun x => ?_
    cases x with
    | error e => exact settles_unread (by simp) e d
    | ok state => simp

@[simp] theorem settles_sctWriteCache (id : Identity) :
    (sctWriteCache id).Settles Place.all := fun d => by
  rw [sctWriteCache, watched_ite]
  split
  · simp
  · rw [watched_bind]
    refine watched_sctState fun x => ?_
    cases x with
    | error e => exact settles_unread (by simp) e d
    | ok state => simp

@[simp] theorem settles_aam (id : Identity) : (aam id).Settles Place.all :=
  settles_levelSetting (by simp) (by simp) _ _ _ _

@[simp] theorem settles_apm (id : Identity) : (apm id).Settles Place.all :=
  settles_levelSetting (by simp) (by simp) _ _ _ _

@[simp] theorem settles_settings (id : Identity) (s : Sections) :
    (settings id s).Settles Place.all := fun d => by
  have lookahead (a b : Bool) :
      (switchSetting "Rd look-ahead is: " "read_lookahead" a b).Settles Place.all :=
    settles_switchSetting (by simp) (by simp) a b
  have writeCache (a b : Bool) :
      (switchSetting "Write cache is:   " "write_cache" a b).Settles Place.all :=
    settles_switchSetting (by simp) (by simp) a b
  have dsn (a b : Bool) : (switchSetting "DSN feature is:   " "ata_dsn" a b).Settles Place.all :=
    settles_switchSetting (by simp) (by simp) a b
  simp [settings, lookahead, writeCache, dsn]

theorem settles_identitySections (s : Sections) (id : Identity) :
    (identitySections s id).Settles Place.all := fun d => by
  simp [identitySections]

@[simp] theorem settles_health : health.Settles Place.all := fun d => by
  have passed : verdict? "SMART overall-health self-assessment test result: PASSED\n\n" = some true := by
    simp [verdict?, opens]
  have failed : verdict? "SMART overall-health self-assessment test result: FAILED!\n" = some false := by
    simp [verdict?, opens]
  have hps : ∀ p ∈ Place.all, p.key ≠ "smart_status" := by decide
  rw [health, watched_bind, Ledger.watched_send]
  intro reply
  cases reply with
  | error e => simp
  | ok r =>
    rcases h : r.smartPassed? with _ | _ | _
    · simp [h]
    · simp [h, watched_verdict failed, watched_setIn_verdict hps]
    · simp [h, watched_verdict passed, watched_setIn_verdict hps]

@[simp] theorem settles_generalValues (v : SmartData) :
    (generalValues v).Settles Place.all := fun d => by
  simp only [generalValues]
  rw [watched_bind, watched_heading .generalValues (by simp [opens, Place.heading])]
  simp [watched_set_place .generalValues "ata_smart_data" rfl rfl]

@[simp] theorem unheaded_attributeLine (f : TableFormat) (r : AttributeRow) : Unheaded (r.line f) := by
  have hid : Unheaded (if f.hexId then "0x" ++ Text.hex 2 r.attr.id else Text.column 3 r.attr.id) := by
    split
    · simp
    · simp
  simp only [AttributeRow.line]
  split <;> simp [hid, -unheaded_ite]

@[simp] theorem settles_attributes (v : SmartData) (ts : List Threshold) (f : TableFormat) :
    (attributes v ts f).Settles Place.all := fun d => by
  simp only [attributes]
  rw [watched_bind, watched_heading .attributes (opens_append (opens_append (by simp [opens, Place.heading]) _) _)]
  simp [watched_set_place .attributes "ata_smart_attributes" rfl rfl]

theorem watched_thresholds {Q : Ledger → List Threshold → Prop} (h : ∀ ts, Q ⟨[], d, false⟩ ts) :
    thresholds.watched (monitor Place.all) ⟨[], d, false⟩ Q := by
  rw [thresholds, watched_bind]
  refine watched_read fun x => ?_
  cases x with
  | ok ts => exact h ts
  | error e =>
    have lost := settles_unread (by simp : Unheaded ("Read " ++ "SMART Thresholds")) e
    simpa [lost] using h []

@[simp] theorem settles_smartData (s : Sections) : (smartData s).Settles Place.all :=
  settles_show? (by simp) fun v d => by
    simp only [watched_ite, watched_bind, watched_pure]
    split
    · refine watched_thresholds fun ts => ?_
      simp
    · simp

@[simp] theorem settles_summaryErrors : summaryErrors.Settles Place.all :=
  settles_show? (by simp) fun e d => by
    rw [watched_bind, watched_heading .summaryErrors (opens_append (opens_append (by simp [opens, Place.heading]) _) _)]
    simp [watched_setIn_place .summaryErrors "ata_smart_error_log" "summary" rfl rfl (by decide)]

theorem watched_extErrors (s : Sections) {Q : Ledger → Bool → Prop} (h : ∀ b, Q ⟨[], d, false⟩ b) :
    (extErrors s).watched (monitor Place.all) ⟨[], d, false⟩ Q := by
  rw [extErrors, watched_bind]
  refine watched_read fun x => ?_
  cases x with
  | ok e =>
    rw [watched_bind, showExtErrors, watched_bind, watched_heading .extErrors
      (opens_append (opens_append (by simp [opens, Place.heading]) _) _)]
    simp [watched_setIn_place .extErrors "ata_smart_error_log" "extended" rfl rfl (by decide), h]
  | error e =>
    have lost := settles_unread (by simp : Unheaded ("Read " ++ "SMART Extended Comprehensive Error Log")) e
    simp [lost, h]

@[simp] theorem settles_errorLogs (s : Sections) : (errorLogs s).Settles Place.all := fun d => by
  simp only [errorLogs, watched_ite, watched_bind, watched_pure]
  split
  · refine watched_extErrors s fun b => ?_
    simp
  · simp

@[simp] theorem unheaded_selfTestLine (number : Nat) (t : SelfTest) :
    Unheaded (selfTestLine number t) := by
  delta selfTestLine
  repeat refine Unheaded.append ?_ _
  simp

theorem watched_selfTestTable (log : SelfTestLog) (limit : Option Nat) {p : Place} {field : String}
    (hk : p.key = "ata_smart_self_test_log") (hf : p.field? = some field) {Q : Ledger → Unit → Prop} :
    (selfTestTable log limit field).watched (monitor Place.all) ⟨[.place p], d, false⟩ Q ↔
      Q ⟨[], d, false⟩ () := by
  simp [selfTestTable, watched_setIn_place p "ata_smart_self_test_log" field hk hf (by decide)]

@[simp] theorem settles_standardSelfTests : standardSelfTests.Settles Place.all :=
  settles_show? (by simp) fun log d => by
    rw [watched_bind, watched_heading .selfTests
      (opens_append (opens_append (by simp [opens, Place.heading]) _) _)]
    exact (watched_selfTestTable log none rfl rfl).2 rfl

theorem watched_extSelfTests (s : Sections) {Q : Ledger → Bool → Prop} (h : ∀ b, Q ⟨[], d, false⟩ b) :
    (extSelfTests s).watched (monitor Place.all) ⟨[], d, false⟩ Q := by
  rw [extSelfTests, watched_bind]
  refine watched_read fun x => ?_
  cases x with
  | ok log =>
    rw [watched_bind, showExtSelfTests, watched_bind, watched_heading .extSelfTests
      (opens_append (opens_append (by simp [opens, Place.heading]) _) _),
      watched_selfTestTable log _ rfl rfl]
    exact h false
  | error e =>
    have lost := settles_unread (by simp : Unheaded ("Read " ++ "SMART Extended Self-test Log")) e
    simp [lost, h]

@[simp] theorem settles_selfTestLogs (s : Sections) :
    (selfTestLogs s).Settles Place.all := fun d => by
  simp only [selfTestLogs, watched_ite, watched_bind, watched_pure]
  split
  · refine watched_extSelfTests s fun b => ?_
    simp
  · simp

@[simp] theorem settles_selectiveLog : selectiveLog.Settles Place.all :=
  settles_show? (by simp) fun log d => by
    rw [watched_bind, watched_heading .selective
      (opens_append (opens_append (by simp [opens, Place.heading]) _) _)]
    simp [watched_set_place .selective "ata_smart_selective_self_test_log" rfl rfl]

@[simp] theorem settles_sctTemperatures : sctTemperatures.Settles Place.all :=
  settles_show? (by simp) fun t d => by
    rw [watched_bind, watched_heading .sctTemperatures
      (opens_append (opens_append (by simp [opens, Place.heading]) _) _)]
    simp [watched_set_place .sctTemperatures "temperature" rfl rfl]

@[simp] theorem settles_statistics : statistics.Settles Place.all :=
  settles_show? (by simp) fun pages d => by
    rw [watched_bind, watched_heading .statistics (by simp [opens, Place.heading])]
    simp [watched_set_place .statistics "ata_device_statistics" rfl rfl]

@[simp] theorem settles_pendingDefects (limit : Nat) : (pendingDefects limit).Settles Place.all :=
  settles_show? (by simp) fun count d => by
    rw [watched_bind, watched_heading .pendingDefects (by simp [opens, Place.heading])]
    simp [watched_set_place .pendingDefects "ata_pending_defects_log" rfl rfl]

@[simp] theorem settles_phyCounters : phyCounters.Settles Place.all :=
  settles_show? (by simp) fun counters d => by
    rw [watched_bind, watched_heading .phyCounters (by simp [opens, Place.heading])]
    simp [watched_set_place .phyCounters "sata_phy_event_counters" rfl rfl]

theorem watched_directory? (wanted : Bool) {p : Place} {name short key : String} {t : Taskfile}
    (hp : ∀ version : Nat, opens p.heading s!"{name} Log Directory Version {version}\n" = true)
    (hs : Unheaded (short ++ " Log at address 0x")) {l : Ledger} {Q : Ledger → Fields → Prop}
    (none : Q l [])
    (lost : ∀ e, (unread s!"{short} Log Directory" e).watched (monitor Place.all) l fun l _ => Q l [])
    (found : ∀ version table, Q ⟨l.owed ++ [.place p], l.directory, l.unread⟩
      [(key ++ "_dir_version", version), (key ++ "_table", table)]) :
    (directory? wanted name short key t).watched (monitor Place.all) l Q := by
  rw [directory?, watched_ite]
  split
  · rw [watched_bind]
    refine watched_read fun x => ?_
    cases x with
    | error e => simpa using lost e
    | ok log =>
      have hline (e : DirectoryEntry) : Unheaded
          (short ++ " Log at address 0x" ++ Text.hex 2 e.address ++ " has " ++ Text.column 5 e.sectors ++
            " sectors\n") :=
        (((hs.append _).append _).append _).append _
      simp only [directory]
      rw [watched_bind, watched_further_heading p (hp log.version)]
      simp [-unheaded_append_append, hline, found]
  · exact none

theorem watched_written {fs : Fields} {owed : List Notice}
    (he : owed = (Report.Write.set "ata_log_directory" (.record fs)).entries Place.all) :
    (print "\n" >>= fun _ =>
      if !fs.isEmpty then set "ata_log_directory" (.record fs) else pure () : Exam Unit).watched
      (monitor Place.all) ⟨owed, false, false⟩ fun l _ => ∃ d, l = ⟨[], d, false⟩ := by
  rw [watched_bind, watched_print_unheaded (by simp), watched_ite]
  split
  · rw [watched_set_directory rfl he]
    exact ⟨true, rfl⟩
  · rename_i hempty
    obtain rfl : fs = [] := by simpa using hempty
    have hnone : (Report.Write.set "ata_log_directory" (.record [])).entries Place.all = [] := by
      simp [Report.Write.entries, Report.Write.places, Report.Write.rating?, Place.all, Place.key,
        Place.field?, Datum.fields, Fields.get?]
    exact ⟨false, by rw [he, hnone]⟩

theorem watched_logDirectories (s : Sections) :
    (logDirectories s).watched (monitor Place.all) {} fun l _ => ∃ d, l = ⟨[], d, false⟩ := by
  have hgp (version : Nat) : opens Place.gpDirectory.heading
      ("General Purpose" ++ " Log Directory Version " ++ toString version ++ "\n") = true := by
    simp [opens, Place.heading]
  have hsmart (version : Nat) : opens Place.smartDirectory.heading
      ("SMART" ++ " Log Directory Version " ++ toString version ++ "\n") = true := by
    simp [opens, Place.heading]
  have smart {gp : Fields} {owed : List Notice} (hg : gp = [] ∧ owed = [] ∨ ∃ version table,
      gp = [("gp_dir_version", version), ("gp_table", table)] ∧ owed = [.place .gpDirectory]) :
      (directory? s.smartDirectory "SMART" "SMART" "smart" (.smartReadLog 0x00) >>= fun smart =>
        print "\n" >>= fun _ => if !(gp ++ smart).isEmpty then
          set "ata_log_directory" (.record (gp ++ smart)) else pure () : Exam Unit).watched
      (monitor Place.all) ⟨owed, false, false⟩ fun l _ => ∃ d, l = ⟨[], d, false⟩ := by
    have hentries : owed = (Report.Write.set "ata_log_directory" (.record (gp ++ []))).entries Place.all := by
      obtain ⟨rfl, rfl⟩ | ⟨version, table, rfl, rfl⟩ := hg <;>
      simp [Report.Write.entries, Report.Write.places, Report.Write.rating?, Place.all, Place.key,
        Place.field?, Datum.fields, Fields.get?, List.lookup_cons]
    rw [watched_bind]
    refine watched_directory? s.smartDirectory hsmart (by simp) ?_ ?_ ?_
    · exact watched_written hentries
    · intro e
      have hread : isUnread ("Read " ++ ("SMART" ++ " Log Directory") ++ " failed: " ++ e.message ++ "\n\n") = true := by
        simp [isUnread, opens]
      have howed : owed = [] ∨ owed = [.place .gpDirectory] := by
        obtain ⟨-, h⟩ | ⟨version, table, -, h⟩ := hg
        · exact .inl h
        · exact .inr h
      exact (watched_fail_unread hread howed).2 (watched_written hentries)
    · intro v t
      refine watched_written ?_
      obtain ⟨rfl, rfl⟩ | ⟨version, table, rfl, rfl⟩ := hg <;>
      simp [Report.Write.entries, Report.Write.places, Report.Write.rating?, Place.all, Place.key,
        Place.field?, Datum.fields, Fields.get?, List.lookup_cons]
  rw [logDirectories, watched_bind]
  refine watched_directory? s.gpDirectory hgp (by simp) ?_ ?_ ?_
  · exact smart (.inl ⟨rfl, rfl⟩)
  · intro e
    have lost : (unread ("GP" ++ " Log Directory") e).Settles Place.all := settles_unread (by simp) e
    exact lost.watched_iff.2 (smart (.inl ⟨rfl, rfl⟩))
  · intro version table
    exact smart (.inr ⟨version, table, by simp, rfl⟩)

@[simp ↓] theorem watched_logDirectories_of (s : Sections) {Q : Ledger → Unit → Prop}
    (h : ∀ d, Q ⟨[], d, false⟩ ()) : (logDirectories s).watched (monitor Place.all) {} Q := by
  refine (watched_logDirectories s).mono fun l _ hl => ?_
  obtain ⟨d, rfl⟩ := hl
  exact h d

theorem watched_smartSections (s : Sections) :
    (smartSections s).watched (monitor Place.all) {} fun l _ => l.owed = [] := by
  have history : (unsupported "SCT Temperature History" : Exam Unit).Settles Place.all :=
    settles_unsupported (by simp)
  have recovery : (unsupported "SCT Error Recovery Control" : Exam Unit).Settles Place.all :=
    settles_unsupported (by simp)
  simp [smartSections, history, recovery]

theorem watched_identity? {Q : Ledger → Option Identity → Prop} (h : ∀ id, Q ⟨[], d, false⟩ id) :
    identity?.watched (monitor Place.all) ⟨[], d, false⟩ Q := by
  rw [identity?, watched_bind]
  refine watched_read fun x => ?_
  cases x <;> simp [h]

theorem watched_all (s : Sections) : (all s).watched (monitor Place.all) {} fun l _ => l.owed = [] := by
  rw [all, watched_bind]
  refine watched_identity? fun id => ?_
  cases id with
  | none => exact watched_smartSections s
  | some id => simpa [settles_identitySections] using watched_smartSections s

end Ata.Exam

end DriveHealth
