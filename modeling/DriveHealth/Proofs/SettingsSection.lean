import DriveHealth.Proofs.Composition
import DriveHealth.Proofs.Heading
import DriveHealth.Proofs.MoreSections
set_option autoImplicit false

namespace DriveHealth

def closes (ending text : String) : Bool := ending.toList.isSuffixOf text.toList

namespace Ata

open Procedure

/-- A setting that is on or off, if the drive has it at all. -/
structure Setting where
  key : String
  /-- How its line begins. -/
  title : String
  asked : Sections → Bool
  supported : Identity → Bool
  /-- The bit that says so means nothing unless the setting is supported. -/
  on : Identity → Bool
  display : Identity → Exam Unit

namespace Setting

def all : List Setting := [
  ⟨"ata_aam", "AAM ", (·.aam), (·.bit 83 9), (·.bit 86 9), Exam.aam⟩,
  ⟨"ata_apm", "APM ", (·.apm), (·.bit 83 3), (·.bit 86 3), Exam.apm⟩,
  ⟨"read_lookahead", "Rd look-ahead is: ", (·.lookahead), (·.bit 82 6), (·.bit 85 6),
    fun id => Exam.switchSetting "Rd look-ahead is: " "read_lookahead" (id.bit 82 6) (id.bit 85 6)⟩,
  ⟨"write_cache", "Write cache is:   ", (·.writeCache), (·.bit 82 5), (·.bit 85 5),
    fun id => Exam.switchSetting "Write cache is:   " "write_cache" (id.bit 82 5) (id.bit 85 5)⟩,
  ⟨"ata_dsn", "DSN feature is:   ", (·.dsn), (·.bit 119 9), (·.bit 120 9),
    fun id => Exam.switchSetting "DSN feature is:   " "ata_dsn" (id.bit 119 9) (id.bit 120 9)⟩]

variable (x : Setting) (id : Identity) (s : Sections)

def wanted : Bool := x.asked s || !s.askedOnly

def enabled : Bool := x.supported id && x.on id

/-- A line and the fields of an entry that say the same of a setting. -/
structure Shown (text : String) (fs : Fields) : Prop where
  title : opens x.title text = true
  unavailable : closes "Unavailable\n" text = true ↔ x.supported id = false
  disabled : closes "Disabled\n" text = true ↔ x.supported id = true ∧ x.enabled id = false
  supported : fs.get? "supported" = some (.bool (x.supported id))
  enabled : fs.get? "enabled" = some (.bool (x.enabled id))

end Setting

namespace Exam

variable (f : Taskfile → Except Fault Response)

def levelLine (label : String) (supported on : Bool) (text : String) : String :=
  if !supported then s!"{label} feature is:   Unavailable\n"
  else if on then s!"{label} level is:     {text}\n"
  else s!"{label} feature is:   Disabled\n"

theorem script_levelSetting (label key : String) (supported on : Bool) (level : Nat) (text : String) :
    (levelSetting label key supported on level text).script f =
      [.said .plain (levelLine label supported on text), .wrote (.set key (.record [("supported", .bool supported),
        ("enabled", .bool (supported && on)), ("level", .nat level)]))] := by
  cases supported <;> cases on <;> simp [levelSetting, levelLine]

def switchLine (label : String) (supported on : Bool) : String :=
  label ++ (if supported then onOff on else "Unavailable") ++ "\n"

theorem script_switchSetting (label key : String) (supported on : Bool) :
    (switchSetting label key supported on).script f =
      [.said .plain (switchLine label supported on),
        .wrote (.set key (.record [("supported", .bool supported), ("enabled", .bool (supported && on))]))] := by
  simp [switchSetting, switchLine]

theorem closes_switchLine (label : String) (supported on : Bool) :
    (closes "Unavailable\n" (switchLine label supported on) = true ↔ supported = false) ∧
      (closes "Disabled\n" (switchLine label supported on) = true ↔
        supported = true ∧ (supported && on) = false) := by
  cases supported <;> cases on <;> simp [closes, List.isSuffixOf, switchLine, onOff]

theorem closes_levelLine (label : String) (supported on : Bool) {text : String}
    (hlast : ∃ c ∈ text.toList.getLast?, 'e' ≠ c ∧ 'd' ≠ c) :
    (closes "Unavailable\n" (levelLine label supported on text) = true ↔ supported = false) ∧
      (closes "Disabled\n" (levelLine label supported on text) = true ↔
        supported = true ∧ (supported && on) = false) := by
  obtain ⟨c, hc, he, hd⟩ := hlast
  obtain ⟨cs, hcs⟩ := List.getLast?_eq_some_iff.1 hc
  cases supported <;> cases on <;> simp [closes, List.isSuffixOf, levelLine, hcs, he, hd]

theorem opens_levelLine (label : String) (supported on : Bool) (text : String) :
    opens (label ++ " ") (levelLine label supported on text) = true := by
  cases supported <;> cases on <;> simp [opens_iff, levelLine]

theorem exists_getLast?_toString (n : Nat) : ∃ c ∈ (toString n).toList.getLast?, 'e' ≠ c ∧ 'd' ≠ c := by
  have hne : Nat.toDigits 10 n ≠ [] := Nat.toDigits_ne_nil
  refine ⟨(Nat.toDigits 10 n).getLast hne, ?_, ?_⟩
  · simp [List.getLast?_eq_some_getLast hne]
  · have hdigit : ((Nat.toDigits 10 n).getLast hne).isDigit = true :=
      Nat.isDigit_of_mem_toDigits (by decide) (by decide) (List.getLast_mem hne)
    constructor <;>
    · intro h
      rw [← h] at hdigit
      exact absurd hdigit (by decide)

theorem exists_shown_switch (id : Identity) {x : Setting}
    (hx : x.display id = switchSetting x.title x.key (x.supported id) (x.on id)) : ∃ text fs, x.Shown id text fs ∧
      ∀ f, (x.display id).script f = [.said .plain text, .wrote (.set x.key (.record fs))] := by
  obtain ⟨hunavailable, hdisabled⟩ := closes_switchLine x.title (x.supported id) (x.on id)
  refine ⟨_, _, ⟨?_, hunavailable, hdisabled, rfl, rfl⟩, fun f => hx ▸ script_switchSetting f ..⟩
  simp [opens_iff, switchLine]

theorem exists_shown_level (id : Identity) {x : Setting} {label text : String} {level : Nat}
    (hx : x.display id = levelSetting label x.key (x.supported id) (x.on id) level text)
    (htitle : opens x.title (label ++ " ") = true) (hlast : ∃ c ∈ text.toList.getLast?, 'e' ≠ c ∧ 'd' ≠ c) :
    ∃ text fs, x.Shown id text fs ∧
      ∀ f, (x.display id).script f = [.said .plain text, .wrote (.set x.key (.record fs))] := by
  obtain ⟨hunavailable, hdisabled⟩ := closes_levelLine label (x.supported id) (x.on id) hlast
  exact ⟨_, _, ⟨opens_trans htitle (opens_levelLine ..), hunavailable, hdisabled, rfl, rfl⟩,
    fun f => hx ▸ script_levelSetting f ..⟩

theorem exists_shown (id : Identity) : ∀ x ∈ Setting.all, ∃ text fs, x.Shown id text fs ∧
    ∀ f, (x.display id).script f = [.said .plain text, .wrote (.set x.key (.record fs))] := by
  simp only [Setting.all, List.forall_mem_cons]
  refine ⟨exists_shown_level id rfl (by decide) ⟨')', by simp [List.getLast?_cons], by decide⟩,
    exists_shown_level id rfl (by decide) (exists_getLast?_toString _),
    exists_shown_switch id rfl, exists_shown_switch id rfl, exists_shown_switch id rfl, by simp⟩

def granted (log : List (Taskfile × Except Fault Response)) (feature : Nat) : Bool :=
  log.any fun exchange => exchange.1 == .smartWriteLog 0xe0 (sctStateRequest feature) && exchange.2.isOk

def settingKeys (id : Identity) (s : Sections) (log : List (Taskfile × Except Fault Response)) : List String :=
  (Setting.all.filter (·.wanted s)).map (·.key) ++
    ((if s.security || !s.askedOnly then ["ata_security"] else []) ++
      ((if s.sctReorder && id.sctFeatureControl && granted log 2 then ["write_cache_reorder"] else []) ++
        if s.sctWriteCache && id.sctFeatureControl && granted log 1 then ["write_cache_sct"] else []))

theorem granted_of_replies {log : List (Taskfile × Except Fault Response)} {feature : Nat} {a : Response}
    (h : replies log (.smartWriteLog 0xe0 (sctStateRequest feature)) = .ok a) : granted log feature = true :=
  List.any_eq_true.2 ⟨_, mem_of_replies_eq_ok h, by simp [Except.isOk, Except.toBool]⟩

def remaining (id : Identity) (s : Sections) : List (Act Taskfile Response) :=
  (if s.security || !s.askedOnly then (security (id.word 128)).script f else []) ++
    ((if s.sctReorder then (sctReorder id).script f else []) ++
      ((if s.sctWriteCache then (sctWriteCache id).script f else []) ++ [.said .plain "\n"]))

theorem script_settings_all (id : Identity) (s : Sections) : (settings id s).script f =
    (Setting.all.flatMap fun x => if x.wanted s then (x.display id).script f else []) ++ remaining f id s := by
  simp [script_settings, Setting.all, Setting.wanted, remaining]

/-- A text that begins in another way than the lines of the settings that are on or off. -/
def Untitled (text : String) : Prop := (Setting.all.all fun x => departs x.title.toList text.toList) = true

theorem Untitled.opens {text : String} (h : Untitled text) : ∀ x ∈ Setting.all, opens x.title text = false :=
  fun x hx => Bool.eq_false_iff.2 fun ho => not_prefix_of_departs (List.all_eq_true.1 h x hx) (opens_iff.1 ho)

@[simp] theorem untitled_append {s : String} (h : Untitled s) (t : String) : Untitled (s ++ t) := by
  simp only [Untitled, List.all_eq_true, String.toList_append] at h ⊢
  exact fun x hx => departs_append_right (h x hx) _

@[simp low] theorem untitled_of_departs {text : String}
    (h : (Setting.all.all fun x => departs x.title.toList text.toList) = true) : Untitled text := h

theorem untitled_traceLine (name : String) (success : Bool) : Untitled (traceLine name success) := by
  have h : Untitled (toString "REPORT-IOCTL: ") := rfl
  exact untitled_append (untitled_append (untitled_append (untitled_append h _) _) _) _

def Aside : Act Taskfile Response → Prop
  | .said _ text => Untitled text
  | _ => True

@[simp] theorem aside_said (kind : EventKind) (text : String) : Aside (.said kind text) ↔ Untitled text := Iff.rfl

@[simp] theorem aside_wrote (w : Report.Write) : Aside (.wrote w) ↔ True := Iff.rfl

@[simp] theorem aside_forgiven (c : FailureClass) : Aside (.forgiven c) ↔ True := Iff.rfl

@[simp] theorem aside_refused (c : FailureClass) : Aside (.refused c) ↔ True := Iff.rfl

theorem Aside.untitled {a : Act Taskfile Response} (h : Aside a) {trace : Bool} {e : Event}
    (he : e ∈ a.events Taskfile.name trace) : Untitled e.text := by
  obtain rfl | ⟨t, reply, success, -, rfl⟩ | ⟨c, -, rfl⟩ := Act.mem_events he
  · exact h
  · exact untitled_traceLine _ _
  · cases c <;> rfl

theorem aside_security (w : Nat) : (security w).always Aside fun _ => True := by
  simp [security, Setting.all]

theorem aside_sctState (feature : Nat) {Q : Except Fault Nat → Prop} (hQ : ∀ state, Q state) :
    (sctState feature).always Aside Q := fun _ => ⟨trivial, hQ _⟩

theorem aside_sctReorder (id : Identity) : (sctReorder id).always Aside fun _ => True := by
  rw [sctReorder, always_ite]
  split
  · simp [Setting.all]
  · rw [always_bind]
    refine aside_sctState 2 fun state => ?_
    cases state <;> simp [unread, Setting.all]

theorem aside_sctWriteCache (id : Identity) : (sctWriteCache id).always Aside fun _ => True := by
  rw [sctWriteCache, always_ite]
  split
  · simp [Setting.all]
  · rw [always_bind]
    refine aside_sctState 1 fun state => ?_
    cases state <;> simp [unread, Setting.all]

theorem aside_remaining (id : Identity) (s : Sections) : ∀ a ∈ remaining f id s, Aside a := by
  simp only [remaining, List.forall_mem_append]
  refine ⟨?_, ?_, ?_, List.forall_mem_singleton.2 rfl⟩ <;> split
  · exact (aside_security _).script f
  · simp
  · exact (aside_sctReorder id).script f
  · simp
  · exact (aside_sctWriteCache id).script f
  · simp

theorem keys_settings (id : Identity) (s : Sections) :
    ((((settings id s).script f).flatMap Act.writes).map Report.Write.key).Nodup := by
  have htargets := (targets_settings f id s).map Prod.fst
  have hkeys (acts : List (Act Taskfile Response)) :
      (Act.targets acts).map Prod.fst = (acts.flatMap Act.writes).map Report.Write.key := by
    rw [Act.targets, List.map_map]
    exact List.map_congr_left fun w _ => by cases w <;> rfl
  rw [hkeys] at htargets
  exact htargets.nodup (by decide)

variable {id : Identity} {s : Sections} {w : Report.Write}

theorem exists_write_security (n : Nat) : ∃ fs : Fields,
    ((security n).script f).flatMap Act.writes = [.set "ata_security" (.record fs)] ∧
      fs.get? "state" = some (.nat n) := by
  cases h : n.testBit 0 with
  | false => exact ⟨_, by simp only [security, h]; rfl, rfl⟩
  | true => exact ⟨_, by simp only [security, h]; rfl, rfl⟩

theorem mem_writes_sctReorder : w ∈ ((sctReorder id).script f).flatMap Act.writes ↔
    id.sctFeatureControl = true ∧ ∃ reply, f (.smartWriteLog 0xe0 (sctStateRequest 2)) = .ok reply ∧
      w = .set "write_cache_reorder"
        (.record [("supported", .bool true), ("enabled", .bool (reply.sectorCount.toNat == 1))]) := by
  cases h : id.sctFeatureControl with
  | false => simp [sctReorder, h, Act.writes]
  | true =>
    cases hs : f (.smartWriteLog 0xe0 (sctStateRequest 2)) <;>
      simp [sctReorder, sctState, h, hs, Act.writes, Except.map]

def sctStateText (state : Nat) : String :=
  match state with
  | 1 => "Controlled by ATA"
  | 2 => "Force Enabled"
  | 3 => "Force Disabled"
  | _ => "Unknown"

theorem mem_writes_sctWriteCache : w ∈ ((sctWriteCache id).script f).flatMap Act.writes ↔
    id.sctFeatureControl = true ∧ ∃ reply, f (.smartWriteLog 0xe0 (sctStateRequest 1)) = .ok reply ∧
      w = .set "write_cache_sct" (.record [("state", .nat reply.sectorCount.toNat),
        ("string", .text (sctStateText reply.sectorCount.toNat))]) := by
  cases h : id.sctFeatureControl with
  | false => simp [sctWriteCache, h, Act.writes]
  | true =>
    cases hs : f (.smartWriteLog 0xe0 (sctStateRequest 1)) with
    | error e => simp [sctWriteCache, sctState, h, hs, Act.writes, Except.map]
    | ok reply =>
      simp [sctWriteCache, sctState, h, hs, Act.writes, Except.map]
      rfl

theorem mem_writes_settings : w ∈ ((settings id s).script f).flatMap Act.writes ↔
    (∃ x ∈ Setting.all, x.wanted s = true ∧ w ∈ ((x.display id).script f).flatMap Act.writes) ∨
      ((s.security || !s.askedOnly) = true ∧ w ∈ ((security (id.word 128)).script f).flatMap Act.writes) ∨
      (s.sctReorder = true ∧ w ∈ ((sctReorder id).script f).flatMap Act.writes) ∨
      s.sctWriteCache = true ∧ w ∈ ((sctWriteCache id).script f).flatMap Act.writes := by
  have hite (c : Bool) (acts : List (Act Taskfile Response)) :
      w ∈ (if c = true then acts else []).flatMap Act.writes ↔ c = true ∧ w ∈ acts.flatMap Act.writes := by
    cases c <;> simp
  have hend : ([.said .plain "\n"] : List (Act Taskfile Response)).flatMap Act.writes = [] := rfl
  rw [script_settings_all, remaining, List.flatMap_append, List.flatMap_append, List.flatMap_append,
    List.flatMap_append, hend, List.append_nil, List.flatMap_assoc]
  simp only [List.mem_append, hite, List.mem_flatMap (l := Setting.all)]

theorem key_mem_settingKeys {log : List (Taskfile × Except Fault Response)}
    (hw : w ∈ ((settings id s).script (replies log)).flatMap Act.writes) : w.key ∈ settingKeys id s log := by
  simp only [settingKeys, List.mem_append, List.mem_map, List.mem_filter]
  obtain ⟨x, hx, hwanted, hw⟩ | ⟨hwanted, hw⟩ | ⟨hwanted, hw⟩ | ⟨hwanted, hw⟩ := (mem_writes_settings _).1 hw
  · obtain ⟨text, fs, -, hscript⟩ := exists_shown id x hx
    obtain rfl : w = .set x.key (.record fs) := by simpa [hscript, Act.writes] using hw
    exact .inl ⟨x, ⟨hx, hwanted⟩, rfl⟩
  · obtain ⟨fs, hfs, -⟩ := exists_write_security (replies log) (id.word 128)
    obtain rfl := List.mem_singleton.1 (hfs ▸ hw)
    simp [hwanted, Report.Write.key]
  · obtain ⟨hsct, reply, hreply, rfl⟩ := (mem_writes_sctReorder _).1 hw
    simp [hwanted, hsct, granted_of_replies hreply, Report.Write.key]
  · obtain ⟨hsct, reply, hreply, rfl⟩ := (mem_writes_sctWriteCache _).1 hw
    simp [hwanted, hsct, granted_of_replies hreply, Report.Write.key]

theorem events_display {x : Setting} (hx : x ∈ Setting.all) {text : String} {fs : Fields} (h : x.Shown id text fs)
    (hscript : (x.display id).script f = [.said .plain text, .wrote (.set x.key (.record fs))]) (trace : Bool) :
    ((x.display id).script f).flatMap (Act.events Taskfile.name trace) = [⟨.plain, text⟩] := by
  have hne : text.isEmpty = false := by
    have hall : ∀ x ∈ Setting.all, opens x.title "" = false := by decide
    rw [String.isEmpty_eq_false_iff]
    rintro rfl
    exact absurd h.title (Bool.eq_false_iff.1 (hall x hx))
  simp [hscript, Act.events, hne]

theorem opens_title_iff {x y : Setting} (hx : x ∈ Setting.all) (hy : y ∈ Setting.all) {text : String}
    (h : opens y.title text = true) : opens x.title text = true ↔ x.title = y.title := by
  have hall : ∀ x ∈ Setting.all, ∀ y ∈ Setting.all, x.title ≠ y.title →
      departs x.title.toList y.title.toList = true := by decide
  constructor
  · intro hopens
    by_contra hne
    obtain ⟨rest, hrest⟩ := opens_iff.1 h
    refine not_prefix_of_departs ?_ (opens_iff.1 hopens)
    rw [← hrest]
    exact departs_append_right (hall x hx y hy hne) rest
  · intro heq
    rwa [heq]

theorem filter_events_display {x y : Setting} (hx : x ∈ Setting.all) (hy : y ∈ Setting.all) (trace : Bool) :
    (((y.display id).script f).flatMap (Act.events Taskfile.name trace)).filter (opens x.title ·.text) =
      if x.title = y.title then ((y.display id).script f).flatMap (Act.events Taskfile.name trace) else [] := by
  obtain ⟨text, fs, hshown, hscript⟩ := exists_shown id y hy
  have hopens := opens_title_iff hx hy hshown.title
  rw [events_display f hy hshown (hscript f)]
  split <;> simp_all

theorem filter_events_settings {x : Setting} (hx : x ∈ Setting.all) (trace : Bool) :
    (((settings id s).script f).flatMap (Act.events Taskfile.name trace)).filter (opens x.title ·.text) =
      if x.wanted s then ((x.display id).script f).flatMap (Act.events Taskfile.name trace) else [] := by
  have haside : ((remaining f id s).flatMap (Act.events Taskfile.name trace)).filter (opens x.title ·.text) = [] := by
    refine List.filter_eq_nil_iff.2 fun e he => Bool.not_eq_true _ ▸ ?_
    obtain ⟨a, ha, he⟩ := List.mem_flatMap.1 he
    exact ((aside_remaining f id s a ha).untitled he).opens x hx
  have hpiece : ∀ y ∈ Setting.all, ((if y.wanted s then (y.display id).script f else []).flatMap
      (Act.events Taskfile.name trace)).filter (opens x.title ·.text) = if x.title = y.title then
        if y.wanted s then ((y.display id).script f).flatMap (Act.events Taskfile.name trace) else [] else [] := by
    intro y hy
    cases y.wanted s with
    | true => exact filter_events_display f hx hy trace
    | false => simp
  rw [script_settings_all, List.flatMap_append, List.filter_append, haside, List.append_nil, List.flatMap_assoc,
    List.filter_flatMap, List.flatMap_congr hpiece]
  simp only [Setting.all, List.mem_cons, List.not_mem_nil, or_false] at hx
  obtain rfl | rfl | rfl | rfl | rfl := hx <;> simp [Setting.all]

/-- The settings section in report and text: what was asked for, each thing where it belongs, and nothing else. -/
structure SettingsShown (id : Identity) (s : Sections) (log : List (Taskfile × Except Fault Response))
    (before after : Report) (es : List Event) : Prop where
  shown : ∀ x ∈ Setting.all, x.wanted s = true → ∃ text fs, x.Shown id text fs ∧
    after.get? x.key = some (.record fs) ∧ es.filter (opens x.title ·.text) = [⟨.plain, text⟩]
  unasked : ∀ x ∈ Setting.all, x.wanted s = false → es.filter (opens x.title ·.text) = []
  consistent : ∀ x ∈ Setting.all, x.enabled id = true → x.supported id = true
  security : (s.security || !s.askedOnly) = true → ∃ fs : Fields, after.get? "ata_security" = some (.record fs) ∧
    fs.get? "state" = some (.nat (id.word 128))
  reorder : s.sctReorder = true → id.sctFeatureControl = true → ∀ reply,
    (.smartWriteLog 0xe0 (sctStateRequest 2), .ok reply) ∈ log → after.get? "write_cache_reorder" =
      some (.record [("supported", .bool true), ("enabled", .bool (reply.sectorCount.toNat == 1))])
  sctWriteCache : s.sctWriteCache = true → id.sctFeatureControl = true → ∀ reply,
    (.smartWriteLog 0xe0 (sctStateRequest 1), .ok reply) ∈ log → after.get? "write_cache_sct" =
      some (.record [("state", .nat reply.sectorCount.toNat),
        ("string", .text (sctStateText reply.sectorCount.toNat))])
  rest : ∀ key, key ∉ settingKeys id s log → after.get? key = before.get? key

theorem nodup_commands_settings (id : Identity) (s : Sections) : ((settings id s).commands f).Nodup := by
  have htwo : [Taskfile.smartWriteLog 0xe0 (sctStateRequest 2), .smartWriteLog 0xe0 (sctStateRequest 1)].Nodup := by
    decide
  rw [commands_settings]
  exact htwo.sublist ((ite_sublist (List.Sublist.refl [_])).append (ite_sublist (List.Sublist.refl _)))

/-- A settings section that comes to its end shows what was asked for. -/
theorem settings_show_what_was_asked {σ : Type} (ch : Channel Taskfile Response σ) (state : σ) (trace : Bool)
    (r : Recorder) (id : Identity) (s : Sections) :
    let out := Procedure.run ch.logged Taskfile.name trace (settings id s) (state, []) r
    out.result.isSome → ∃ es, SettingsShown id s out.channel.2 r.report out.recorder.report es ∧
      (r.transcript.suppressed = false →
        out.recorder.transcript.events = r.transcript.events ++ es) := by
  intro out hend
  let log := out.channel.2
  have hrun := Procedure.run_eq_course ch.logged Taskfile.name trace (settings id s) (state, []) r
  have hresult : out.result = ((settings id s).course ch.logged (state, []) r.tolerance).result :=
    congrArg (·.result) hrun
  have hlog : log = ((settings id s).course ch.logged (state, []) r.tolerance).channel.2 :=
    congrArg (·.channel.2) hrun
  obtain ⟨hnodup, hacts⟩ := course_script_log ch (settings id s) state r.tolerance
    (fun f => nodup_commands_settings f id s) (hresult ▸ hend)
  rw [← hlog] at hnodup hacts
  have hreport := report_run ch.logged Taskfile.name trace hacts
  have hset {key : String} {value : Datum}
      (h : .set key value ∈ ((settings id s).script (replies log)).flatMap Act.writes) :
      out.recorder.report.get? key = some value := by
    rw [hreport]
    exact Report.get?_foldl_of_mem (keys_settings _ id s) h _
  have hreply {t : Taskfile} {reply : Response} (h : (t, .ok reply) ∈ log) : replies log t = .ok reply :=
    replies_of_mem hnodup _ h
  refine ⟨_, ?_, events_run ch.logged Taskfile.name trace hacts⟩
  constructor
  case shown =>
    intro x hx hwanted
    obtain ⟨text, fs, hshown, hscript⟩ := exists_shown id x hx
    refine ⟨text, fs, hshown, hset ?_, ?_⟩
    · exact (mem_writes_settings _).2 (.inl ⟨x, hx, hwanted, by simp [hscript, Act.writes]⟩)
    · rw [filter_events_settings _ hx, if_pos hwanted, events_display _ hx hshown (hscript _)]
  case unasked =>
    intro x hx hwanted
    rw [filter_events_settings _ hx, hwanted]
    rfl
  case consistent =>
    intro x hx henabled
    exact (Bool.and_eq_true_iff.1 henabled).1
  case security =>
    intro hwanted
    obtain ⟨fs, hfs, hstate⟩ := exists_write_security (replies log) (id.word 128)
    exact ⟨fs, hset ((mem_writes_settings _).2 (.inr (.inl ⟨hwanted, by simp [hfs]⟩))), hstate⟩
  case reorder =>
    intro hwanted hsct reply hmem
    exact hset ((mem_writes_settings _).2 (.inr (.inr (.inl ⟨hwanted,
      (mem_writes_sctReorder _).2 ⟨hsct, reply, hreply hmem, rfl⟩⟩))))
  case sctWriteCache =>
    intro hwanted hsct reply hmem
    exact hset ((mem_writes_settings _).2 (.inr (.inr (.inr ⟨hwanted,
      (mem_writes_sctWriteCache _).2 ⟨hsct, reply, hreply hmem, rfl⟩⟩))))
  case rest =>
    intro key hkey
    rw [hreport]
    refine Report.get?_foldl_of_ne (fun w hw => ?_) _
    rintro rfl
    exact hkey (key_mem_settingKeys hw)

def quietIdentity : Identity where
  words := ((List.replicate 256 0).set 83 0x200).set 206 0x11
  length_words := by rw [List.length_set, List.length_set, List.length_replicate]

theorem settings_show_what_was_asked_quietIdentity :
    let s : Sections := { askedOnly := true, aam := true, sctReorder := true }
    let out := Procedure.run blankDrive.logged Taskfile.name false (settings quietIdentity s) ((), [])
      (Recorder.start ⟨0, false⟩ {})
    out.result.isSome ∧
      (∃ fs : Fields, out.recorder.report.get? "ata_aam" = some (.record fs) ∧
        fs.get? "supported" = some (.bool true) ∧ fs.get? "enabled" = some (.bool false)) ∧
      out.recorder.report.get? "write_cache_reorder" =
        some (.record [("supported", .bool true), ("enabled", .bool false)]) ∧
      out.recorder.report.get? "write_cache" = none := by
  intro s out
  have hend : out.result.isSome := rfl
  obtain ⟨es, h, -⟩ := settings_show_what_was_asked blankDrive () false (Recorder.start ⟨0, false⟩ {}) quietIdentity s
    hend
  obtain ⟨text, fs, hshown, hget, -⟩ := h.shown _ (List.mem_cons_self ..) rfl
  exact ⟨hend, ⟨fs, hget, hshown.supported, hshown.enabled⟩, h.reorder rfl rfl _ (List.mem_singleton_self _),
    h.rest _ (by decide +kernel)⟩

end Exam

end Ata

end DriveHealth
