import DriveHealth.Proofs.Cuts
import DriveHealth.Proofs.Journal
set_option autoImplicit false

namespace DriveHealth

namespace Text

/-- A text that is made of some words: none of them is empty or has a blank inside, there may be blanks
around them, and there is at least one between two of them. -/
inductive Spaced : List (List Char) → List Char → Prop where
  | blanks {gap : List Char} (hgap : ∀ c ∈ gap, isBlank c = true) : Spaced [] gap
  | word {gap w rest : List Char} {ws : List (List Char)} (hgap : ∀ c ∈ gap, isBlank c = true)
    (hw : ∀ c ∈ w, isBlank c = false) (hne : w ≠ []) (hrest : ∀ c ∈ rest.head?, isBlank c = true)
    (h : Spaced ws rest) : Spaced (w :: ws) (gap ++ (w ++ rest))

def wordPieces (cs : List Char) : List (List Char) := (cs.splitOnP isBlank).filter (!·.isEmpty)

theorem wordPieces_blanks {gap : List Char} (hgap : ∀ c ∈ gap, isBlank c = true) (cs : List Char) :
    wordPieces (gap ++ cs) = wordPieces cs := by
  induction gap with
  | nil => rfl
  | cons c gap ih =>
    obtain ⟨hc, hgap⟩ := List.forall_mem_cons.1 hgap
    rw [← ih hgap, wordPieces, List.cons_append, List.splitOnP_cons_eq_if_modifyHead, if_pos hc]
    rfl

theorem wordPieces_word {w rest : List Char} (hw : ∀ c ∈ w, isBlank c = false) (hne : w ≠ [])
    (hrest : ∀ c ∈ rest.head?, isBlank c = true) : wordPieces (w ++ rest) = w :: wordPieces rest := by
  cases rest with
  | nil => simp [wordPieces, List.splitOnP_eq_singleton hw, hne]
  | cons c cs =>
    have hc : isBlank c = true := hrest c rfl
    have hgap : ∀ d ∈ [c], isBlank d = true := by simpa
    have hskip : wordPieces (c :: cs) = wordPieces cs := wordPieces_blanks hgap cs
    rw [hskip, wordPieces, List.splitOnP_append_cons_of_forall_mem hw c hc]
    simp [wordPieces, hne]

theorem wordPieces_eq {ws : List (List Char)} {cs : List Char} (h : Spaced ws cs) : wordPieces cs = ws := by
  induction h with
  | @blanks gap hgap => simpa [wordPieces] using wordPieces_blanks hgap []
  | word hgap hw hne hrest h ih => rw [wordPieces_blanks hgap, wordPieces_word hw hne hrest, ih]

theorem exists_spaced (cs : List Char) : ∃ ws, Spaced ws cs := by
  obtain ⟨gap, tail, htail, hgap, hhead⟩ := exists_front isBlank cs
  obtain ⟨w, rest, hrest, hw, hnext⟩ := exists_front (!isBlank ·) tail
  by_cases hne : w = []
  · -- the text is blank: what is left would begin with a character that is blank and is not
    have hnil : tail = [] := by
      cases tail with
      | nil => rfl
      | cons c tail =>
        subst hne
        simp only [List.nil_append] at hrest
        subst hrest
        have hblank := hhead c rfl
        have hfilled := hnext c rfl
        simp [hblank] at hfilled
    exact ⟨[], by rw [htail, hnil, List.append_nil]; exact .blanks hgap⟩
  · have hlength : rest.length < cs.length := by
      have := List.length_pos_iff.2 hne
      simp only [htail, hrest, List.length_append]
      omega
    obtain ⟨ws, h⟩ := exists_spaced rest
    refine ⟨w :: ws, ?_⟩
    rw [htail, hrest]
    exact .word hgap (by simpa using hw) hne (by simpa using hnext) h
termination_by cs.length

theorem words_eq_iff {s : String} {ws : List String} :
    words s = ws ↔ Spaced (ws.map String.toList) s.toList := by
  have hwords : words s = (wordPieces s.toList).map String.ofList := rfl
  constructor
  · rintro rfl
    obtain ⟨ws, h⟩ := exists_spaced s.toList
    rw [hwords, wordPieces_eq h, List.map_map]
    simpa [Function.comp_def] using h
  · intro h
    rw [hwords, wordPieces_eq h, List.map_map]
    simp [Function.comp_def]

theorem filledLines_line {line : List Char} (h : '\n' ∉ line) (rest : List Char) :
    filledLines (line ++ '\n' :: rest) =
      [dropReturn line].filter (!·.isEmpty) ++ filledLines rest := by
  rw [filledLines, pieces, List.splitOn_append_cons_self_of_not_mem h, List.map_cons, ← List.singleton_append,
    List.filter_append]
  rfl

/-- A text that stands on one line, to its last character. -/
def OneLine (cs : List Char) : Prop := '\n' ∉ cs ∧ cs.getLast? ≠ some '\r'

instance (cs : List Char) : Decidable (OneLine cs) := inferInstanceAs (Decidable (_ ∧ _))

theorem dropReturn_oneLine {cs : List Char} (h : OneLine cs) : dropReturn cs = cs := if_neg h.2

theorem OneLine.append {cs ds : List Char} (hc : OneLine cs) (hd : OneLine ds) : OneLine (cs ++ ds) := by
  refine ⟨by simpa using ⟨hc.1, hd.1⟩, ?_⟩
  cases hds : ds.getLast? with
  | none => simpa [List.getLast?_append, hds] using hc.2
  | some c =>
    have hc := hd.2
    rw [hds] at hc
    simpa [List.getLast?_append, hds] using hc

theorem OneLine.intercalate {gap : List Char} {ls : List (List Char)} (hgap : OneLine gap)
    (hls : ∀ l ∈ ls, OneLine l) : OneLine (gap.intercalate ls) := by
  induction ls with
  | nil => exact ⟨by simp, by simp⟩
  | cons l ls ih =>
    obtain ⟨hl, hls⟩ := List.forall_mem_cons.1 hls
    cases ls with
    | nil => simpa using hl
    | cons l' ls =>
      rw [List.intercalate_cons_cons]
      exact (hl.append hgap).append (ih hls)

theorem oneLine_of_not_blank {cs : List Char} (h : ∀ c ∈ cs, isBlank c = false) : OneLine cs :=
  ⟨fun hc => absurd (h _ hc) (by decide),
    fun hc => absurd (h _ (List.mem_of_getLast? hc)) (by decide)⟩

theorem Spaced.oneLine {ws : List (List Char)} {cs : List Char} (h : Spaced ws cs) : ∀ w ∈ ws, OneLine w := by
  induction h with
  | blanks => simp
  | word hgap hw hne hrest h ih => exact List.forall_mem_cons.2 ⟨oneLine_of_not_blank hw, ih⟩

theorem filledLines_flatMap {ls : List (List Char)} (h : ∀ l ∈ ls, OneLine l ∧ l ≠ []) :
    filledLines (ls.flatMap (· ++ ['\n'])) = ls := by
  induction ls with
  | nil => rfl
  | cons l ls ih =>
    obtain ⟨⟨hl, hne⟩, hls⟩ := List.forall_mem_cons.1 h
    rw [List.flatMap_cons, List.append_assoc, List.singleton_append, filledLines_line hl.1, ih hls,
      dropReturn_oneLine hl]
    simp [hne]

end Text

theorem Event.render_lines {kind : EventKind} {ls : List String}
    (h : ∀ l ∈ ls, Text.OneLine l.toList ∧ l ≠ "") :
    Event.render (ls.map fun l => ⟨kind, l ++ "\n"⟩) = ls := by
  have hjoined : Event.joined (ls.map fun l => ⟨kind, l ++ "\n"⟩) =
      (ls.map String.toList).flatMap (· ++ ['\n']) := by
    simp [Event.joined, List.flatMap_map]
  rw [Event.render, hjoined, Text.filledLines_flatMap (by simpa using h), List.map_map]
  simp [Function.comp_def]

namespace ScanRequest

theorem parse_spec (s : String) : ∃ tokens : List String,
    Text.Spaced (tokens.map String.toList) s.toList ∧
      (parse s).pattern = tokens.head?.filter (·.toList.head? != some '-') ∧
      (parse s).pattern.toList ++ (parse s).annotations = tokens := by
  refine ⟨Text.words s, Text.words_eq_iff.1 rfl, ?_⟩
  unfold parse
  cases Text.words s with
  | nil => exact ⟨rfl, rfl⟩
  | cons w ws => by_cases hw : w.toList.head? = some '-' <;> simp [hw, Option.filter]

theorem oneLine_annotations (s : String) : ∀ w ∈ (parse s).annotations, Text.OneLine w.toList := by
  obtain ⟨tokens, hspaced, -, htokens⟩ := parse_spec s
  intro w hw
  have hmem : w ∈ tokens := by rw [← htokens]; exact List.mem_append_right _ hw
  exact hspaced.oneLine _ (List.mem_map_of_mem hmem)

end ScanRequest

namespace Recorder

def emitAll (es : List Event) (r : Recorder) : Recorder := es.foldl (fun r e => r.emit e.kind e.text) r

theorem emitAll_eq (es : List Event) (r : Recorder) : r.emitAll es =
    { r with transcript := { r.transcript with events := r.transcript.events ++
        if r.transcript.suppressed then [] else es.filter (!·.text.isEmpty) } } := by
  induction es generalizing r with
  | nil => simp [emitAll]
  | cons e es ih =>
    have hcons : r.emitAll (e :: es) = (r.emit e.kind e.text).emitAll es := rfl
    rw [hcons, ih]
    cases hs : r.transcript.suppressed <;> cases he : e.text.isEmpty <;>
      simp [emit, Transcript.emit, hs, he]

end Recorder

namespace DeviceFacts

/-- Whether the device is listed as one that did not open. -/
def fails (mode : ScanMode) (f : DeviceFacts) : Bool := mode == .opening && !f.isOpen

def summary (mode : ScanMode) (annotations : List String) (f : DeviceFacts) : String :=
  let words := " ".intercalate annotations
  if f.fails mode then
    s!"# {f.name} -d {f.type} # {f.infoName}, {f.protocols.text} device open failed: {f.failure}"
  else if annotations.isEmpty then s!"{f.name} -d {f.type} # {f.infoName}, {f.protocols.text} device"
  else s!"{f.name} -d {f.type} {words}"

/-- The record of a device. -/
def entry (mode : ScanMode) (f : DeviceFacts) : Datum :=
  .record ([("name", .text f.name), ("info_name", .text f.infoName), ("type", .text f.type),
    ("protocol", .text f.protocols.text)] ++
      if f.fails mode then [("open_error", .text f.failure)] else [])

def OneLine (f : DeviceFacts) : Prop :=
  ∀ text ∈ [f.name, f.type, f.infoName, f.failure], Text.OneLine text.toList

end DeviceFacts

theorem ProtocolSet.oneLine_text (s : ProtocolSet) : Text.OneLine s.text.toList := by
  obtain ⟨ata, scsi, nvme⟩ := s
  revert ata scsi nvme
  decide

namespace DeviceFacts

theorem oneLine_summary {f : DeviceFacts} (hf : f.OneLine) (mode : ScanMode) {annotations : List String}
    (h : ∀ w ∈ annotations, Text.OneLine w.toList) : Text.OneLine (f.summary mode annotations).toList := by
  obtain ⟨hname, htype, hinfo, hfailure⟩ : Text.OneLine f.name.toList ∧ Text.OneLine f.type.toList ∧
    Text.OneLine f.infoName.toList ∧ Text.OneLine f.failure.toList := by simpa [OneLine] using hf
  have hprotocols := f.protocols.oneLine_text
  have hwords : Text.OneLine (" ".intercalate annotations).toList := by
    rw [String.toList_intercalate]
    exact Text.OneLine.intercalate (by decide) (by simpa using h)
  obtain ⟨hhash, hd, hcomment, hcomma, hdevice, hfailed, hblank⟩ : Text.OneLine "# ".toList ∧
    Text.OneLine " -d ".toList ∧ Text.OneLine " # ".toList ∧ Text.OneLine ", ".toList ∧
    Text.OneLine " device".toList ∧ Text.OneLine " device open failed: ".toList ∧
    Text.OneLine " ".toList := by decide
  unfold summary
  -- each line is put together from these, the texts of the device and the words
  rw [apply_ite String.toList, apply_ite String.toList]
  simp only [toString, String.toList_append]
  split
  · exact hhash.append hname |>.append hd |>.append htype |>.append hcomment |>.append hinfo
      |>.append hcomma |>.append hprotocols |>.append hfailed |>.append hfailure
  · split
    · exact hname.append hd |>.append htype |>.append hcomment |>.append hinfo |>.append hcomma
        |>.append hprotocols |>.append hdevice
    · exact hname.append hd |>.append htype |>.append hblank |>.append hwords

theorem fails_iff {mode : ScanMode} {f : DeviceFacts} :
    f.fails mode = true ↔ mode = .opening ∧ f.isOpen = false := by
  simp [fails]

theorem failureLine_eq {f : DeviceFacts} {mode : ScanMode} (h : f.fails mode = true)
    (annotations : List String) : f.failureLine = f.summary mode annotations ++ "\n" := by
  simp [failureLine, heading, summary, h, toString, String.append_assoc]

theorem line_eq {f : DeviceFacts} {mode : ScanMode} (h : f.fails mode = false) (annotations : List String) :
    f.line annotations = f.summary mode annotations ++ "\n" := by
  unfold line summary
  by_cases ha : annotations.isEmpty = true
  · simp [heading, h, ha, toString, String.append_assoc]
  · simp [heading, h, ha, toString, String.append_assoc]

theorem summary_ne_empty (f : DeviceFacts) (mode : ScanMode) (annotations : List String) :
    f.summary mode annotations ≠ "" := by
  unfold summary
  split
  · simp [toString]
  · split <;> simp [toString]

end DeviceFacts

namespace Report

/-- The report of a scan that wrote these records. There is no list of devices until there is a device. -/
def ofDevices (records : List Datum) : Report :=
  ⟨if records.isEmpty then [] else [("devices", .list records)]⟩

theorem devices_ofDevices (records : List Datum) : (ofDevices records).devices = records := by
  cases records <;> rfl

theorem set_ofDevices (records : List Datum) {ds : List Datum} (hds : ds ≠ []) :
    (ofDevices records).set "devices" (.list ds) = ofDevices ds := by
  cases records <;> simp [ofDevices, set, Fields.insert, hds]

theorem setDevice_new (records : List Datum) (field : String) (value : Datum) :
    (ofDevices records).setDevice records.length field value =
      ofDevices (records ++ [.record [(field, value)]]) := by
  have hpad : records.rightpad (records.length + 1) (.record []) = records ++ [.record []] := by
    simp [List.rightpad]
  unfold setDevice deviceFields
  rw [devices_ofDevices, hpad, set_ofDevices _ (by simp)]
  simp [Datum.fields, Fields.insert]

theorem setDevice_last (records : List Datum) (fs : Fields) (field : String) (value : Datum) :
    (ofDevices (records ++ [.record fs])).setDevice records.length field value =
      ofDevices (records ++ [.record (fs.insert field value)]) := by
  have hpad : (records ++ [Datum.record fs]).rightpad (records.length + 1) (.record []) =
      records ++ [.record fs] := by
    simp [List.rightpad]
  unfold setDevice deviceFields
  rw [devices_ofDevices, hpad, set_ofDevices _ (by simp)]
  simp [Datum.fields]

end Report

namespace Recorder

theorem writeDevice_record {r : Recorder} {records : List Datum} (hr : r.report = .ofDevices records)
    (f : DeviceFacts) :
    r.writeDevice records.length f.record = { r with report := .ofDevices (records ++ [.record f.record]) } := by
  simp only [writeDevice, DeviceFacts.record, List.foldl_cons, List.foldl_nil, hr, Report.setDevice_new,
    Report.setDevice_last]
  rfl

theorem writeDevice_failure {r : Recorder} {records : List Datum} {f : DeviceFacts} {mode : ScanMode}
    (hf : f.fails mode = true) (hr : r.report = .ofDevices (records ++ [.record f.record])) :
    r.writeDevice records.length [("open_error", .text f.failure)] =
      { r with report := .ofDevices (records ++ [f.entry mode]) } := by
  simp only [writeDevice, List.foldl_cons, List.foldl_nil, hr, Report.setDevice_last, DeviceFacts.entry, hf]
  rfl

theorem emit_line (r : Recorder) (hs : r.transcript.suppressed = false) (kind : EventKind) (line : String) :
    r.emit kind (line ++ "\n") = { r with transcript := { r.transcript with
      events := r.transcript.events ++ [⟨kind, line ++ "\n"⟩] } } := by
  simp [emit, Transcript.emit, hs]

end Recorder

namespace Backend

variable {σ δ : Type} (b : Backend σ δ)

/-- What looking for devices does to the recorder: it writes some text, and no more. -/
def ScanOnlyEmits (chatter : List String → Option String → Recorder → σ → List Event) : Prop :=
  ∀ types pattern r s, (b.scan types pattern r s).2.1 = r.emitAll (chatter types pattern r s)

/-- The device that is listed, which is opened first if it is asked for. -/
def presented (mode : ScanMode) (d : δ) (s : σ) : δ × σ :=
  match mode with
  | .plain => (d, s)
  | .opening => b.connect d s

/-- The devices as they are listed, each found in the state that the one before it left. -/
def listed (mode : ScanMode) : List δ → σ → List δ
  | [], _ => []
  | d :: ds, s =>
    let shown := b.presented mode d s
    shown.1 :: listed mode ds (b.closeIfOpen shown.1 shown.2).2

theorem length_listed (mode : ScanMode) (ds : List δ) (s : σ) : (b.listed mode ds s).length = ds.length := by
  induction ds generalizing s with
  | nil => rfl
  | cons d ds ih => simp [listed, ih]

/-- The text of a listing. -/
def listing (mode : ScanMode) (annotations : List String) (ds : List δ) (s : σ) : List Event :=
  (b.listed mode ds s).map fun d => ⟨.plain, (b.facts d).summary mode annotations ++ "\n"⟩

theorem render_listing (mode : ScanMode) {annotations : List String} (ds : List δ) (s : σ)
    (ha : ∀ w ∈ annotations, Text.OneLine w.toList)
    (hone : ∀ f ∈ (b.listed mode ds s).map b.facts, f.OneLine) :
    Event.render (b.listing mode annotations ds s) =
      ((b.listed mode ds s).map b.facts).map (·.summary mode annotations) := by
  have hlines : b.listing mode annotations ds s =
      (((b.listed mode ds s).map b.facts).map (·.summary mode annotations)).map fun l =>
        ⟨.plain, l ++ "\n"⟩ := by
    simp [listing]
  rw [hlines, Event.render_lines]
  intro l hl
  obtain ⟨f, hf, rfl⟩ := List.mem_map.1 hl
  exact ⟨DeviceFacts.oneLine_summary (hone f hf) mode ha, f.summary_ne_empty mode annotations⟩

theorem listDevice_eq (mode : ScanMode) (annotations : List String) (d : δ) {r : Recorder} (s : σ)
    (hs : r.transcript.suppressed = false) {records : List Datum} (hr : r.report = .ofDevices records) :
    let shown := b.presented mode d s
    let f := b.facts shown.1
    b.listDevice mode annotations records.length d r s =
      ({ r with
          transcript := { r.transcript with
            events := r.transcript.events ++ [⟨.plain, f.summary mode annotations ++ "\n"⟩] }
          report := .ofDevices (records ++ [f.entry mode]) },
        (b.closeIfOpen shown.1 shown.2).2) := by
  intro shown f
  have hunfold : b.listDevice mode annotations records.length d r s =
      let r := r.writeDevice records.length f.record
      if mode = .opening ∧ f.isOpen = false then
        ((r.emit .plain f.failureLine).writeDevice records.length [("open_error", .text f.failure)], shown.2)
      else (r.emit .plain (f.line annotations), (b.closeIfOpen shown.1 shown.2).2) := rfl
  let recorded : Recorder := { r with report := .ofDevices (records ++ [.record f.record]) }
  have hs : recorded.transcript.suppressed = false := hs
  rw [hunfold, r.writeDevice_record hr]
  simp only [← DeviceFacts.fails_iff]
  cases hf : f.fails mode with
  | true =>
    have hclosed : (b.facts shown.1).isOpen = false := (DeviceFacts.fails_iff.1 hf).2
    rw [if_pos rfl, DeviceFacts.failureLine_eq hf annotations, recorded.emit_line hs,
      Recorder.writeDevice_failure hf rfl]
    simp [closeIfOpen, hclosed, recorded]
  | false =>
    rw [if_neg (by simp), DeviceFacts.line_eq hf, recorded.emit_line hs]
    simp [DeviceFacts.entry, DeviceFacts.record, hf, recorded]

theorem listDevices_eq (mode : ScanMode) (annotations : List String) (ds : List δ) {r : Recorder} (s : σ)
    (hs : r.transcript.suppressed = false) {records : List Datum} (hr : r.report = .ofDevices records) :
    (b.listDevices mode annotations records.length ds r s).1 =
      { r with
        transcript := { r.transcript with
          events := r.transcript.events ++ b.listing mode annotations ds s }
        report := .ofDevices (records ++ (b.listed mode ds s).map fun d => (b.facts d).entry mode) } := by
  induction ds generalizing r s records with
  | nil => simp [listDevices, listing, listed, ← hr]
  | cons d ds ih =>
    have hstep := b.listDevice_eq mode annotations d s hs hr
    have hlength : records.length + 1 =
        (records ++ [(b.facts (b.presented mode d s).1).entry mode]).length := by simp
    simp only [listDevices, hstep]
    rw [hlength, ih]
    · simp [listing, listed]
    · exact hs
    · rfl

/-- The calls of a listing: a device that is open is closed before the next one is opened. -/
theorem listCalls_eq (mode : ScanMode) (ds : List δ) (s : σ) : b.listCalls mode ds s =
    (ds.zip (b.listed mode ds s)).flatMap fun (d, shown) =>
      (if mode = .opening then [.connect d] else []) ++ if (b.facts shown).isOpen then [.close shown] else [] := by
  induction ds generalizing s with
  | nil => rfl
  | cons d ds ih => cases mode <;> simp [listCalls, listed, presented, closeCalls, ih]

theorem suppressed_discover (types : List String) (request : ScanRequest) (mode : ScanMode) (r : Recorder)
    (s : σ) : (b.discover types request mode r s).1.transcript.suppressed = r.transcript.suppressed := rfl

section

variable {chatter : List String → Option String → Recorder → σ → List Event} (hb : b.ScanOnlyEmits chatter)
  (types : List String) (request : ScanRequest) (mode : ScanMode) {r : Recorder} (hr : r.report = {}) (s : σ)

include hb

theorem suppress_scan :
    let asked := r.suppress !r.debug.any
    let kept := if r.debug.any then (chatter types request.pattern asked s).filter (!·.text.isEmpty) else []
    (b.scan types request.pattern asked s).2.1.suppress false =
      { r with transcript := ⟨r.transcript.events ++ kept, false⟩ } := by
  intro asked kept
  rw [hb types request.pattern asked s, Recorder.emitAll_eq]
  cases hd : r.debug.any <;> simp [asked, kept, Recorder.suppress, Transcript.suppress, hd]

include hr

theorem discover_of_error {e : Fault}
    (he : (b.scan types request.pattern (r.suppress !r.debug.any) s).1 = .error e) :
    let asked := r.suppress !r.debug.any
    let kept := if r.debug.any then (chatter types request.pattern asked s).filter (!·.text.isEmpty) else []
    let last := (b.discover types request mode r s).1
    last.transcript.events =
        r.transcript.events ++ kept ++ [⟨.plain, s!"# scan_smart_devices: {e.message}" ++ "\n"⟩] ∧
      last.report = {} := by
  intro asked kept last
  let found : Recorder := { r with transcript := ⟨r.transcript.events ++ kept, false⟩ }
  have hline : s!"# scan_smart_devices: {e.message}\n" = s!"# scan_smart_devices: {e.message}" ++ "\n" := by
    simp [toString, String.append_assoc]
  have hlast : last = (found.emit .plain s!"# scan_smart_devices: {e.message}\n").suppress
      r.transcript.suppressed := by
    simp only [last, discover, he, b.suppress_scan hb types request s, found, kept, asked]
  rw [hlast, hline, found.emit_line rfl]
  exact ⟨rfl, hr⟩

theorem discover_of_ok {ds : List δ}
    (hds : (b.scan types request.pattern (r.suppress !r.debug.any) s).1 = .ok ds) :
    let asked := r.suppress !r.debug.any
    let kept := if r.debug.any then (chatter types request.pattern asked s).filter (!·.text.isEmpty) else []
    let s' := (b.scan types request.pattern asked s).2.2
    let last := (b.discover types request mode r s).1
    last.transcript.events =
        r.transcript.events ++ kept ++ b.listing mode request.annotations ds s' ∧
      last.report = .ofDevices ((b.listed mode ds s').map fun d => (b.facts d).entry mode) := by
  intro asked kept s' last
  let found : Recorder := { r with transcript := ⟨r.transcript.events ++ kept, false⟩ }
  have hempty : found.report = .ofDevices [] := hr
  have hlast : last = (b.listDevices mode request.annotations 0 ds found s').1.suppress
      r.transcript.suppressed := by
    simp only [last, discover, hds, b.suppress_scan hb types request s, found, kept, asked, s']
  have hlisted := b.listDevices_eq mode request.annotations ds s' (by rfl) hempty
  rw [List.length_nil] at hlisted
  rw [hlast, hlisted]
  exact ⟨rfl, rfl⟩

end

/-- What a scan does. Suppression is afterwards as before. The first word of the argument is the pattern, unless
it begins with a dash, and the others are annotations. What the backend writes while it looks for devices is
kept if some debug level is set. Each device found gets one line and one record, and one that is open is closed
before the next is opened. -/
theorem one_line_and_record_per_device
    {chatter : List String → Option String → Recorder → σ → List Event} (hb : b.ScanOnlyEmits chatter)
    (types : List String) (argument : String) (mode : ScanMode) {r : Recorder} (hr : r.report = {}) (s : σ) :
    let request := ScanRequest.parse argument
    let asked := r.suppress !r.debug.any
    let scanned := b.scan types request.pattern asked s
    let kept := if r.debug.any then (chatter types request.pattern asked s).filter (!·.text.isEmpty) else []
    let outcome := b.journaled.discover types request mode r (s, [])
    let last := outcome.1
    let calls := outcome.2.2
    last.transcript.suppressed = r.transcript.suppressed ∧
    (∃ tokens : List String, Text.Spaced (tokens.map String.toList) argument.toList ∧
      request.pattern = tokens.head?.filter (·.toList.head? != some '-') ∧
      request.pattern.toList ++ request.annotations = tokens) ∧
    (∀ e, scanned.1 = .error e →
      last.transcript.events =
        r.transcript.events ++ kept ++ [⟨.plain, s!"# scan_smart_devices: {e.message}" ++ "\n"⟩] ∧
      last.report = {} ∧
      calls = [.scan types request.pattern]) ∧
    (∀ ds, scanned.1 = .ok ds →
      let shown := b.listed mode ds scanned.2.2
      let devices := shown.map b.facts
      ∃ listing, last.transcript.events = r.transcript.events ++ kept ++ listing ∧
        devices.length = ds.length ∧
        ((∀ f ∈ devices, f.OneLine) →
          Event.render listing = devices.map (·.summary mode request.annotations)) ∧
        last.report = .ofDevices (devices.map (·.entry mode)) ∧
        calls = .scan types request.pattern :: (ds.zip shown).flatMap fun (d, d') =>
          (if mode = .opening then [.connect d] else []) ++ if (b.facts d').isOpen then [.close d'] else []) := by
  intro request asked scanned kept outcome last calls
  have hlast : last = (b.discover types request mode r s).1 :=
    congrArg Prod.fst (b.discover_journaled types request mode r s [])
  have hcalls : calls = b.discoverCalls types request mode r s :=
    congrArg (·.2.2) (b.discover_journaled types request mode r s [])
  rw [hlast]
  refine ⟨b.suppressed_discover .., ScanRequest.parse_spec argument, fun e he => ?_, fun ds hds => ?_⟩
  · obtain ⟨hevents, hreport⟩ := b.discover_of_error hb types request mode hr s he
    exact ⟨hevents, hreport, by simp [hcalls, discoverCalls, scanned, asked, he]⟩
  · obtain ⟨hevents, hreport⟩ := b.discover_of_ok hb types request mode hr s hds
    refine ⟨_, hevents, by simp [length_listed],
      b.render_listing mode ds scanned.2.2 (ScanRequest.oneLine_annotations argument), ?_, ?_⟩
    · rw [List.map_map]
      exact hreport
    · rw [hcalls, ← b.listCalls_eq]
      simp [discoverCalls, scanned, asked, hds]

def twoDrives : Backend Unit DeviceFacts where
  start s := (.ok (), s)
  loadDatabase _ s := (true, s)
  lookup _ _ s := (none, s)
  scan _ _ r s :=
    let drive (name : String) : DeviceFacts :=
      { name, type := "sat", infoName := name, protocols := .singleton .ata, isOpen := false }
    (.ok [drive "/dev/sda", drive "/dev/sdb"], r.emit .info "looking\n", s)
  connect d s := (if d.name = "/dev/sda" then { d with isOpen := true }
    else { d with lastError := some "no medium" }, s)
  examine _ d r s := (d, r, s)
  close d s := ({ d with isOpen := false }, s)
  facts d := d

theorem one_line_and_record_per_device_twoDrives :
    twoDrives.ScanOnlyEmits (fun _ _ _ _ => [⟨.info, "looking\n"⟩]) ∧
    let r : Recorder := ⟨⟨[], true⟩, {}, {}, {}, { ata := 1 }⟩
    let outcome := twoDrives.journaled.discover [] (.parse " /dev/sd? -a\t-H") .opening r ((), [])
    r.report = {} ∧ outcome.1.transcript.suppressed = true ∧
    ∃ listing, outcome.1.transcript.events = ⟨.info, "looking\n"⟩ :: listing ∧
      Event.render listing = ["/dev/sda -d sat -a -H",
        "# /dev/sdb -d sat # /dev/sdb, ATA device open failed: no medium"] := by
  have hb : twoDrives.ScanOnlyEmits (fun _ _ _ _ => [⟨.info, "looking\n"⟩]) := fun _ _ _ _ => rfl
  refine ⟨hb, rfl, ?_⟩
  obtain ⟨hsuppressed, -, -, hfound⟩ := twoDrives.one_line_and_record_per_device hb []
    " /dev/sd? -a\t-H" .opening (r := ⟨⟨[], true⟩, {}, {}, {}, { ata := 1 }⟩) rfl ()
  obtain ⟨listing, hevents, -, hlines, -⟩ := hfound _ rfl
  refine ⟨hsuppressed, listing, hevents, (hlines ?_).trans ?_⟩
  · unfold DeviceFacts.OneLine
    decide
  · decide

end Backend

end DriveHealth
