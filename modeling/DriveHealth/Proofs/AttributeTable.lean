import DriveHealth.Proofs.Checked
import DriveHealth.Proofs.Columns
import DriveHealth.Proofs.Showing
import Mathlib.Algebra.Group.Nat.Defs
set_option autoImplicit false

namespace DriveHealth.Ata

namespace Exam.AttributeRow

open Text

def failText (brief : Bool) : Failing → String
  | .never => "-"
  | .past => if brief then "Past" else "In_the_past"
  | .now => if brief then "NOW" else "FAILING_NOW"

def limitText (limit : Option Nat) : String := (limit.map (zeroPadded 3)).getD "---"

def idCell (f : TableFormat) (id : Nat) : Nat × String :=
  if f.hexId then (0, "0x" ++ hex 2 id) else (3 - (toString id).toList.length, toString id)

def rawText (f : TableFormat) (raw : Nat) : String := if f.hexRaw then "0x" ++ hex 12 raw else toString raw

def cells (f : TableFormat) (r : AttributeRow) : List (Nat × String) :=
  let a := r.attr
  let name := Attribute.name a.id
  let flags := if f.brief then Attribute.flagLetters a.flags else "0x" ++ hex 4 a.flags
  let kind := if a.prefailure then "Pre-fail" else "Old_age"
  let updated := if a.online then "Always" else "Offline"
  let fail := failText f.brief r.failing
  let start := [idCell f a.id, (1, name), (gapAfter 23 name, flags), (3, zeroPadded 3 a.value),
    (3, zeroPadded 3 a.worst), (3, limitText r.limit)]
  let stop := if f.brief then [(4, fail), (gapAfter 4 fail, rawText f a.raw)]
    else [(4, kind), (gapAfter 9 kind, updated), (gapAfter 8 updated, fail), (gapAfter 11 fail, rawText f a.raw)]
  start ++ stop

theorem line_eq (f : TableFormat) (r : AttributeRow) : (r.line f).toList = laid (r.cells f) ++ ['\n'] := by
  obtain ⟨brief, hexId, hexRaw⟩ := f
  cases brief <;> cases hexId <;> cases hexRaw <;> cases hfail : r.failing <;>
    simp [line, cells, laid, idCell, rawText, limitText, failText, hfail, column, toList_alignLeft, toList_alignRight]

theorem isWord_name (id : Nat) : IsWord (Attribute.name id) := by
  unfold Attribute.name
  split <;> decide

theorem isWord_flagLetters (flags : Nat) : IsWord (Attribute.flagLetters flags) := by
  refine ⟨by simp [Attribute.flagLetters], fun c hc => ?_⟩
  rw [Attribute.flagLetters, String.toList_ofList] at hc
  obtain ⟨k, hk, rfl⟩ := List.mem_mapIdx.1 hc
  have hletters : IsWord "POSRCK" := by decide
  split
  · exact hletters.2 _ (List.getElem_mem hk)
  · decide

theorem isWord_failText (brief : Bool) (state : Failing) : IsWord (failText brief state) := by
  cases brief <;> cases state <;> decide

theorem isWord_limitText (limit : Option Nat) : IsWord (limitText limit) := by
  cases limit with
  | none => decide
  | some t => exact isWord_zeroPadded 3 t

theorem isWord_rawText (f : TableFormat) (raw : Nat) : IsWord (rawText f raw) := by
  unfold rawText
  split
  · exact isWord_prefixed 12 raw
  · exact isWord_toString raw

theorem isWord_idCell (f : TableFormat) (id : Nat) : IsWord (idCell f id).2 := by
  unfold idCell
  split
  · exact isWord_prefixed 2 id
  · exact isWord_toString id

theorem apart_cells (f : TableFormat) (r : AttributeRow) : Apart (r.cells f) := by
  have hkind : IsWord (if r.attr.prefailure then "Pre-fail" else "Old_age") := by split <;> decide
  have hupdated : IsWord (if r.attr.online then "Always" else "Offline") := by split <;> decide
  constructor
  · cases hbrief : f.brief <;>
      simp [cells, hbrief, isWord_idCell, isWord_name, isWord_flagLetters, isWord_prefixed, isWord_zeroPadded,
        isWord_limitText, isWord_failText, isWord_rawText, hkind, hupdated]
  · cases hbrief : f.brief <;> simp [cells, hbrief, gapAfter]

theorem words_line (f : TableFormat) (r : AttributeRow) : words (r.line f) = (r.cells f).map (·.2) :=
  words_laid (r.apart_cells f) (r.line_eq f)

end Exam.AttributeRow

def Threshold.ofSector? : Option (Block 512) → List Threshold
  | some b => (usedSlots b).map Threshold.ofBlock
  | none => []

/-- The limit of an attribute: that of the first slot with its identifier. -/
inductive LimitOf (limits : Option (Block 512)) (id : Nat) : Option Nat → Prop where
  | unread (h : limits = none) : LimitOf limits id none
  | missing {b : Block 512} (h : limits = some b) (hall : ∀ slot ∈ b.records 2 12 30, slot.byte 0 ≠ id) :
    LimitOf limits id none
  | found {b : Block 512} {before after : List (Block 12)} {slot : Block 12} (h : limits = some b)
    (hslots : b.records 2 12 30 = before ++ slot :: after) (hbefore : ∀ x ∈ before, x.byte 0 ≠ id)
    (hid : slot.byte 0 = id) : LimitOf limits id (some (slot.byte 1))

theorem limit?_ofSector? (b : Block 512) {id : Nat} (h : id ≠ 0) :
    Threshold.limit? (Threshold.ofSector? (some b)) id =
      ((b.records 2 12 30).find? fun slot => slot.byte 0 = id).map fun slot => slot.byte 1 := by
  have hused : (fun slot : Block 12 => decide ((slot.byte 0 != 0) = true ∧ decide (slot.byte 0 = id) = true)) =
      fun slot => decide (slot.byte 0 = id) := by
    funext slot
    by_cases hslot : slot.byte 0 = id <;> simp [hslot, h]
  rw [Threshold.limit?, Threshold.ofSector?, List.find?_map, usedSlots, List.find?_filter, Option.map_map]
  exact congrArg (fun p => ((b.records 2 12 30).find? p).map fun slot => slot.byte 1) hused

theorem limitOf_limit? (limits : Option (Block 512)) {id : Nat} (h : id ≠ 0) :
    LimitOf limits id (Threshold.limit? (Threshold.ofSector? limits) id) := by
  cases limits with
  | none => exact .unread rfl
  | some b =>
    rw [limit?_ofSector? b h]
    cases hfind : (b.records 2 12 30).find? fun slot => slot.byte 0 = id with
    | none => exact .missing rfl (by simpa using hfind)
    | some slot =>
      obtain ⟨hid, before, after, hslots, hbefore⟩ := List.find?_eq_some_iff_append.1 hfind
      exact .found rfl hslots (by simpa using hbefore) (by simpa using hid)

theorem LimitOf.eq_limit? {limits : Option (Block 512)} {id : Nat} {limit : Option Nat}
    (hlimit : LimitOf limits id limit) (h : id ≠ 0) :
    limit = Threshold.limit? (Threshold.ofSector? limits) id := by
  cases hlimit with
  | unread hlimits =>
    rw [hlimits]
    rfl
  | missing hlimits hall =>
    rw [hlimits, limit?_ofSector? _ h, List.find?_eq_none.2 (by simpa using hall)]
    rfl
  | found hlimits hslots hbefore hid =>
    have hnone : List.find? (fun slot : Block 12 => decide (slot.byte 0 = id)) _ = none :=
      List.find?_eq_none.2 (by simpa using hbefore)
    rw [hlimits, limit?_ofSector? _ h, hslots, List.find?_append, hnone]
    simp [hid]

theorem Threshold.limit?_eq_some_iff {ts : List Threshold} (hn : (ts.map Threshold.id).Nodup) {id l : Nat} :
    Threshold.limit? ts id = some l ↔ ⟨id, l⟩ ∈ ts := by
  induction ts with
  | nil => simp [limit?]
  | cons t ts ih =>
    obtain ⟨hfresh, hn⟩ := List.nodup_cons.1 hn
    by_cases ht : t.id = id
    · subst ht
      have hnot : ⟨t.id, l⟩ ∉ ts := fun hmem => hfresh (List.mem_map.2 ⟨_, hmem, rfl⟩)
      have hfirst : limit? (t :: ts) t.id = some t.limit := by simp [limit?]
      rw [hfirst, List.mem_cons, or_iff_left hnot, Option.some.injEq]
      exact ⟨fun h => by rw [← h], fun h => (congrArg limit h).symm⟩
    · have hlater : limit? (t :: ts) id = limit? ts id := by simp [limit?, ht]
      have hne : ⟨id, l⟩ ≠ t := fun h => ht (congrArg Threshold.id h).symm
      rw [hlater, ih hn, List.mem_cons, or_iff_right hne]

theorem Threshold.limit?_perm {ts ts' : List Threshold} (h : ts.Perm ts') (hn : (ts.map Threshold.id).Nodup)
    (id : Nat) : Threshold.limit? ts id = Threshold.limit? ts' id := by
  have hn' : (ts'.map Threshold.id).Nodup := (h.map Threshold.id).nodup_iff.1 hn
  exact Option.ext fun l => by rw [limit?_eq_some_iff hn, limit?_eq_some_iff hn', h.mem_iff]

theorem limit?_swap {b b' : Block 512} {before after : List (Block 12)} {x y : Block 12}
    (h : b.records 2 12 30 = before ++ x :: y :: after) (h' : b'.records 2 12 30 = before ++ y :: x :: after)
    (hne : x.byte 0 ≠ y.byte 0) {id : Nat} (hid : id ≠ 0) :
    Threshold.limit? (Threshold.ofSector? (some b)) id = Threshold.limit? (Threshold.ofSector? (some b')) id := by
  rw [limit?_ofSector? b hid, limit?_ofSector? b' hid, h, h', List.find?_append, List.find?_append]
  by_cases hx : x.byte 0 = id
  · have hy : y.byte 0 ≠ id := fun hy => hne (hx.trans hy.symm)
    simp [hx, hy]
  · simp [List.find?_cons, hx]

/-- Whether an attribute fails by its limit, where none counts as 0. -/
structure Fails (slot : Block 12) (limit : Option Nat) (state : Failing) : Prop where
  now : state = .now ↔ limit.getD 0 ≠ 0 ∧ slot.byte 3 ≤ limit.getD 0
  past : state = .past ↔ limit.getD 0 ≠ 0 ∧ limit.getD 0 < slot.byte 3 ∧ slot.byte 4 ≤ limit.getD 0

theorem fails_failing (slot : Block 12) (limit : Option Nat) :
    Fails slot limit ((Attribute.ofBlock slot).failing limit) := by
  cases limit with
  | none => exact ⟨by simp [Attribute.failing], by simp [Attribute.failing]⟩
  | some t =>
    have hfailing : (Attribute.ofBlock slot).failing (some t) =
        if t ≠ 0 ∧ slot.byte 3 ≤ t then .now else if t ≠ 0 ∧ slot.byte 4 ≤ t then .past else .never := rfl
    rw [hfailing]
    by_cases hnow : t ≠ 0 ∧ slot.byte 3 ≤ t
    · rw [if_pos hnow]
      exact ⟨iff_of_true rfl hnow, iff_of_false (by simp) fun h => Nat.not_lt.2 hnow.2 h.2.1⟩
    · rw [if_neg hnow]
      by_cases hpast : t ≠ 0 ∧ slot.byte 4 ≤ t
      · rw [if_pos hpast]
        have hlate : t < slot.byte 3 := Nat.lt_of_not_le fun h => hnow ⟨hpast.1, h⟩
        exact ⟨iff_of_false (by simp) hnow, iff_of_true rfl ⟨hpast.1, hlate, hpast.2⟩⟩
      · rw [if_neg hpast]
        exact ⟨iff_of_false (by simp) hnow, iff_of_false (by simp) fun h => hpast ⟨h.1, h.2.2⟩⟩

namespace Exam

open Text Procedure

def tableHeader (f : TableFormat) : String :=
  if f.brief then "ID# ATTRIBUTE_NAME          FLAGS    VALUE WORST THRESH FAIL RAW_VALUE\n"
  else "ID# ATTRIBUTE_NAME          FLAG     VALUE WORST THRESH TYPE      UPDATED  WHEN_FAILED RAW_VALUE\n"

/-- What a line of the table says of a slot, column by column. -/
structure RowText (f : TableFormat) (slot : Block 12) (limit : Option Nat) (state : Failing) (line : String) :
    Prop where
  oneLine : ∃ row, '\n' ∉ row.toList ∧ line = row ++ "\n"
  id : under (tableHeader f) "ID#" line =
    some (if f.hexId then "0x" ++ hex 2 (slot.byte 0) else toString (slot.byte 0))
  name : under (tableHeader f) "ATTRIBUTE_NAME" line = some (Attribute.name (slot.byte 0))
  value : under (tableHeader f) "VALUE" line = some (zeroPadded 3 (slot.byte 3))
  worst : under (tableHeader f) "WORST" line = some (zeroPadded 3 (slot.byte 4))
  thresh : under (tableHeader f) "THRESH" line = some ((limit.map (zeroPadded 3)).getD "---")
  whenFailed : under (tableHeader f) (if f.brief then "FAIL" else "WHEN_FAILED") line = some (match state with
    | .never => "-"
    | .past => if f.brief then "Past" else "In_the_past"
    | .now => if f.brief then "NOW" else "FAILING_NOW")
  raw : under (tableHeader f) "RAW_VALUE" line =
    some (if f.hexRaw then "0x" ++ hex 12 (slot.little 5 6) else toString (slot.little 5 6))

/-- What a row of the report says of a slot. -/
structure RowDatum (slot : Block 12) (limit : Option Nat) (state : Failing) (row : Datum) : Prop where
  id : row.fields.get? "id" = some (.nat (slot.byte 0))
  name : row.fields.get? "name" = some (.text (Attribute.name (slot.byte 0)))
  value : row.fields.get? "value" = some (.nat (slot.byte 3))
  worst : row.fields.get? "worst" = some (.nat (slot.byte 4))
  thresh : row.fields.get? "thresh" = some (.nat (limit.getD 0))
  whenFailed : row.fields.get? "when_failed" = some (.text (match state with
    | .never => ""
    | .past => "past"
    | .now => "now"))
  raw : row.fields.get? "raw" =
    some (.record [("value", .nat (slot.little 5 6)), ("string", .text (toString (slot.little 5 6)))])

theorem words_tableHeader (f : TableFormat) : words (tableHeader f) =
    if f.brief then ["ID#", "ATTRIBUTE_NAME", "FLAGS", "VALUE", "WORST", "THRESH", "FAIL", "RAW_VALUE"]
    else ["ID#", "ATTRIBUTE_NAME", "FLAG", "VALUE", "WORST", "THRESH", "TYPE", "UPDATED", "WHEN_FAILED",
      "RAW_VALUE"] := by
  unfold tableHeader
  split <;> decide +kernel

theorem rowText_line (f : TableFormat) (slot : Block 12) (limit : Option Nat) :
    RowText f slot limit ((Attribute.ofBlock slot).failing limit)
      (AttributeRow.line f ⟨Attribute.ofBlock slot, limit⟩) := by
  have hid : (AttributeRow.idCell f (slot.byte 0)).2 =
      if f.hexId then "0x" ++ hex 2 (slot.byte 0) else toString (slot.byte 0) := by
    unfold AttributeRow.idCell
    split <;> rfl
  constructor
  case oneLine =>
    let r : AttributeRow := ⟨Attribute.ofBlock slot, limit⟩
    refine ⟨String.ofList (laid (r.cells f)), ?_, ?_⟩
    · rw [String.toList_ofList]
      exact newline_notMem_laid (r.apart_cells f).words
    · refine String.toList_inj.1 ?_
      rw [r.line_eq f, String.toList_append, String.toList_ofList]
      rfl
  -- the cells stand in the order of the titles
  all_goals
    rw [under, words_tableHeader, AttributeRow.words_line]
    cases hbrief : f.brief <;> simp [AttributeRow.cells, hbrief, List.lookup_cons, AttributeRow.failing]
  case id.false | id.true => exact hid
  case whenFailed.false | whenFailed.true => cases (Attribute.ofBlock slot).failing limit <;> rfl
  all_goals rfl

theorem rowDatum_datum (slot : Block 12) (limit : Option Nat) :
    RowDatum slot limit ((Attribute.ofBlock slot).failing limit)
      (AttributeRow.datum ⟨Attribute.ofBlock slot, limit⟩) where
  id := rfl
  name := rfl
  value := rfl
  worst := rfl
  thresh := rfl
  whenFailed := by
    cases h : (Attribute.ofBlock slot).failing limit <;>
      simp [AttributeRow.datum, AttributeRow.failing, h, Datum.fields, Fields.get?, List.lookup_cons]
  raw := rfl

variable {σ : Type}

/-- The rows of a table: a line of the text and a row of the report each. -/
def tableRows (f : TableFormat) (d : SmartData) (ts : List Threshold) : List (String × Datum) :=
  (AttributeRow.join d ts).map fun r => (r.line f, r.datum)

def tableTexts (f : TableFormat) (revision : Nat) (lines : List String) : List String :=
  [s!"SMART Attributes Data Structure revision number: {revision}\n",
    "Vendor Specific SMART Attributes with Thresholds:\n", tableHeader f] ++ lines ++ ["\n"]

theorem line_ne_empty (f : TableFormat) (r : AttributeRow) : r.line f ≠ "" := fun h => by
  simpa [r.line_eq f] using congrArg String.toList h

theorem isEmpty_of_mem_tableTexts {f : TableFormat} {revision : Nat} {lines : List String}
    (h : ∀ line ∈ lines, line ≠ "") : ∀ text ∈ tableTexts f revision lines, text.isEmpty = false := by
  have hheader : tableHeader f ≠ "" := by
    unfold tableHeader
    split <;> decide +kernel
  simp only [tableTexts, List.forall_mem_append, List.forall_mem_cons]
  exact ⟨⟨⟨by simp, by simp, by simpa using hheader, by simp⟩, fun line hline => by simpa using h line hline⟩,
    by simp⟩

/-- The table writes its text, and then its rows once more for the report. -/
theorem script_attributes (d : SmartData) (ts : List Threshold) (f : TableFormat)
    (reply : Taskfile → Except Fault Response) :
    (attributes d ts f).script reply =
      (tableTexts f d.revision ((tableRows f d ts).map (·.1))).map (.said .plain ·) ++
        [.wrote (.set "ata_smart_attributes"
          (.record [("revision", .nat d.revision), ("table", .list ((tableRows f d ts).map (·.2)))]))] := by
  have hlines (ls : List String) :
      (ls.flatMap fun l => [.said .plain l] : List (Act Taskfile Response)) = ls.map (.said .plain ·) :=
    List.map_eq_flatMap.symm
  simp [attributes, tableTexts, tableHeader, tableRows, hlines, Function.comp_def]

theorem run_attributes (d : SmartData) (ts : List Threshold) (f : TableFormat) (ch : Channel Taskfile Response σ)
    (name : Taskfile → String) (trace : Bool) (s : σ) {r : Recorder} (shown : r.transcript.suppressed = false) :
    let out := Procedure.run ch name trace (attributes d ts f) s r
    let rows := tableRows f d ts
    out.result = some () ∧ out.channel = s ∧
      out.recorder.transcript.events =
        r.transcript.events ++ (tableTexts f d.revision (rows.map (·.1))).map (⟨.plain, ·⟩) ∧
      out.recorder.report = r.report.set "ata_smart_attributes"
        (.record [("revision", .nat d.revision), ("table", .list (rows.map (·.2)))]) := by
  intro out rows
  have hcourse := course_writing (writing_attributes d ts f) (fun _ => .error (.io "")) ch s r.tolerance
  have hacts := (congrArg (·.acts) hcourse).trans (script_attributes d ts f _)
  have hfilled : ∀ text ∈ tableTexts f d.revision (rows.map (·.1)), text.isEmpty = false := by
    refine isEmpty_of_mem_tableTexts fun line h => ?_
    obtain ⟨_, hmem, rfl⟩ := List.mem_map.1 h
    obtain ⟨row, -, rfl⟩ := List.mem_map.1 hmem
    exact line_ne_empty f row
  refine ⟨?_, ?_, ?_, ?_⟩
  · show (Procedure.run ch name trace (attributes d ts f) s r).result = some ()
    rw [run_eq_course, hcourse]
  · show (Procedure.run ch name trace (attributes d ts f) s r).channel = s
    rw [run_eq_course, hcourse]
  · rw [events_run ch name trace hacts shown, List.flatMap_append, Act.flatMap_events_said name trace _ hfilled]
    simp [Act.events]
  · rw [report_run ch name trace hacts, List.flatMap_append, Act.flatMap_writes_said]
    rfl

/-- A slot of the values, and what the text and the report say of it. -/
def Joins (limits : Option (Block 512)) (f : TableFormat) (slot : Block 12) (row : String × Datum) : Prop :=
  ∃ limit state, LimitOf limits (slot.byte 0) limit ∧ Fails slot limit state ∧
    RowText f slot limit state row.1 ∧ RowDatum slot limit state row.2

theorem ne_zero_of_mem_usedSlots {b : Block 512} {slot : Block 12} (h : slot ∈ usedSlots b) : slot.byte 0 ≠ 0 := by
  simpa using (List.mem_filter.1 h).2

theorem joins_tableRows (b : Block 512) (limits : Option (Block 512)) (f : TableFormat) :
    List.Forall₂ (Joins limits f) (usedSlots b)
      (tableRows f (SmartData.ofBlock b) (Threshold.ofSector? limits)) := by
  rw [tableRows, AttributeRow.join, SmartData.ofBlock, List.map_map, List.map_map, List.forall₂_map_right_iff,
    List.forall₂_same]
  intro slot hslot
  exact ⟨_, _, limitOf_limit? limits (ne_zero_of_mem_usedSlots hslot), fails_failing slot _,
    rowText_line f slot _, rowDatum_datum slot _⟩

theorem attributes_congr (b : Block 512) {ts ts' : List Threshold}
    (h : ∀ id, id ≠ 0 → Threshold.limit? ts id = Threshold.limit? ts' id) (f : TableFormat) :
    attributes (SmartData.ofBlock b) ts f = attributes (SmartData.ofBlock b) ts' f := by
  have hjoin : AttributeRow.join (SmartData.ofBlock b) ts = AttributeRow.join (SmartData.ofBlock b) ts' := by
    refine List.map_congr_left fun a ha => ?_
    obtain ⟨slot, hslot, rfl⟩ := List.mem_map.1 ha
    exact congrArg (AttributeRow.mk _) (h _ (ne_zero_of_mem_usedSlots hslot))
  simp only [attributes, hjoin]

def sector? (reply : Except Fault Response) : Option (Block 512) :=
  (reply.toOption.bind fun r => r.sector.toOption).bind (Block.ofOctets? 512)

theorem le_length_sector {r : Response} {bs : List UInt8} (h : r.sector = .ok bs) : 512 ≤ bs.length := by
  rw [Response.sector] at h
  split at h
  · cases h
  · rename_i hlong
    obtain rfl := Except.ok.inj h
    rw [List.length_take]
    simp only [sectorSize] at hlong ⊢
    omega

theorem result_thresholds (ch : Channel Taskfile Response σ) (s : σ) (t : Tolerance) {ts : List Threshold}
    (h : (thresholds.course ch s t).result = some ts) :
    ts = Threshold.ofSector? (sector? (ch.send .smartReadThresholds s).1) := by
  rw [thresholds, course_read_bind, Course.result_after] at h
  have hunread {e : Fault} {s : σ}
      (h : (((unread "SMART Thresholds" e >>= fun _ => pure []) : Exam (List Threshold)).course ch s t).result =
        some ts) : ts = [] := by
    have hgoes := course_bind ch (unread "SMART Thresholds" e) (fun _ => (pure [] : Exam (List Threshold))) s t
    generalize ((unread "SMART Thresholds" e >>= fun _ => pure []) : Exam (List Threshold)).course ch s t = k
      at h hgoes
    cases hgoes with
    | refused => cases h
    | further => exact (Option.some.inj h).symm
  cases hreply : (ch.send .smartReadThresholds s).1 with
  | error e =>
    rw [hreply] at h
    exact hunread h
  | ok r =>
    rw [hreply] at h
    cases hsector : r.sector with
    | error e =>
      simp only [Except.bind, hsector] at h
      have hnone : sector? (.ok r) = none := by simp [sector?, Except.toOption, hsector]
      rw [hnone]
      exact hunread h
    | ok bs =>
      obtain ⟨b, rfl⟩ := Checked.exists_block (le_length_sector hsector)
      have hdecode : Threshold.decodeAll b.octets = .ok ((usedSlots b).map Threshold.ofBlock) := by
        rw [Threshold.decodeAll, Checked.require_octets]
        rfl
      have hsome : sector? (.ok r) = some b := by
        simp [sector?, Except.toOption, hsector, Checked.ofOctets?_octets]
      simp only [Except.bind, hsector, hdecode] at h
      rw [hsome]
      exact (Option.some.inj h).symm

/-- Values and limits are joined exactly: each used slot of the values gives one line and one row of the report, in
the order of the slots, with the limit of the first slot of its identifier. The raw value has 48 bits. The report
is the same in every format, and slots of limits with different identifiers may change places. -/
theorem attribute_table_joins (b : Block 512) (limits : Option (Block 512)) (f : TableFormat)
    (ch : Channel Taskfile Response σ) (trace : Bool) (s : σ) {r : Recorder}
    (shown : r.transcript.suppressed = false) :
    let run (limits : Option (Block 512)) (f : TableFormat) := Procedure.run ch Taskfile.name trace
      (attributes (SmartData.ofBlock b) (Threshold.ofSector? limits) f) s r
    let out := run limits f
    let slots := (b.records 2 12 30).filter fun slot => slot.byte 0 != 0
    (∃ rows : List (String × Datum), out.result = some () ∧ List.Forall₂ (Joins limits f) slots rows ∧
      out.recorder.transcript.events = r.transcript.events ++
        ([s!"SMART Attributes Data Structure revision number: {b.little 0 2}\n",
          "Vendor Specific SMART Attributes with Thresholds:\n", tableHeader f] ++ rows.map (·.1) ++ ["\n"]).map
            (⟨.plain, ·⟩) ∧
      out.recorder.report = r.report.set "ata_smart_attributes"
        (.record [("revision", .nat (b.little 0 2)), ("table", .list (rows.map (·.2)))])) ∧
    (∀ slot ∈ slots, slot.little 5 6 < 2 ^ 48) ∧
    (∀ f', (run limits f').recorder.report = out.recorder.report) ∧
    (∀ c c' : Block 512, limits = some c → (c.records 2 12 30).Perm (c'.records 2 12 30) →
      ((usedSlots c).map fun slot => slot.byte 0).Nodup → run (some c') f = out) ∧
    (∀ (c c' : Block 512) (before after : List (Block 12)) (x y : Block 12), limits = some c →
      c.records 2 12 30 = before ++ x :: y :: after → c'.records 2 12 30 = before ++ y :: x :: after →
      x.byte 0 ≠ y.byte 0 → run (some c') f = out) ∧
    ∀ (t : Tolerance) (ts : List Threshold), (thresholds.course ch s t).result = some ts →
      ts = Threshold.ofSector? (sector? (ch.send .smartReadThresholds s).1) := by
  intro run out slots
  refine ⟨?_, fun slot _ => slot.little_lt 5 6 rfl, fun f' => ?_, ?_, ?_, fun t ts => result_thresholds ch s t⟩
  · obtain ⟨hresult, -, hevents, hreport⟩ :=
      run_attributes (SmartData.ofBlock b) (Threshold.ofSector? limits) f ch Taskfile.name trace s shown
    exact ⟨_, hresult, joins_tableRows b limits f, hevents, hreport⟩
  · have hreport (f : TableFormat) := (run_attributes (SmartData.ofBlock b) (Threshold.ofSector? limits) f ch
      Taskfile.name trace s shown).2.2.2
    have hrows : (tableRows f' (SmartData.ofBlock b) (Threshold.ofSector? limits)).map (·.2) =
        (tableRows f (SmartData.ofBlock b) (Threshold.ofSector? limits)).map (·.2) := by
      simp [tableRows, List.map_map, Function.comp_def]
    rw [hreport f', hreport f, hrows]
  · rintro c c' rfl hperm hdistinct
    have hlimits : (Threshold.ofSector? (some c)).Perm (Threshold.ofSector? (some c')) :=
      (hperm.filter _).map _
    have hids : ((Threshold.ofSector? (some c)).map Threshold.id).Nodup := by
      rw [Threshold.ofSector?, List.map_map]
      exact hdistinct
    have hsame := attributes_congr b (fun id _ => (Threshold.limit?_perm hlimits hids id).symm) f
    simp only [out, run, hsame]
  · rintro c c' before after x y rfl hc hc' hne
    have hsame := attributes_congr b (fun id hid => (limit?_swap hc hc' hne hid).symm) f
    simp only [out, run, hsame]

theorem attribute_table_joins_failing :
    let sector (slots : List UInt8) : Block 512 :=
      ⟨[16, 0] ++ slots ++ List.replicate 512 0, by simp only [List.length_append, List.length_replicate]; omega⟩
    let values := sector [5, 0x33, 0, 36, 40, 0, 7, 0, 0, 0, 0, 0]
    let reallocated : List UInt8 := [5, 36, 0, 0, 0, 0, 0, 0, 0, 0, 0, 0]
    let hours : List UInt8 := [9, 1, 0, 0, 0, 0, 0, 0, 0, 0, 0, 0]
    let ch : Channel Taskfile Response Unit := ⟨fun _ u => (.error (.io ""), u)⟩
    let run (limits : List UInt8) := Procedure.run ch Taskfile.name false
      (attributes (SmartData.ofBlock values) (Threshold.ofSector? (some (sector limits))) {}) ()
      (Recorder.start ⟨0, false⟩ {})
    (∃ line : String, ⟨.plain, line⟩ ∈ (run (hours ++ reallocated)).recorder.transcript.events ∧
      under (tableHeader {}) "THRESH" line = some "036" ∧
      under (tableHeader {}) "WHEN_FAILED" line = some "FAILING_NOW") ∧
    run (reallocated ++ hours) = run (hours ++ reallocated) := by
  intro sector values reallocated hours ch run
  obtain ⟨⟨rows, -, hrows, hevents, -⟩, -, -, -, hswap, -⟩ := attribute_table_joins values
    (some (sector (hours ++ reallocated))) {} ch false () (r := Recorder.start ⟨0, false⟩ {}) rfl
  constructor
  · obtain ⟨slot, hslots, hid, hvalue⟩ : ∃ slot : Block 12,
        (values.records 2 12 30).filter (fun slot => slot.byte 0 != 0) = [slot] ∧ slot.byte 0 = 5 ∧
          slot.byte 3 = 36 := ⟨_, rfl, rfl, rfl⟩
    rw [hslots] at hrows
    obtain ⟨row, rest, ⟨limit, state, hlimit, hfails, htext, -⟩, -, rfl⟩ := List.forall₂_cons_left_iff.1 hrows
    have hlimit : limit = some 36 := by
      rw [hid] at hlimit
      exact (hlimit.eq_limit? (by decide)).trans rfl
    have hstate : state = .now := hfails.now.2 (by simp [hlimit, hvalue])
    subst hlimit hstate
    refine ⟨row.1, ?_, htext.thresh, htext.whenFailed⟩
    beta_reduce at hevents
    simp only [run]
    rw [hevents]
    exact List.mem_append_right _ (List.mem_map.2 ⟨row.1, by simp, rfl⟩)
  · exact hswap _ (sector (reallocated ++ hours)) [] _ _ _ rfl rfl rfl (by decide)

end Exam

end DriveHealth.Ata
