import DriveHealth.Proofs.Checked
import DriveHealth.Proofs.Columns
import DriveHealth.Proofs.Heading
import DriveHealth.Proofs.Sector
import DriveHealth.Proofs.Showing
set_option autoImplicit false

namespace DriveHealth.Nvme

open Ata (field)

namespace ErrorEntry

/-- The record at a place of a log. -/
def read (bs : List UInt8) (place : Nat) : ErrorEntry where
  errorCount := field bs (64 * place) 8
  submissionQueue := field bs (64 * place + 8) 2
  commandId := field bs (64 * place + 10) 2
  status := field bs (64 * place + 12) 2
  lba := field bs (64 * place + 16) 8
  nsid := field bs (64 * place + 24) 4

/-- The places of the first records of a log that count an error. -/
def places (bs : List UInt8) (count : Nat) : List Nat :=
  (List.range count).filter fun place => field bs (64 * place) 8 != 0

theorem field_record {bs : List UInt8} {place start len : Nat} (h : start + len ≤ 64) :
    field ((bs.drop (64 * place)).take 64) start len = field bs (64 * place + start) len := by
  have hfit : min len (64 - start) = len := by omega
  rw [field, field, Ata.stretch, Ata.stretch, List.drop_take, List.take_take, List.drop_drop, hfit]

theorem read_record (bs : List UInt8) (place : Nat) :
    read ((bs.drop (64 * place)).take 64) 0 = read bs place := by
  simp [read, field_record]

theorem decodeAll_eq {bs : List UInt8} {count : Nat} (h : bs.length = 64 * count) :
    decodeAll bs = (places bs count).map (read bs) := by
  have hrange : List.range (bs.length / 64) = List.range count := by
    rw [h, Nat.mul_div_cancel_left _ (by decide)]
  let b : Block (64 * (bs.length / 64)) := ⟨bs, Nat.mul_div_le bs.length 64⟩
  have hrecords : (b.records 0 64 (bs.length / 64) (by simp)).map ofBlock = (List.range count).map (read bs) := by
    have hread : ofBlock = (read · 0) ∘ Block.octets := rfl
    have hoctets := Checked.octets_records b 0 64 (bs.length / 64) (by simp)
    simp only [Nat.zero_add] at hoctets
    rw [hread, ← List.map_map, hoctets, hrange, List.map_map]
    exact List.map_congr_left fun place _ => read_record bs place
  rw [decodeAll, hrecords, List.filter_map]
  rfl

end ErrorEntry

namespace Exam

open Text Procedure

variable {α β σ : Type}

/-- What a numbered line says of the record at a place of a log, column by column. -/
structure RowText (bs : List UInt8) (place number : Nat) (line : String) : Prop where
  oneLine : ∃ row, '\n' ∉ row.toList ∧ line = row ++ "\n"
  number : under errorTitles "Num" line = some (toString number)
  errorCount : under errorTitles "ErrCount" line = some (toString (field bs (64 * place) 8))
  submissionQueue : under errorTitles "SQId" line = some (toString (field bs (64 * place + 8) 2))
  commandId : under errorTitles "CmdId" line = some ("0x" ++ hex 4 (field bs (64 * place + 10) 2))
  status : under errorTitles "Status" line = some ("0x" ++ hex 4 (field bs (64 * place + 12) 2))
  nsid : under errorTitles "NSID" line = some (toString (field bs (64 * place + 24) 4))
  lba : under errorTitles "LBA" line = some (toString (field bs (64 * place + 16) 8))

/-- The row of the report for the record at a place of a log. -/
def rowDatum (bs : List UInt8) (place : Nat) : Datum := .record [
  ("error_count", .nat (field bs (64 * place) 8)),
  ("submission_queue_id", .nat (field bs (64 * place + 8) 2)),
  ("command_id", .nat (field bs (64 * place + 10) 2)),
  ("status_field", .nat (field bs (64 * place + 12) 2)),
  ("nsid", .nat (field bs (64 * place + 24) 4)),
  ("lba", .nat (field bs (64 * place + 16) 8))]

def numberCell (gap width n : Nat) : Nat × String := (gap + (width - (toString n).toList.length), toString n)

theorem isWord_numberCell (gap width n : Nat) : IsWord (numberCell gap width n).2 := isWord_toString n

theorem gap_numberCell {gap : Nat} (h : 0 < gap) (width n : Nat) : 0 < (numberCell gap width n).1 :=
  Nat.lt_of_lt_of_le h (Nat.le_add_right gap _)

def errorCells (number : Nat) (e : ErrorEntry) : List (Nat × String) :=
  [numberCell 0 3 number, numberCell 1 10 e.errorCount, numberCell 1 5 e.submissionQueue,
    (2, "0x" ++ hex 4 e.commandId), (2, "0x" ++ hex 4 e.status), numberCell 1 5 e.nsid, numberCell 1 13 e.lba]

theorem errorLine_eq (number : Nat) (e : ErrorEntry) :
    (errorLine number e).toList = laid (errorCells number e) ++ ['\n'] := by
  simp [errorLine, errorCells, numberCell, laid, column, toList_alignRight, List.replicate_add]

theorem apart_errorCells (number : Nat) (e : ErrorEntry) : Apart (errorCells number e) := by
  constructor
  · simp [errorCells, isWord_numberCell, isWord_prefixed]
  · simp [errorCells, gap_numberCell]

theorem words_errorTitles :
    words errorTitles = ["Num", "ErrCount", "SQId", "CmdId", "Status", "NSID", "LBA"] := by
  decide +kernel

theorem rowText_errorLine (bs : List UInt8) (place number : Nat) :
    RowText bs place number (errorLine number (ErrorEntry.read bs place)) := by
  have hapart := apart_errorCells number (ErrorEntry.read bs place)
  have hline := errorLine_eq number (ErrorEntry.read bs place)
  constructor
  case oneLine =>
    refine ⟨String.ofList (laid (errorCells number (ErrorEntry.read bs place))), ?_, ?_⟩
    · rw [String.toList_ofList]
      exact newline_notMem_laid hapart.words
    · refine String.toList_inj.1 ?_
      rw [hline, String.toList_append, String.toList_ofList]
      rfl
  -- the cells stand in the order of the titles
  all_goals
    rw [under, words_errorTitles, words_laid hapart hline]
    rfl

theorem errorLog_eq (wanted : Nat) (c : Option Controller) : errorLog wanted c =
    let available := (c.map (·.errorLogEntries)).getD 16
    let count := max 1 (min wanted available)
    send (.logPage 0x01 (count * ErrorEntry.size)) >>= fun
      | .error e => fail .optional s!"Read NVMe Error Information Log failed: {e.message}\n"
      | .ok bs => showErrors count available (ErrorEntry.decodeAll bs) := rfl

def errorTexts (count available : Nat) (lines : List String) : List String :=
  s!"Error Information (NVMe Log 0x01, {count} of {available} entries)\n" ::
    if lines.isEmpty then [noErrors] else errorTitles :: (lines ++ ["\n"])

def errorRows (bs : List UInt8) (count : Nat) : List (String × Datum) :=
  (ErrorEntry.places bs count).zipIdx.map fun x =>
    (errorLine x.2 (ErrorEntry.read bs x.1), rowDatum bs x.1)

theorem map_fst_errorRows (bs : List UInt8) (count : Nat) :
    (errorRows bs count).map (·.1) = ((ErrorEntry.places bs count).map (ErrorEntry.read bs)).mapIdx errorLine := by
  simp [errorRows, List.mapIdx_eq_zipIdx_map, List.zipIdx_map, Function.comp_def]

theorem map_snd_errorRows (bs : List UInt8) (count : Nat) :
    (errorRows bs count).map (·.2) = (ErrorEntry.places bs count).map (rowDatum bs) := by
  rw [errorRows, List.map_map]
  conv => rhs; rw [← List.zipIdx_map_fst 0 (ErrorEntry.places bs count), List.map_map]
  rfl

theorem script_showErrors {bs : List UInt8} {count : Nat} (h : bs.length = 64 * count) (available : Nat)
    (reply : Command → Except Fault (List UInt8)) :
    (showErrors count available (ErrorEntry.decodeAll bs)).script reply =
      (errorTexts count available ((errorRows bs count).map (·.1))).map (.said .plain ·) ++
        [.wrote (.set errorKey (.record [
          ("size", .nat available),
          ("read", .nat count),
          ("logged", .nat (ErrorEntry.places bs count).length),
          ("table", .list ((errorRows bs count).map (·.2)))]))] := by
  have hlines (ls : List String) :
      (ls.flatMap fun l => [.said .plain l] : List (Act Command (List UInt8))) = ls.map (.said .plain ·) :=
    List.map_eq_flatMap.symm
  have hdatum : errorDatum ∘ ErrorEntry.read bs = rowDatum bs := rfl
  rw [ErrorEntry.decodeAll_eq h, map_fst_errorRows, map_snd_errorRows]
  by_cases hnone : ErrorEntry.places bs count = []
  · simp [showErrors, errorTexts, hnone]
  · simp [showErrors, errorTexts, hnone, hlines, hdatum]

/-- A text that does not say that a log is empty, as its first letters show. -/
def OtherNews (text : String) : Prop := departs ['N', 'o', ' ', 'E'] text.toList = true

@[simp low] theorem otherNews_of_departs {text : String} (h : departs ['N', 'o', ' ', 'E'] text.toList = true) :
    OtherNews text := h

@[simp] theorem OtherNews.append {s : String} (h : OtherNews s) (t : String) : OtherNews (s ++ t) := by
  rw [OtherNews, String.toList_append]
  exact departs_append_right h _

@[simp] theorem otherNews_ite (c : Prop) [Decidable c] (s t : String) :
    OtherNews (if c then s else t) ↔ if c then OtherNews s else OtherNews t := by
  split <;> rfl

theorem OtherNews.ne {text : String} (h : OtherNews text) : text ≠ noErrors := by
  rintro rfl
  contradiction

theorem RowText.ne_noErrors {bs : List UInt8} {place number : Nat} {line : String}
    (h : RowText bs place number line) : line ≠ noErrors := by
  obtain ⟨row, hrow, rfl⟩ := h.oneLine
  intro heq
  have hrowEq : row = "No Errors Logged\n" := by
    have hlists : row.toList ++ ['\n'] = "No Errors Logged\n".toList ++ ['\n'] := by
      simpa [noErrors] using congrArg String.toList heq
    exact String.toList_inj.1 (List.append_cancel_right hlists)
  exact hrow (by rw [hrowEq]; decide)

theorem rowText_errorRows (bs : List UInt8) (count : Nat) :
    List.Forall₂ (fun (place : Nat × Nat) row => RowText bs place.1 place.2 row.1 ∧ row.2 = rowDatum bs place.1)
      (ErrorEntry.places bs count).zipIdx (errorRows bs count) := by
  rw [errorRows, List.forall₂_map_right_iff, List.forall₂_same]
  exact fun place _ => ⟨rowText_errorLine bs place.1 place.2, rfl⟩

theorem noErrors_mem_errorTexts_iff (bs : List UInt8) (count available : Nat) :
    noErrors ∈ errorTexts count available ((errorRows bs count).map (·.1)) ↔
      (ErrorEntry.places bs count).length = 0 := by
  have hheading : noErrors ≠ s!"Error Information (NVMe Log 0x01, {count} of {available} entries)\n" :=
    (OtherNews.ne (by simp)).symm
  have hlength : (errorRows bs count).length = (ErrorEntry.places bs count).length := by simp [errorRows]
  have hlines : ∀ line ∈ (errorRows bs count).map (·.1), line ≠ noErrors := by
    intro line hline
    obtain ⟨row, hrow, rfl⟩ := List.mem_map.1 hline
    obtain ⟨place, -, rfl⟩ := List.mem_map.1 hrow
    exact (rowText_errorLine bs place.1 place.2).ne_noErrors
  rw [errorTexts, List.mem_cons, or_iff_right hheading, ← hlength]
  cases hrows : errorRows bs count with
  | nil => simp
  | cons row rows =>
    rw [hrows] at hlines
    have hno : noErrors ∉ errorTitles :: ((row :: rows).map (·.1) ++ ["\n"]) := by
      simp only [List.mem_cons, List.mem_append, List.not_mem_nil, or_false, not_or]
      exact ⟨by decide, fun hmem => hlines _ hmem rfl, by decide⟩
    exact iff_of_false hno (by simp)

theorem errorTexts_filled (bs : List UInt8) (count available : Nat) :
    ∀ text ∈ errorTexts count available ((errorRows bs count).map (·.1)), text.isEmpty = false := by
  have hlines : ∀ line ∈ (errorRows bs count).map (·.1), line.isEmpty = false := by
    intro line hline
    obtain ⟨row, hrow, rfl⟩ := List.mem_map.1 hline
    obtain ⟨place, -, rfl⟩ := List.mem_map.1 hrow
    obtain ⟨text, -, heq⟩ := (rowText_errorLine bs place.1 place.2).oneLine
    simp [heq]
  rw [errorTexts, List.forall_mem_cons]
  refine ⟨by simp, ?_⟩
  split
  · simp [noErrors]
  · simp only [List.forall_mem_cons, List.forall_mem_append]
    exact ⟨by decide, hlines, by simp⟩

end Exam

end DriveHealth.Nvme
