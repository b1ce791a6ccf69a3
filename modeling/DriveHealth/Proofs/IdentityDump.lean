import DriveHealth.Proofs.Capacities
import DriveHealth.Proofs.NameLines
import Mathlib.Data.List.Flatten
set_option autoImplicit false

/-!
The dump of the words and bits of an identity. Its levels only choose which lines are left out: every dump is the
full one with some words missing, and their bits with them, and some bits of the words that are there.
-/

namespace DriveHealth

namespace Text

theorem oneLine_alignRight {s : String} (h : OneLine s.toList) (width : Nat) :
    OneLine (alignRight width s).toList := by
  have hblank : ∀ c ∈ List.replicate (width - s.toList.length) ' ', c = ' ' := fun c hc =>
    List.eq_of_mem_replicate hc
  rw [toList_alignRight]
  refine OneLine.append ⟨fun hc => ?_, fun hc => ?_⟩ h
  · exact absurd (hblank _ hc) (by decide)
  · exact absurd (hblank _ (List.mem_of_getLast? hc)) (by decide)

end Text

namespace Ata

theorem forall_mem_ite {P : String → Prop} {c : Prop} [Decidable c] {text : String} {rest : Option String}
    (htext : P text) (hrest : ∀ d ∈ rest, P d) : ∀ d ∈ (if c then some text else rest), P d := by
  split
  · simpa using htext
  · exact hrest

theorem Identity.oneLine_describe? (i : Nat) : ∀ d ∈ describe? i, Text.OneLine d.toList := by
  rw [describe?]
  repeat refine forall_mem_ite (by decide +kernel) ?_
  simp

namespace Exam

open Procedure

def about (i : Nat) : String := (Identity.describe? i).getD "-"

def ownLine (i w : Nat) : String := s!"{Text.column 4 i}     0x{Text.hex 4 w}  {about i}"

def bitName (i k : Nat) : String := s!"{i}.{k}"

def digit (on : Bool) : String := if on then "1" else "0"

def bitLine (i k : Nat) (on : Bool) : String := s!"{Text.alignRight 9 (bitName i k)}  {digit on}"

def listsWord (w : Nat) (wordLevel : Int) : Bool := 1 ≤ wordLevel || Identity.reports w

def listsBit (i w : Nat) (bitLevel : Int) (k : Nat) : Bool :=
  match bitLevel with
  | 0 => Identity.reports w && (Identity.describe? i).isSome && w.testBit k
  | 1 => Identity.reports w && w.testBit k
  | 2 => true
  | _ => false

def bitsShown (i w : Nat) (bitLevel : Int) : List String :=
  ((List.range 16).reverse.filter fun k => listsBit i w bitLevel k).map fun k => bitLine i k (w.testBit k)

def linesOf (i w : Nat) (wordLevel bitLevel : Int) : List String :=
  if listsWord w wordLevel then ownLine i w :: bitsShown i w bitLevel else []

theorem bitLines_eq (i w : Nat) (bitLevel : Int) :
    bitLines i w bitLevel = (bitsShown i w bitLevel).map (· ++ "\n") := by
  obtain rfl | rfl | rfl | ⟨h0, h1, h2⟩ :
      bitLevel = 0 ∨ bitLevel = 1 ∨ bitLevel = 2 ∨ bitLevel ≠ 0 ∧ bitLevel ≠ 1 ∧ bitLevel ≠ 2 := by omega
  · simp [bitLines, bitsShown, listsBit, bitLine, bitName, digit, Function.comp_def]
  · simp [bitLines, bitsShown, listsBit, bitLine, bitName, digit, Function.comp_def]
  · simp [bitLines, bitsShown, listsBit, bitLine, bitName, digit, Function.comp_def]
  · simp [bitLines, bitsShown, listsBit]

theorem wordLines_eq (i w : Nat) (wordLevel bitLevel : Int) :
    wordLines i w wordLevel bitLevel = (linesOf i w wordLevel bitLevel).map (· ++ "\n") := by
  have hlists : (decide (wordLevel < 1) && !Identity.reports w) = !listsWord w wordLevel := by
    rw [listsWord, Bool.not_or, ← decide_not, decide_eq_decide.2 Int.not_le]
  rw [wordLines, linesOf, hlists, bitLines_eq]
  cases listsWord w wordLevel <;> rfl

theorem isWord_bitName (i k : Nat) : Text.IsWord (bitName i k) :=
  ((Text.isWord_toString i).append (by decide)).append (Text.isWord_toString k)

theorem isWord_digit (on : Bool) : Text.IsWord (digit on) := by
  cases on <;> decide

theorem words_bitLine (i k : Nat) (on : Bool) : Text.words (bitLine i k on) = [bitName i k, digit on] := by
  have hapart : Text.Apart [(9 - (bitName i k).toList.length, bitName i k), (2, digit on)] :=
    ⟨by simp [isWord_bitName, isWord_digit], by simp⟩
  have hline : (bitLine i k on).toList =
      Text.laid [(9 - (bitName i k).toList.length, bitName i k), (2, digit on)] ++ [] := by
    simp [bitLine, Text.laid, Text.toList_alignRight]
  exact Text.words_laid_append hapart (by simp) hline

theorem head?_words_ownLine (i w : Nat) : (Text.words (ownLine i w)).head? = some (toString i) := by
  have hline : (ownLine i w).toList = List.replicate (4 - (toString i).toList.length) ' ' ++
      ((toString i).toList ++ ' ' :: ("    0x" ++ Text.hex 4 w ++ "  " ++ about i).toList) := by
    simp [ownLine, Text.column, Text.toList_alignRight]
  exact Text.head?_words (Text.isWord_toString i) hline

def dumpTitle : List String := ["=== ATA IDENTIFY DEVICE DATA ===", "Word     Value   Description"]

/-- The lines of a dump of words. -/
def dumpLines (value : Nat → Nat) (wordLevel bitLevel : Int) : List String :=
  dumpTitle ++ (List.range 256).flatMap fun i => linesOf i (value i) wordLevel bitLevel

theorem oneLine_ownLine (i w : Nat) : Text.OneLine (ownLine i w).toList := by
  have hi : Text.OneLine (Text.column 4 i).toList :=
    Text.oneLine_alignRight (Text.oneLine_of_not_blank (Text.isWord_toString i).2) 4
  have hw : Text.OneLine (Text.hex 4 w).toList := Text.oneLine_of_not_blank (Text.isWord_hex 4 w).2
  have habout : Text.OneLine (about i).toList := by
    rw [about]
    cases h : Identity.describe? i with
    | none => decide
    | some d => exact Identity.oneLine_describe? i d h
  simp only [ownLine, String.toList_append]
  exact (((hi.append (by decide)).append hw).append (by decide)).append habout

theorem oneLine_bitLine (i k : Nat) (on : Bool) : Text.OneLine (bitLine i k on).toList := by
  have hname : Text.OneLine (bitName i k).toList := Text.oneLine_of_not_blank (isWord_bitName i k).2
  simp only [bitLine, String.toList_append]
  exact ((Text.oneLine_alignRight hname 9).append (by decide)).append
    (Text.oneLine_of_not_blank (isWord_digit on).2)

theorem mem_linesOf {i w : Nat} {wordLevel bitLevel : Int} {l : String} : l ∈ linesOf i w wordLevel bitLevel ↔
    listsWord w wordLevel = true ∧ (l = ownLine i w ∨
      ∃ k < 16, listsBit i w bitLevel k = true ∧ l = bitLine i k (w.testBit k)) := by
  cases h : listsWord w wordLevel with
  | false => simp [linesOf, h]
  | true => simp [linesOf, h, bitsShown, and_assoc, eq_comm (a := l)]

theorem oneLine_linesOf {i w : Nat} {wordLevel bitLevel : Int} {l : String} (hl : l ∈ linesOf i w wordLevel bitLevel) :
    Text.OneLine l.toList ∧ l ≠ "" := by
  have hempty : Text.words "" = [] := rfl
  obtain ⟨-, rfl | ⟨k, -, -, rfl⟩⟩ := mem_linesOf.1 hl
  · refine ⟨oneLine_ownLine i w, fun h => ?_⟩
    have hhead := head?_words_ownLine i w
    simp [h, hempty] at hhead
  · refine ⟨oneLine_bitLine i k _, fun h => ?_⟩
    have hwords := words_bitLine i k (w.testBit k)
    simp [h, hempty] at hwords

theorem flatten_mapIdx_words (b : Block 512) (g : Nat → Nat → List String) :
    ((Identity.ofBlock b).words.mapIdx g).flatten = (List.range 256).flatMap fun i => g i (field b.octets (2 * i) 2) := by
  have hwords : (Identity.ofBlock b).words.mapIdx g = (List.range 256).map fun i => g i (field b.octets (2 * i) 2) := by
    rw [Identity.words_ofBlock]
    apply List.ext_getElem <;> simp
  rw [hwords, List.flatMap_def]

theorem script_dump (f : Taskfile → Except Fault Response) (b : Block 512) (wordLevel bitLevel : Int) :
    (dump (.ofBlock b) wordLevel bitLevel).script f =
      ((dumpLines (fun i => field b.octets (2 * i) 2) wordLevel bitLevel).map fun l => Act.said .plain (l ++ "\n")) ++
        [.said .plain "\n", .wrote (.set "ata_identify_device"
          (.record [("words", .list ((List.range 256).map fun i => .nat (field b.octets (2 * i) 2)))]))] := by
  have hlines : ((Identity.ofBlock b).words.mapIdx fun i w => wordLines i w wordLevel bitLevel).flatten =
      ((List.range 256).flatMap fun i => linesOf i (field b.octets (2 * i) 2) wordLevel bitLevel).map (· ++ "\n") := by
    simp only [flatten_mapIdx_words, wordLines_eq, List.map_flatMap]
  have hwords : (Identity.ofBlock b).words.map Datum.nat =
      (List.range 256).map fun i => .nat (field b.octets (2 * i) 2) := by
    rw [Identity.words_ofBlock, List.map_map, List.range_eq_range']
    rfl
  simp only [dump, hlines, hwords]
  simp [dumpLines, dumpTitle, ← List.map_eq_flatMap, Function.comp_def]

theorem oneLine_dumpLines {value : Nat → Nat} {wordLevel bitLevel : Int} {l : String}
    (hl : l ∈ dumpLines value wordLevel bitLevel) : Text.OneLine l.toList ∧ l ≠ "" := by
  have htitle : ∀ l ∈ dumpTitle, Text.OneLine l.toList ∧ l ≠ "" := by decide
  obtain hl | hl := List.mem_append.1 hl
  · exact htitle l hl
  · obtain ⟨i, -, hl⟩ := List.mem_flatMap.1 hl
    exact oneLine_linesOf hl

variable {σ : Type} (ch : Channel Taskfile Response σ) (trace : Bool) (state : σ) {r : Recorder} (b : Block 512)
  (wordLevel bitLevel : Int)

theorem acts_dump (t : Tolerance) : ((dump (.ofBlock b) wordLevel bitLevel).course ch state t).acts =
    ((dumpLines (fun i => field b.octets (2 * i) 2) wordLevel bitLevel).map fun l => Act.said .plain (l ++ "\n")) ++
      [.said .plain "\n", .wrote (.set "ata_identify_device"
        (.record [("words", .list ((List.range 256).map fun i => .nat (field b.octets (2 * i) 2)))]))] := by
  rw [acts_writing (writing_dump (.ofBlock b) wordLevel bitLevel) fun _ => .error (.io ""), script_dump]

theorem render_run_dump (shown : r.transcript.suppressed = false) :
    Event.render ((Procedure.run ch Taskfile.name trace (dump (.ofBlock b) wordLevel bitLevel) state
      r).recorder.transcript.events.drop r.transcript.events.length) =
        dumpLines (fun i => field b.octets (2 * i) 2) wordLevel bitLevel := by
  generalize hlines : dumpLines (fun i => field b.octets (2 * i) 2) wordLevel bitLevel = lines
  have hacts := acts_dump ch state b wordLevel bitLevel r.tolerance
  rw [hlines] at hacts
  have hsaid : (lines.map fun l => (Act.said .plain (l ++ "\n") : Act Taskfile Response)).flatMap
      (Act.events Taskfile.name trace) = lines.map fun l => ⟨.plain, l ++ "\n"⟩ := by
    have htexts : ∀ text ∈ lines.map (· ++ "\n"), text.isEmpty = false := by simp
    simpa [Function.comp_def] using Act.flatMap_events_said Taskfile.name trace .plain htexts
  have hwhole : Event.Whole (lines.map fun l => ⟨.plain, l ++ "\n"⟩) := by
    intro e he
    obtain ⟨l, -, rfl⟩ := List.mem_map.1 he
    exact endsLine_line l
  have hend : Event.render [⟨.plain, "\n"⟩] = [] := rfl
  have hone : ∀ l ∈ lines, Text.OneLine l.toList ∧ l ≠ "" := fun l hl => oneLine_dumpLines (hlines ▸ hl)
  rw [events_run ch Taskfile.name trace hacts shown, List.drop_left, List.flatMap_append, hsaid]
  exact (Event.render_append hwhole [⟨.plain, "\n"⟩]).trans (by rw [hend, List.append_nil, Event.render_lines hone])

theorem words_run_dump :
    (Procedure.run ch Taskfile.name trace (dump (.ofBlock b) wordLevel bitLevel) state r).recorder.report.get?
      "ata_identify_device" =
        some (.record [("words", .list ((List.range 256).map fun i => .nat (field b.octets (2 * i) 2)))]) :=
  get?_run ch Taskfile.name trace (acts_dump ch state b wordLevel bitLevel r.tolerance)
    (by simp [Act.writes, Report.Write.key])

/-- A line of the dump about a word begins with its number. -/
def IsWordLine (i : Nat) (l : String) : Prop := (Text.words l).head? = some (toString i)

/-- A line about a bit has its number and its value. -/
def IsBitLine (i k : Nat) (value : String) (l : String) : Prop := Text.words l = [bitName i k, value]

theorem toString_ne {i : Nat} {s : String} {c : Char} (hc : c ∈ s.toList) (hdigit : c.isDigit = false) :
    toString i ≠ s := by
  rintro rfl
  have hmem : c ∈ Nat.toDigits 10 i := by simpa using hc
  exact absurd (Nat.isDigit_of_mem_toDigits (by decide) (by decide) hmem) (Bool.eq_false_iff.1 hdigit)

theorem toList_bitName (i k : Nat) : (bitName i k).toList = Nat.toDigits 10 i ++ '.' :: Nat.toDigits 10 k := by
  simp [bitName]

theorem toString_ne_bitName (i j k : Nat) : toString i ≠ bitName j k :=
  toString_ne (c := '.') (by simp [toList_bitName]) rfl

theorem toDigits_inj {n m : Nat} (h : Nat.toDigits 10 n = Nat.toDigits 10 m) : n = m := by
  rw [← Nat.ofDigitChars_ten_toDigits (n := n), h, Nat.ofDigitChars_ten_toDigits]

theorem bitName_inj {i k i' k' : Nat} (h : bitName i k = bitName i' k') : i = i' ∧ k = k' := by
  have hpoint (n : Nat) : '.' ∉ Nat.toDigits 10 n := fun hmem =>
    absurd (Nat.isDigit_of_mem_toDigits (by decide) (by decide) hmem) (by decide)
  have hlist := congrArg String.toList h
  rw [toList_bitName, toList_bitName, List.append_cons_inj_of_notMem (hpoint i) (hpoint k)] at hlist
  exact ⟨toDigits_inj hlist.1, toDigits_inj hlist.2.2⟩

theorem head?_words_title : ∀ l ∈ dumpTitle, (Text.words l).head? = some "===" ∨ (Text.words l).head? = some "Word" := by
  refine List.forall_mem_cons.2 ⟨.inl ?_, List.forall_mem_singleton.2 (.inr ?_)⟩
  · have hline : "=== ATA IDENTIFY DEVICE DATA ===".toList =
        List.replicate 0 ' ' ++ ("===".toList ++ ' ' :: "ATA IDENTIFY DEVICE DATA ===".toList) := by simp
    exact Text.head?_words (by decide) hline
  · have hline : "Word     Value   Description".toList =
        List.replicate 0 ' ' ++ ("Word".toList ++ ' ' :: "    Value   Description".toList) := by simp
    exact Text.head?_words (by decide) hline

theorem title_other (i k : Nat) (value : String) : ∀ l ∈ dumpTitle, ¬ IsWordLine i l ∧ ¬ IsBitLine i k value l := by
  intro l hl
  have hhead : ∀ w ∈ (Text.words l).head?, w = "===" ∨ w = "Word" := by
    intro w hw
    obtain h | h := head?_words_title l hl <;> simp_all
  constructor
  · intro h
    obtain hw | hw := hhead _ h
    · exact toString_ne (c := '=') (by simp) rfl hw
    · exact toString_ne (c := 'W') (by simp) rfl hw
  · intro h
    have hpoint : '.' ∈ (bitName i k).toList := by simp [toList_bitName]
    obtain hw | hw := hhead (bitName i k) (by rw [h]; rfl) <;> simp [hw] at hpoint

theorem isWordLine_ownLine {i j w : Nat} : IsWordLine i (ownLine j w) ↔ i = j := by
  rw [IsWordLine, head?_words_ownLine, Option.some_inj]
  constructor
  · intro h
    exact (toDigits_inj (by simpa using congrArg String.toList h)).symm
  · rintro rfl
    rfl

theorem not_isWordLine_bitLine (i j k : Nat) (on : Bool) : ¬ IsWordLine i (bitLine j k on) := by
  rw [IsWordLine, words_bitLine]
  exact fun h => toString_ne_bitName i j k (Option.some.inj h).symm

theorem not_isBitLine_ownLine (i k j w : Nat) (value : String) : ¬ IsBitLine i k value (ownLine j w) := by
  intro h
  have hhead := head?_words_ownLine j w
  rw [h] at hhead
  exact toString_ne_bitName j i k (Option.some.inj hhead).symm

theorem isBitLine_bitLine {i k j k' : Nat} {value : String} {on : Bool} :
    IsBitLine i k value (bitLine j k' on) ↔ i = j ∧ k = k' ∧ value = digit on := by
  rw [IsBitLine, words_bitLine]
  constructor
  · intro h
    obtain ⟨hname, hvalue⟩ := List.cons_eq_cons.1 h
    obtain ⟨rfl, rfl⟩ := bitName_inj hname
    exact ⟨rfl, rfl, (List.cons.inj hvalue).1.symm⟩
  · rintro ⟨rfl, rfl, rfl⟩
    rfl

variable {value : Nat → Nat} {wordLevel bitLevel}

theorem mem_dumpLines {l : String} : l ∈ dumpLines value wordLevel bitLevel ↔
    l ∈ dumpTitle ∨ ∃ i < 256, l ∈ linesOf i (value i) wordLevel bitLevel := by
  simp [dumpLines]

theorem exists_isWordLine {i : Nat} (hi : i < 256) :
    (∃ l ∈ dumpLines value wordLevel bitLevel, IsWordLine i l) ↔ listsWord (value i) wordLevel = true := by
  constructor
  · rintro ⟨l, hl, h⟩
    obtain hl | ⟨j, -, hl⟩ := mem_dumpLines.1 hl
    · exact absurd h (title_other i 0 "" l hl).1
    · obtain ⟨hlists, rfl | ⟨k, -, -, rfl⟩⟩ := mem_linesOf.1 hl
      · obtain rfl := isWordLine_ownLine.1 h
        exact hlists
      · exact absurd h (not_isWordLine_bitLine i j k _)
  · intro hlists
    exact ⟨_, mem_dumpLines.2 (.inr ⟨i, hi, mem_linesOf.2 ⟨hlists, .inl rfl⟩⟩), isWordLine_ownLine.2 rfl⟩

theorem exists_isBitLine {i k : Nat} (hi : i < 256) (hk : k < 16) {d : String} :
    (∃ l ∈ dumpLines value wordLevel bitLevel, IsBitLine i k d l) ↔ listsWord (value i) wordLevel = true ∧
      listsBit i (value i) bitLevel k = true ∧ d = digit ((value i).testBit k) := by
  constructor
  · rintro ⟨l, hl, h⟩
    obtain hl | ⟨j, -, hl⟩ := mem_dumpLines.1 hl
    · exact absurd h (title_other i k d l hl).2
    · obtain ⟨hlists, rfl | ⟨k', -, hbit, rfl⟩⟩ := mem_linesOf.1 hl
      · exact absurd h (not_isBitLine_ownLine i k j _ d)
      · obtain ⟨rfl, rfl, rfl⟩ := isBitLine_bitLine.1 h
        exact ⟨hlists, hbit, rfl⟩
  · rintro ⟨hlists, hbit, rfl⟩
    exact ⟨_, mem_dumpLines.2 (.inr ⟨i, hi, mem_linesOf.2 ⟨hlists, .inr ⟨k, hk, hbit, rfl⟩⟩⟩),
      isBitLine_bitLine.2 ⟨rfl, rfl, rfl⟩⟩

theorem listsWord_mono {w : Nat} {low high : Int} (h : low ≤ high) (hlists : listsWord w low = true) :
    listsWord w high = true := by
  simp only [listsWord, Bool.or_eq_true, decide_eq_true_eq] at hlists ⊢
  exact hlists.imp_left fun hlow => Int.le_trans hlow h

theorem listsBit_mono {i w k : Nat} {low high : Int} (h : low ≤ high) (hhigh : high ≤ 2)
    (hlists : listsBit i w low k = true) : listsBit i w high k = true := by
  unfold listsBit at hlists
  split at hlists
  · obtain rfl | rfl | rfl : high = 0 ∨ high = 1 ∨ high = 2 := by omega
    · exact hlists
    · simp_all [listsBit]
    · rfl
  · obtain rfl | rfl : high = 1 ∨ high = 2 := by omega
    · exact hlists
    · rfl
  · obtain rfl : high = 2 := by omega
    rfl
  · cases hlists

theorem dumpLines_mono {wordLevel' bitLevel' : Int} (hword : wordLevel ≤ wordLevel') (hbit : bitLevel ≤ bitLevel')
    (hle : bitLevel' ≤ 2) : (dumpLines value wordLevel bitLevel).Sublist (dumpLines value wordLevel' bitLevel') := by
  refine List.Sublist.append_left (List.Sublist.flatMap_right _ fun i _ => ?_) _
  cases hlists : listsWord (value i) wordLevel with
  | false => simp [linesOf, hlists]
  | true =>
    rw [linesOf, linesOf, hlists, listsWord_mono hword hlists]
    exact ((List.monotone_filter_right _ fun k => listsBit_mono hbit hle).map _).cons_cons _

theorem exists_of_append_eq {α : Type} {xs ys pre post : List α} {a : α} (h : xs ++ ys = pre ++ a :: post) :
    (∃ q, xs = pre ++ a :: q) ∨ ∃ p, pre = xs ++ p ∧ ys = p ++ a :: post := by
  obtain ⟨p, hpre, hys⟩ | ⟨q, hxs, hpost⟩ := List.append_eq_append_iff.1 h
  · exact .inr ⟨p, hpre, hys⟩
  · obtain ⟨rfl, hys⟩ | ⟨q, rfl, -⟩ := List.cons_eq_append_iff.1 hpost
    · exact .inr ⟨[], by simpa using hxs.symm, hys⟩
    · exact .inl ⟨q, hxs⟩

theorem exists_of_flatMap_eq {α β : Type} {l : List α} {g : α → List β} {pre post : List β} {b : β}
    (h : l.flatMap g = pre ++ b :: post) : ∃ a ∈ l, ∃ before p q, g a = p ++ b :: q ∧ pre = before ++ p := by
  induction l generalizing pre with
  | nil => simp at h
  | cons a l ih =>
    obtain ⟨q, hq⟩ | ⟨p, rfl, hp⟩ := exists_of_append_eq (List.flatMap_cons ▸ h)
    · exact ⟨a, List.mem_cons_self, [], pre, q, hq, rfl⟩
    · obtain ⟨a', ha', before, p', q, hg, rfl⟩ := ih hp
      exact ⟨a', List.mem_cons_of_mem a ha', g a ++ before, p', q, hg, (List.append_assoc ..).symm⟩

/-- What stands before a bit line begins with the line of its word, at the latest, and with bits of that word from
there on. -/
theorem exists_ownLine {i k : Nat} {d l : String} {pre post : List String}
    (h : dumpLines value wordLevel bitLevel = pre ++ l :: post) (hl : IsBitLine i k d l) :
    ∃ before own bits, pre = before ++ own :: bits ∧ IsWordLine i own ∧
      ∀ l' ∈ bits, ∃ k' d', IsBitLine i k' d' l' := by
  obtain ⟨q, hq⟩ | ⟨p, rfl, hp⟩ := exists_of_append_eq h
  · exact absurd hl (title_other i k d l (hq ▸ by simp)).2
  · obtain ⟨j, -, before, p, q, hlines, rfl⟩ := exists_of_flatMap_eq hp
    rw [linesOf] at hlines
    split at hlines
    · cases p with
      | nil =>
        obtain ⟨rfl, -⟩ := List.cons_eq_cons.1 hlines
        exact absurd hl (not_isBitLine_ownLine i k j _ d)
      | cons own bits =>
        rw [List.cons_append] at hlines
        obtain ⟨rfl, hbits⟩ := List.cons_eq_cons.1 hlines
        have hbit : ∀ l' ∈ bits ++ l :: q, ∃ k', l' = bitLine j k' ((value j).testBit k') := by
          intro l' hl'
          rw [← hbits, bitsShown] at hl'
          obtain ⟨k', -, rfl⟩ := List.mem_map.1 hl'
          exact ⟨k', rfl⟩
        obtain ⟨k', rfl⟩ := hbit l (by simp)
        obtain ⟨rfl, -, -⟩ := isBitLine_bitLine.1 hl
        refine ⟨dumpTitle ++ before, ownLine i (value i), bits, by simp, isWordLine_ownLine.2 rfl, fun l' hl' => ?_⟩
        obtain ⟨k'', rfl⟩ := hbit l' (List.mem_append_left _ hl')
        exact ⟨k'', _, isBitLine_bitLine.2 ⟨rfl, rfl, rfl⟩⟩
    · simp at hlines

/-- A word that says something. -/
def Valid (w : Nat) : Prop := w ≠ 0 ∧ w ≠ 0xffff

instance (w : Nat) : Decidable (Valid w) := inferInstanceAs (Decidable (_ ∧ _))

/-- The dumps of the words of an identity, by level. -/
structure DumpsGrow (value : Nat → Nat) (lines : Int → Int → List String) : Prop where
  grow : ∀ word word' bit bit', 0 ≤ word → word ≤ word' → word' ≤ 1 → -1 ≤ bit → bit ≤ bit' → bit' ≤ 2 →
    (lines word bit).Sublist (lines word' bit')
  words : ∀ word bit, 0 ≤ word → word ≤ 1 → -1 ≤ bit → bit ≤ 2 → ∀ i < 256,
    ((∃ l ∈ lines word bit, IsWordLine i l) ↔ word = 1 ∨ Valid (value i))
  bits : ∀ word bit, 0 ≤ word → word ≤ 1 → -1 ≤ bit → bit ≤ 2 → ∀ i < 256, ∀ k < 16, ∀ d,
    ((∃ l ∈ lines word bit, IsBitLine i k d l) ↔ (word = 1 ∨ Valid (value i)) ∧
      (bit = 0 ∧ Valid (value i) ∧ (Identity.describe? i).isSome ∧ (value i).testBit k = true ∨
        bit = 1 ∧ Valid (value i) ∧ (value i).testBit k = true ∨ bit = 2) ∧
      d = digit ((value i).testBit k))
  under : ∀ word bit pre l post i k d, lines word bit = pre ++ l :: post → IsBitLine i k d l →
    ∃ before own bits, pre = before ++ own :: bits ∧ IsWordLine i own ∧ ∀ l' ∈ bits, ∃ k' d', IsBitLine i k' d' l'

theorem reports_iff {w : Nat} : Identity.reports w = true ↔ Valid w := by
  simp [Identity.reports, Valid]

theorem listsWord_iff {w : Nat} (hle : wordLevel ≤ 1) : listsWord w wordLevel = true ↔ wordLevel = 1 ∨ Valid w := by
  have hone : 1 ≤ wordLevel ↔ wordLevel = 1 := by omega
  rw [listsWord, Bool.or_eq_true, decide_eq_true_eq, hone, reports_iff]

theorem listsBit_iff {i w k : Nat} : listsBit i w bitLevel k = true ↔
    bitLevel = 0 ∧ Valid w ∧ (Identity.describe? i).isSome ∧ w.testBit k = true ∨
      bitLevel = 1 ∧ Valid w ∧ w.testBit k = true ∨ bitLevel = 2 := by
  unfold listsBit
  split <;> simp_all [reports_iff, and_assoc]

theorem dumpsGrow_dumpLines (value : Nat → Nat) : DumpsGrow value (dumpLines value) where
  grow := fun _ _ _ _ _ hword _ _ hbit hle => dumpLines_mono hword hbit hle
  words := by
    intro word bit _ hword _ _ i hi
    rw [exists_isWordLine hi, listsWord_iff hword]
  bits := by
    intro word bit _ hword _ _ i hi k hk d
    rw [exists_isBitLine hi hk, listsWord_iff hword, listsBit_iff]
  under := fun _ _ _ _ _ _ _ _ h hl => exists_ownLine h hl

/-- Every sector of an identity can be dumped. A dump with higher levels has all lines of one with lower levels, bits
stand under the line of their word, and the report has all words at every level. -/
theorem dumps_lose_nothing {σ : Type} (ch : Channel Taskfile Response σ) (trace : Bool) (state : σ) {r : Recorder}
    (shown : r.transcript.suppressed = false) {sector : List UInt8} (h : 512 ≤ sector.length) :
    ∃ id, Identity.decode sector = .ok id ∧
      let out (word bit : Int) := (Procedure.run ch Taskfile.name trace (dump id word bit) state r).recorder
      DumpsGrow (fun i => field sector (2 * i) 2)
        (fun word bit => Event.render ((out word bit).transcript.events.drop r.transcript.events.length)) ∧
      ∀ word bit, (out word bit).report.get? "ata_identify_device" =
        some (.record [("words", .list ((List.range 256).map fun i => .nat (field sector (2 * i) 2)))]) := by
  let b : Block 512 := ⟨sector, h⟩
  have hdecode : Identity.decode sector = .ok (.ofBlock b) := by
    simp only [Identity.decode, Block.require, dif_pos h]
    rfl
  refine ⟨.ofBlock b, hdecode, ?_, fun word bit => words_run_dump ch trace state b word bit⟩
  simp only [render_run_dump ch trace state b _ _ shown]
  exact dumpsGrow_dumpLines _

theorem dumps_lose_nothing_oneBit :
    let sector : List UInt8 := List.replicate 511 0 ++ [0x80]
    ∃ id, Identity.decode sector = .ok id ∧
      let lines (word bit : Int) := Event.render (Procedure.run Link.silent.ata Taskfile.name false (dump id word bit)
        () (Recorder.start ⟨0, false⟩ {})).recorder.transcript.events
      (lines 0 0).Sublist (lines 1 1) ∧ (∃ l ∈ lines 0 1, IsBitLine 255 15 "1" l) ∧
        ¬ ∃ l ∈ lines 0 2, IsWordLine 254 l := by
  intro sector
  have hlength : 512 ≤ sector.length := by
    simp only [sector, List.length_append, List.length_replicate, List.length_singleton]
    decide
  obtain ⟨id, hdecode, hdumps, -⟩ := dumps_lose_nothing Link.silent.ata false ()
    (r := Recorder.start ⟨0, false⟩ {}) rfl hlength
  have hlast : field sector (2 * 255) 2 = 0x8000 := by decide +kernel
  have hnone : field sector (2 * 254) 2 = 0 := by decide +kernel
  refine ⟨id, hdecode, ?_, ?_, ?_⟩
  · exact hdumps.grow 0 1 0 1 (by decide) (by decide) (by decide) (by decide) (by decide) (by decide)
  · refine (hdumps.bits 0 1 (by decide) (by decide) (by decide) (by decide) 255 (by decide) 15 (by decide) "1").2 ?_
    simp only [hlast]
    decide
  · intro hline
    have h := (hdumps.words 0 2 (by decide) (by decide) (by decide) (by decide) 254 (by decide)).1 hline
    simp [hnone, Valid] at h

end Exam

end Ata

end DriveHealth
