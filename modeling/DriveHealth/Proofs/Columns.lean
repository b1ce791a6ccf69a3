import DriveHealth.Proofs.Heading
import DriveHealth.Proofs.Listing
set_option autoImplicit false

namespace DriveHealth.Text

theorem IsWord.append {s t : String} (hs : IsWord s) (ht : IsWord t) : IsWord (s ++ t) := by
  refine ⟨by simp [hs.1], fun c hc => ?_⟩
  rw [String.toList_append, List.mem_append] at hc
  exact hc.elim (hs.2 c) (ht.2 c)

theorem isBlank_digitChar (n : Nat) : isBlank n.digitChar = false := by
  by_cases h : n < 16
  · revert n
    decide
  · have hstar : n.digitChar = '*' := by
      unfold Nat.digitChar
      simp (disch := omega) only [if_neg]
    rw [hstar]
    decide

theorem isBlank_of_mem_toDigits {b : Nat} (hb : 1 < b) {n : Nat} :
    ∀ c ∈ b.toDigits n, isBlank c = false := by
  induction n using Nat.strongRecOn with
  | ind n ih =>
    by_cases hn : n < b
    · simp [Nat.toDigits_of_lt_base hn, isBlank_digitChar]
    · have hrest := ih (n / b) (Nat.div_lt_self (by omega) hb)
      rw [Nat.toDigits_of_base_le hb (by omega)]
      simpa [isBlank_digitChar, or_imp, forall_and] using hrest

theorem isWord_digits {b : Nat} (hb : 1 < b) (width n : Nat) :
    IsWord (String.ofList ((b.toDigits n).leftpad width '0')) := by
  have hne : b.toDigits n ≠ [] := Nat.toDigits_ne_nil
  refine ⟨by simp [List.leftpad, hne], fun c hc => ?_⟩
  rw [String.toList_ofList, List.leftpad, List.mem_append] at hc
  obtain hc | hc := hc
  · rw [List.eq_of_mem_replicate hc]
    decide
  · exact isBlank_of_mem_toDigits hb c hc

theorem isWord_toString (n : Nat) : IsWord (toString n) := by
  have hdigits : IsWord (String.ofList ((Nat.toDigits 10 n).leftpad 0 '0')) := isWord_digits (by decide) 0 n
  rw [Nat.toString_eq_ofList_toDigits]
  simpa [List.leftpad] using hdigits

theorem isWord_zeroPadded (width n : Nat) : IsWord (zeroPadded width n) := isWord_digits (by decide) width n

theorem isWord_hex (width n : Nat) : IsWord (hex width n) := isWord_digits (by decide) width n

theorem isWord_prefixed (width n : Nat) : IsWord ("0x" ++ hex width n) :=
  IsWord.append (by decide) (isWord_hex width n)

/-- Words in a row, each behind some blanks. -/
def laid : List (Nat × String) → List Char
  | [] => []
  | (gap, w) :: cells => List.replicate gap ' ' ++ (w.toList ++ laid cells)

/-- There is a blank at least between two words. -/
structure Apart (cells : List (Nat × String)) : Prop where
  words : ∀ c ∈ cells, IsWord c.2
  gaps : ∀ c ∈ cells.tail, 0 < c.1

theorem Apart.tail {c : Nat × String} {cells : List (Nat × String)} (h : Apart (c :: cells)) : Apart cells :=
  ⟨fun d hd => h.words d (by simp [hd]), fun d hd => h.gaps d (List.mem_of_mem_tail hd)⟩

theorem head?_laid {c : Nat × String} {cells : List (Nat × String)} (h : Apart (c :: cells)) {rest : List Char}
    (hrest : ∀ d ∈ rest.head?, isBlank d = true) : ∀ d ∈ (laid cells ++ rest).head?, isBlank d = true := by
  cases cells with
  | nil => exact hrest
  | cons d cells =>
    obtain ⟨gap, w⟩ := d
    have hgap : 0 < gap := h.gaps (gap, w) List.mem_cons_self
    obtain ⟨k, rfl⟩ := Nat.exists_eq_succ_of_ne_zero (Nat.ne_of_gt hgap)
    simp [laid, List.replicate_succ]
    decide

theorem wordPieces_laid {cells : List (Nat × String)} (h : Apart cells) {rest : List Char}
    (hrest : ∀ d ∈ rest, isBlank d = true) : wordPieces (laid cells ++ rest) = cells.map (·.2.toList) := by
  induction cells with
  | nil => simpa [laid, wordPieces] using wordPieces_blanks hrest []
  | cons c cells ih =>
    obtain ⟨gap, w⟩ := c
    obtain ⟨hne, hw⟩ := h.words (gap, w) List.mem_cons_self
    have hblanks : ∀ d ∈ List.replicate gap ' ', isBlank d = true := fun d hd => by
      rw [List.eq_of_mem_replicate hd]
      decide
    have hnext := head?_laid h fun d hd => hrest d (List.mem_of_head? hd)
    rw [laid, List.append_assoc, List.append_assoc, wordPieces_blanks hblanks, wordPieces_word hw hne hnext,
      ih h.tail]
    rfl

theorem words_laid_append {cells : List (Nat × String)} (h : Apart cells) {line : String} {rest : List Char}
    (hrest : ∀ c ∈ rest, isBlank c = true) (hline : line.toList = laid cells ++ rest) :
    words line = cells.map (·.2) := by
  have hwords : words line = (wordPieces line.toList).map String.ofList := rfl
  rw [hwords, hline, wordPieces_laid h hrest, List.map_map]
  simp [Function.comp_def]

theorem words_laid {cells : List (Nat × String)} (h : Apart cells) {line : String}
    (hline : line.toList = laid cells ++ ['\n']) : words line = cells.map (·.2) :=
  words_laid_append h (List.forall_mem_singleton.2 (by decide)) hline

theorem splitOnP_blank {cs : List Char} {c : Char} (hc : isBlank c = true) (rest : List Char) :
    (cs ++ c :: rest).splitOnP isBlank = cs.splitOnP isBlank ++ rest.splitOnP isBlank := by
  induction cs with
  | nil => simp [List.splitOnP_cons_eq_if_modifyHead, hc]
  | cons d cs ih =>
    obtain ⟨first, more, hsplit⟩ := List.exists_cons_of_ne_nil (List.splitOnP_ne_nil isBlank cs)
    by_cases hd : isBlank d = true
    · simp [List.splitOnP_cons_eq_if_modifyHead, hd, ih]
    · simp [List.splitOnP_cons_eq_if_modifyHead, hd, ih, hsplit]

theorem mem_words_of_infix {line : String} {w : String} (hw : IsWord w)
    (h : ' ' :: (w.toList ++ [' ']) <:+: line.toList) : w ∈ words line := by
  obtain ⟨front, rest, hline⟩ := h
  have hblank : isBlank ' ' = true := by decide
  have hword : (w.toList ++ ' ' :: rest).splitOnP isBlank = w.toList :: rest.splitOnP isBlank :=
    List.splitOnP_append_cons_of_forall_mem hw.2 ' ' hblank rest
  have hcut : front ++ ' ' :: (w.toList ++ [' ']) ++ rest = front ++ ' ' :: (w.toList ++ ' ' :: rest) := by simp
  rw [words, ← hline, hcut, splitOnP_blank hblank, hword]
  simp [hw.1]

theorem head?_words {line : String} {gap : Nat} {w : String} {rest : List Char} (hw : IsWord w)
    (hline : line.toList = List.replicate gap ' ' ++ (w.toList ++ ' ' :: rest)) : (words line).head? = some w := by
  have hwords : words line = (wordPieces line.toList).map String.ofList := rfl
  have hgap : ∀ c ∈ List.replicate gap ' ', isBlank c = true := fun c hc => by
    rw [List.eq_of_mem_replicate hc]
    decide
  have hblank : ∀ c ∈ (' ' :: rest).head?, isBlank c = true := fun c hc => by
    obtain rfl : ' ' = c := Option.some.inj hc
    decide
  rw [hwords, hline, wordPieces_blanks hgap, wordPieces_word hw.2 hw.1 hblank]
  simp

theorem newline_notMem_laid {cells : List (Nat × String)} (h : ∀ c ∈ cells, IsWord c.2) : '\n' ∉ laid cells := by
  induction cells with
  | nil => simp [laid]
  | cons c cells ih =>
    obtain ⟨⟨-, hw⟩, hcells⟩ := List.forall_mem_cons.1 h
    simp only [laid, List.mem_append, not_or]
    refine ⟨fun hn => absurd (List.eq_of_mem_replicate hn) (by decide), fun hn => ?_, ih hcells⟩
    exact absurd (hw _ hn) (by decide)

/-- What a line has under a word of the header. -/
def under (header title line : String) : Option String := ((words header).zip (words line)).lookup title

def gapAfter (width : Nat) (s : String) : Nat := width - s.toList.length + 1

theorem toList_alignLeft (width : Nat) (s : String) (cs : List Char) :
    (alignLeft width s).toList ++ ' ' :: cs = s.toList ++ (List.replicate (gapAfter width s) ' ' ++ cs) := by
  simp [alignLeft, List.rightpad, gapAfter, List.replicate_succ']

theorem toList_alignRight (width : Nat) (s : String) :
    (alignRight width s).toList = List.replicate (width - s.toList.length) ' ' ++ s.toList := by
  simp [alignRight, List.leftpad]

end DriveHealth.Text
