import DriveHealth.Linux.Backend
import DriveHealth.Proofs.RegularExpression
set_option autoImplicit false

namespace DriveHealth.Text

open Regex

/-- The texts of a pattern, taken whole. -/
inductive Globs : List Char → List Char → Prop where
  | nil : Globs [] []
  | runEnds {p s : List Char} (h : Globs p s) : Globs ('*' :: p) s
  | runTakes {c : Char} {p s : List Char} (hc : c ≠ '\n') (h : Globs ('*' :: p) s) : Globs ('*' :: p) (c :: s)
  | one {c : Char} {p s : List Char} (hc : c ≠ '\n') (h : Globs p s) : Globs ('?' :: p) (c :: s)
  | exactly {c : Char} {p s : List Char} (hrun : c ≠ '*') (hone : c ≠ '?') (h : Globs p s) :
    Globs (c :: p) (c :: s)

variable {m : Char} {new : List Char}

theorem replaceAll_found (rest : List Char) :
    replaceAll ['\\', m] new ('\\' :: m :: rest) = new ++ replaceAll ['\\', m] new rest := by
  simp [replaceAll, replaceFrom]

theorem replaceAll_other {c : Char} {rest : List Char} (h : c = '\\' → rest.head? ≠ some m) :
    replaceAll ['\\', m] new (c :: rest) = c :: replaceAll ['\\', m] new rest := by
  have hnot : ['\\', m].isPrefixOf (c :: rest) = false := by
    cases rest with
    | nil => simp [List.isPrefixOf]
    | cons d rest =>
      by_cases hc : c = '\\'
      · have hd : d ≠ m := by simpa using h hc
        simp [List.isPrefixOf, Ne.symm hd]
      · simp [List.isPrefixOf, Ne.symm hc]
  simp [replaceAll, replaceFrom, hnot]

/-- A piece of a text that no sign begins: a character or two. -/
inductive Piece (m : Char) : List Char → Prop where
  | single {c : Char} (hc : c ≠ m) : Piece m [c]
  | pair {c d : Char} (hc : c ≠ m) : Piece m [c, d]

theorem Piece.head_ne {piece : List Char} (h : Piece m piece) (rest : List Char) :
    (piece ++ rest).head? ≠ some m := by
  cases h with
  | single hc => simpa using hc
  | pair hc => simpa using hc

theorem replaceAll_piece {piece rest : List Char} (h : Piece m piece) (hrest : rest.head? ≠ some m) :
    replaceAll ['\\', m] new (piece ++ rest) =
      (if piece = ['\\', m] then new else piece) ++ replaceAll ['\\', m] new rest := by
  cases h with
  | single hc => simpa using replaceAll_other fun _ => hrest
  | @pair c d hc =>
    by_cases hsign : c = '\\' ∧ d = m
    · obtain ⟨rfl, rfl⟩ := hsign
      simpa using replaceAll_found rest
    · have hnext : c = '\\' → (d :: rest).head? ≠ some m := by
        intro hslash hd
        exact hsign ⟨hslash, by simpa using hd⟩
      have hne : [c, d] ≠ ['\\', m] := by simpa using hsign
      rw [if_neg hne]
      change replaceAll _ _ (c :: d :: rest) = _
      rw [replaceAll_other hnext, replaceAll_other fun _ => hrest]
      rfl

/-- In a text made of pieces only whole pieces are replaced: a backslash at the end of a piece is followed
by the next piece, which the sign does not begin. -/
theorem replaceAll_flatMap {f : Char → List Char} (h : ∀ c, Piece m (f c)) (p : List Char) :
    replaceAll ['\\', m] new (p.flatMap f) = p.flatMap fun c => if f c = ['\\', m] then new else f c := by
  induction p with
  | nil => rfl
  | cons c p ih =>
    have hrest : (p.flatMap f).head? ≠ some m := by
      cases p with
      | nil => simp
      | cons d p => exact (h d).head_ne _
    rw [List.flatMap_cons, replaceAll_piece (h c) hrest, ih, List.flatMap_cons]

theorem piece_quote (hm : isMeta m = true) (hslash : m ≠ '\\') (c : Char) : Piece m (quote c) := by
  rw [quote]
  split
  · exact .pair hslash.symm
  · next hc => exact .single fun h => hc (h ▸ hm)

theorem quote_eq_iff {c : Char} (hm : isMeta m = true) : quote c = ['\\', m] ↔ c = m := by
  rw [quote]
  constructor
  · intro h
    split at h
    · simpa using h
    · simp at h
  · rintro rfl
    rw [if_pos hm]

def itemOf (c : Char) : Item := if c = '*' then .repeated .dot else if c = '?' then .once .dot else .once (.literal c)

/-- Neither replacement misreads a backslash of the pattern, or of another quoted sign. -/
theorem replaceAll_quoted (p : List Char) :
    replaceAll "\\?".toList ".".toList (replaceAll "\\*".toList ".*".toList (p.flatMap quote)) =
      (p.map itemOf).flatMap Item.spelled := by
  have hstar : isMeta '*' = true := by decide
  have hmark : isMeta '?' = true := by decide
  have hfirst : ∀ c, Piece '?' (if quote c = ['\\', '*'] then ['.', '*'] else quote c) := by
    intro c
    split
    · exact .pair (by decide)
    · exact piece_quote hmark (by decide) c
  change replaceAll ['\\', '?'] ['.'] (replaceAll ['\\', '*'] ['.', '*'] _) = _
  rw [replaceAll_flatMap (piece_quote hstar (by decide)), replaceAll_flatMap hfirst, List.flatMap_map]
  congr 1
  funext c
  simp only [quote_eq_iff hstar, itemOf]
  by_cases hrun : c = '*'
  · subst hrun
    rfl
  · by_cases hone : c = '?'
    · subst hone
      rfl
    · simp [hrun, hone, quote_eq_iff hmark, Item.spelled, Atom.spelled]

def expression (p : List Char) : List Item := .textStart :: (p.map itemOf ++ [.textEnd])

theorem regexText_eq {lib : Library} (hlib : lib.IsDocumented) (p : String) :
    regexText lib.escape p = String.ofList ((expression p.toList).flatMap Item.spelled) := by
  rw [regexText, hlib.escape_eq, replaceAll_quoted]
  simp [expression, Item.spelled]

example : regexText (Library.plain fun _ => none).escape "\\*\\\\?[a-z]" = "^\\\\.*\\\\\\\\.\\[a\\-z\\]$" := by decide +kernel

theorem fits_expression {p before cs : List Char} :
    Fits (p.map itemOf ++ [.textEnd]) before cs ↔ Globs p cs := by
  constructor
  · intro h
    induction p generalizing before cs with
    | nil =>
      cases h with
      | textEnd _ => exact .nil
    | cons d p ih =>
      by_cases hrun : d = '*'
      · subst hrun
        induction cs generalizing before with
        | nil => cases h with
          | enough h => exact .runEnds (ih h)
        | cons c cs ihText => cases h with
          | enough h => exact .runEnds (ih h)
          | again hc h => exact .runTakes (by simpa [Atom.admits] using hc) (ihText h)
      · by_cases hone : d = '?'
        · subst hone
          cases h with
          | once hc h => exact .one (by simpa [Atom.admits] using hc) (ih h)
        · rw [List.map_cons, itemOf, if_neg hrun, if_neg hone] at h
          cases h with
          | once hc h =>
            obtain rfl : _ = d := by simpa [Atom.admits] using hc
            exact .exactly hrun hone (ih h)
  · intro h
    induction h generalizing before with
    | nil => exact .textEnd .done
    | runEnds h ih => exact .enough ih
    | runTakes hc h ih => exact .again (by simpa [Atom.admits] using hc) ih
    | one hc h ih => exact .once (by simpa [Atom.admits] using hc) ih
    | exactly hrun hone h ih =>
      rw [List.map_cons, itemOf, if_neg hrun, if_neg hone]
      exact .once (by simp [Atom.admits]) ih

theorem finds_expression (p cs : List Char) : Finds (expression p) cs ↔ Globs p cs := by
  constructor
  · rintro ⟨before, rest, rfl, h⟩
    cases h with
    | textStart h => exact fits_expression.1 h
  · intro h
    exact ⟨[], cs, rfl, .textStart (fits_expression.2 h)⟩

theorem exists_ofPattern {lib : Library} (hlib : lib.IsDocumented) {p : String}
    (h : ∀ limit, lib.ofPattern p ≠ .error (.tooLarge limit)) :
    ∃ re, lib.ofPattern p = .ok re ∧ ∀ s, lib.isMatch re s = true ↔ Globs p.toList s.toList := by
  simp only [Library.ofPattern, regexText_eq hlib] at h ⊢
  obtain ⟨limit, hlimit⟩ | ⟨re, hre, hmatch⟩ := hlib.compile_spelled (expression p.toList)
  · exact absurd hlimit (h limit)
  · exact ⟨re, hre, fun s => (hmatch s).trans (finds_expression _ _)⟩

/-- A pattern is read whatever it says, unless the library finds it too large, and then matches what its signs say one
by one: a star any run of characters, a question mark any character, neither a line feed, and all else itself. -/
theorem devicePatterns_are_globs {lib : Library} (hlib : lib.IsDocumented) (p : String)
    (hsize : ∀ limit, lib.ofPattern p ≠ .error (.tooLarge limit)) :
    ∃ re, Linux.readPattern lib p = .ok re ∧ ∀ s, lib.isMatch re s = true ↔ Globs p.toList s.toList := by
  obtain ⟨re, hre, hmatch⟩ := exists_ofPattern hlib hsize
  exact ⟨re, by rw [Linux.readPattern, hre]; rfl, hmatch⟩

theorem devicePatterns_are_globs_backslashes :
    let lib := Library.plain fun e => if e.length ≤ 64 then none else some 64
    let p := "\\*\\\\?[a-z].$"
    lib.IsDocumented ∧ (∀ limit, lib.ofPattern p ≠ .error (.tooLarge limit)) ∧
      ∃ re, Linux.readPattern lib p = .ok re ∧ ∀ s, lib.isMatch re s = true ↔ Globs p.toList s.toList := by
  intro lib p
  have hlib : lib.IsDocumented := Library.plain_isDocumented _
  have hread : (lib.ofPattern p).isOk = true := by decide +kernel
  have hsize : ∀ limit, lib.ofPattern p ≠ .error (.tooLarge limit) := fun _ hlimit => by
    rw [hlimit] at hread
    cases hread
  exact ⟨hlib, hsize, devicePatterns_are_globs hlib p hsize⟩

end DriveHealth.Text
