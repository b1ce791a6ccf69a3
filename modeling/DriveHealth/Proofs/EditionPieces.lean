import DriveHealth.Proofs.NameLines
import DriveHealth.Service
import Mathlib.Data.List.Basic
import Mathlib.Data.List.Infix
set_option autoImplicit false

/-!
The text that a program says about itself, and its pieces. Lines are read back from a text however each of them
ends. So the pieces can be looked for line by line, and each search stops where its piece begins and not before.
-/

namespace DriveHealth

namespace Text

inductive LineEnd where
  | feed
  | returnFeed

def LineEnd.text : LineEnd → List Char
  | .feed => ['\n']
  | .returnFeed => ['\r', '\n']

/-- A text of some lines. Each has an ending of its own, and the last may go without if it is not empty. -/
inductive Written : List (List Char) → List Char → Prop where
  | none : Written [] []
  | unended {line : List Char} (h : line ≠ []) : Written [line] line
  | line (line : List Char) (ending : LineEnd) {rest : List (List Char)} {text : List Char} (h : Written rest text) :
    Written (line :: rest) (line ++ (ending.text ++ text))

theorem lines_line {line : List Char} (h : '\n' ∉ line) (text : List Char) :
    lines (line ++ '\n' :: text) = dropReturn line :: lines text := by
  have hpieces : pieces (line ++ '\n' :: text) = line :: pieces text := by
    rw [pieces, List.splitOn_append_cons_self_of_not_mem h]
    rfl
  obtain ⟨first, rest, hrest⟩ := List.exists_cons_of_ne_nil (List.splitOn_ne_nil '\n' text)
  have htext : pieces text = first :: rest := hrest
  rw [lines, lines, hpieces, htext, List.dropLast_cons_cons, List.map_cons, List.getLast?_cons_cons, List.cons_append]

theorem lines_unended {line : List Char} (h : '\n' ∉ line) (hne : line ≠ []) : lines line = [line] := by
  simp [lines, pieces_of_no_newline h, hne]

theorem dropReturn_returned (line : List Char) : dropReturn (line ++ ['\r']) = line := by
  simp [dropReturn]

theorem written_fed (ls : List (List Char)) : Written ls (ls.flatMap (· ++ ['\n'])) := by
  induction ls with
  | nil => exact .none
  | cons l ls ih =>
    rw [List.flatMap_cons, List.append_assoc]
    exact .line l .feed ih

theorem Written.lines_eq {ls : List (List Char)} {text : List Char} (h : Written ls text)
    (hls : ∀ l ∈ ls, OneLine l) : lines text = ls := by
  induction h with
  | none => rfl
  | unended hne => exact lines_unended (hls _ List.mem_cons_self).1 hne
  | line line ending h ih =>
    obtain ⟨hline, hrest⟩ := List.forall_mem_cons.1 hls
    cases ending with
    | feed =>
      rw [LineEnd.text, List.singleton_append, lines_line hline.1, dropReturn_oneLine hline, ih hrest]
    | returnFeed =>
      have hreturned : '\n' ∉ line ++ ['\r'] := by simp [hline.1]
      rw [LineEnd.text, List.cons_append, List.singleton_append, List.append_cons, lines_line hreturned,
        dropReturn_returned, ih hrest]

end Text

namespace Edition

theorem occurs_iff {needle cs : List Char} : occurs needle cs = true ↔ needle <:+: cs := by
  induction cs with
  | nil => rw [occurs, List.isEmpty_iff, List.infix_nil]
  | cons c cs ih => rw [occurs, Bool.or_eq_true, List.isPrefixOf_iff_prefix, ih, List.infix_cons_iff]

theorem dropWhile_before {α : Type} {found : α → Bool} {earlier : List α} (hearlier : ∀ a ∈ earlier, found a = false)
    {a : α} (h : found a = true) (later : List α) :
    (earlier ++ a :: later).dropWhile (!found ·) = a :: later := by
  have hpast : ∀ a ∈ earlier, (!found a) = true := fun a ha => by rw [hearlier a ha, Bool.not_false]
  rw [List.dropWhile_append_of_pos hpast]
  simp [h]

theorem joinLines_map (ls : List String) : joinLines (ls.map String.toList) = "\n".intercalate ls := by
  rw [← String.toList_inj, joinLines, String.toList_ofList, String.toList_intercalate]
  rfl

/-- The pieces of a text: a banner, a line of copyright, a paragraph on the licence, and lines on the build. -/
structure Pieces where
  banner : String
  copyright : String
  license : List String
  build : List String
  oneLine : ∀ l ∈ [banner, copyright] ++ license ++ build, Text.OneLine l.toList
  copyright_begins : "Copyright ".toList <+: copyright.toList
  license_comes : ∃ l ∈ license.head?, " comes ".toList <:+: l.toList
  license_filled : ∀ l ∈ license, l ≠ ""
  build_filled : ∀ l ∈ build, l ≠ ""

namespace Pieces

variable (p : Pieces)

/-- The pieces as they follow each other, with an empty line in front of the licence and one behind it. -/
def lines : List String := [p.banner, p.copyright, ""] ++ p.license ++ [""] ++ p.build

/-- The text has these lines. -/
def WrittenIn (text : String) : Prop := Text.Written (p.lines.map String.toList) text.toList

/-- No earlier line could be taken for the one on copyright. -/
def CopyrightFirst : Prop := ¬ "Copyright ".toList <+: p.banner.toList

/-- No earlier line could be taken for the first one of the licence. -/
def LicenseFirst : Prop := ∀ l ∈ [p.banner, p.copyright, ""], ¬ " comes ".toList <:+: l.toList

/-- The lines on the build begin with the package name, and no earlier line does. -/
def BuildFirst (package : String) : Prop :=
  (∃ l ∈ p.build.head?, package.toList <+: l.toList) ∧
    ∀ l ∈ [p.banner, p.copyright, ""] ++ p.license ++ [""], ¬ package.toList <+: l.toList

instance : Decidable p.CopyrightFirst := inferInstanceAs (Decidable (¬ _))

instance : Decidable p.LicenseFirst := inferInstanceAs (Decidable (∀ l ∈ [p.banner, p.copyright, ""], _))

instance (package : String) : Decidable (p.BuildFirst package) := inferInstanceAs (Decidable (_ ∧ _))

variable {p} {text : String} (h : p.WrittenIn text)

include h

theorem lines_text : Text.lines text.toList = p.lines.map String.toList := by
  refine h.lines_eq (List.forall_mem_map.2 fun l hl => ?_)
  by_cases hempty : l = ""
  · rw [hempty]
    decide
  · refine p.oneLine l ?_
    simpa [lines, hempty] using hl

theorem banner_text : Edition.banner text = p.banner := by
  rw [Edition.banner, lines_text h]
  exact String.ofList_toList

theorem copyright_text (first : p.CopyrightFirst) : Edition.copyright text = p.copyright := by
  have hbanner : "Copyright ".toList.isPrefixOf p.banner.toList = false := by
    rwa [Bool.eq_false_iff, ne_eq, List.isPrefixOf_iff_prefix]
  have hcopyright := List.isPrefixOf_iff_prefix.2 p.copyright_begins
  rw [Edition.copyright, lines_text h, lines]
  simp [-String.reduceToList, hbanner, hcopyright]

theorem license_text (first : p.LicenseFirst) : Edition.license text = "\n".intercalate p.license := by
  obtain ⟨line, hline, hcomes⟩ := p.license_comes
  obtain ⟨more, hmore⟩ := List.head?_eq_some_iff.1 hline
  have hearlier : ∀ cs ∈ [p.banner, p.copyright, ""].map String.toList, occurs " comes ".toList cs = false :=
    List.forall_mem_map.2 fun l hl => Bool.eq_false_iff.2 fun hoccurs => first l hl (occurs_iff.1 hoccurs)
  have hlines : p.lines.map String.toList = [p.banner, p.copyright, ""].map String.toList ++
      line.toList :: (more.map String.toList ++ [] :: p.build.map String.toList) := by simp [lines, hmore]
  have hparagraph : line.toList :: (more.map String.toList ++ [] :: p.build.map String.toList) =
      p.license.map String.toList ++ [] :: p.build.map String.toList := by rw [hmore, List.map_cons, List.cons_append]
  have hfilled : ∀ cs ∈ p.license.map String.toList, (!cs.isEmpty) = true :=
    List.forall_mem_map.2 fun l hl => by simpa using p.license_filled l hl
  rw [Edition.license, lines_text h, hlines, dropWhile_before hearlier (occurs_iff.2 hcomes), hparagraph,
    List.takeWhile_append_of_pos hfilled, List.takeWhile_cons_of_neg (by simp), List.append_nil, joinLines_map]

theorem buildInfo_text {package : String} (first : p.BuildFirst package) :
    Edition.buildInfo package text = "\n".intercalate p.build := by
  obtain ⟨⟨line, hline, hbegins⟩, hnone⟩ := first
  obtain ⟨more, hmore⟩ := List.head?_eq_some_iff.1 hline
  have hearlier : ∀ cs ∈ ([p.banner, p.copyright, ""] ++ p.license ++ [""]).map String.toList,
      package.toList.isPrefixOf cs = false :=
    List.forall_mem_map.2 fun l hl => Bool.eq_false_iff.2 fun hprefix => hnone l hl (List.isPrefixOf_iff_prefix.1 hprefix)
  rw [buildInfo, lines_text h, lines, List.map_append, hmore, List.map_cons,
    dropWhile_before hearlier (List.isPrefixOf_iff_prefix.2 hbegins), ← List.map_cons, joinLines_map]

end Pieces

namespace Build

variable (b : Build)

theorem isWord_target : Text.IsWord b.target := by
  have harch : Text.IsWord b.arch := b.words _ (by simp)
  have hos : Text.IsWord b.os := b.words _ (by simp)
  exact (harch.append (show Text.IsWord "-" by decide)).append hos

theorem isWord_profile : Text.IsWord b.profile := by
  unfold profile
  split <;> decide

theorem isWord_features : Text.IsWord b.features := by
  unfold features
  split <;> decide

def cells : List (Nat × String) :=
  [(1, b.version), (1, "[" ++ b.target ++ "]"), (1, "(" ++ b.profile), (1, "build)")]

/-- The banner behind the program name. -/
def banner : String := " " ++ b.version ++ " [" ++ b.target ++ "] (" ++ b.profile ++ " build)"

theorem toList_banner : b.banner.toList = Text.laid b.cells := by
  simp [banner, cells, Text.laid]

theorem isWord_cells : ∀ c ∈ b.cells, Text.IsWord c.2 := by
  have hversion : Text.IsWord b.version := b.words _ (by simp)
  have htarget : Text.IsWord ("[" ++ b.target ++ "]") :=
    ((show Text.IsWord "[" by decide).append b.isWord_target).append (show Text.IsWord "]" by decide)
  have hprofile : Text.IsWord ("(" ++ b.profile) := (show Text.IsWord "(" by decide).append b.isWord_profile
  simp only [cells, List.forall_mem_cons]
  exact ⟨hversion, htarget, hprofile, by decide, by simp⟩

theorem oneLine_banner : Text.OneLine b.banner.toList := by
  have hend : b.banner.toList.getLast? = some ')' := by
    rw [banner, String.toList_append, List.getLast?_append]
    rfl
  refine ⟨?_, by simp [hend]⟩
  rw [b.toList_banner]
  exact Text.newline_notMem_laid b.isWord_cells

theorem words_banner {program : String} (h : Text.IsWord program) :
    Text.words (program ++ b.banner) = program :: b.cells.map (·.2) := by
  have hapart : Text.Apart ((0, program) :: b.cells) :=
    ⟨List.forall_mem_cons.2 ⟨h, b.isWord_cells⟩, by simp [cells]⟩
  refine Text.words_laid_append hapart (List.forall_mem_nil _) ?_
  simp [Text.laid, b.toList_banner]

/-- Nothing comes in the banner: the version begins with a digit, and the other words with a bracket. -/
theorem banner_without_comes {program : String} (h : Text.IsWord program) (hprogram : program ≠ "comes") :
    ¬ " comes ".toList <:+: (program ++ b.banner).toList := by
  intro hinfix
  have hmem : "comes" ∈ Text.words (program ++ b.banner) := Text.mem_words_of_infix (by decide) hinfix
  have hversion : b.version ≠ "comes" := fun hcomes => by
    have hbegins := b.version_begins
    rw [hcomes] at hbegins
    revert hbegins
    decide
  have htarget : "[" ++ b.target ++ "]" ≠ "comes" := fun hcomes => by
    simpa using congrArg (·.toList.head?) hcomes
  have hprofile : "(" ++ b.profile ≠ "comes" := fun hcomes => by
    simpa using congrArg (·.toList.head?) hcomes
  rw [b.words_banner h] at hmem
  simp only [cells, List.map_cons, List.map_nil, List.mem_cons, List.not_mem_nil, or_false] at hmem
  obtain hcomes | hcomes | hcomes | hcomes | hcomes := hmem
  · exact hprogram hcomes.symm
  · exact hversion hcomes.symm
  · exact htarget hcomes.symm
  · exact hprofile hcomes.symm
  · revert hcomes
    decide

end Build

def builtinPieces (b : Build) (program : String) (h : Text.OneLine program.toList := by decide) : Pieces where
  banner := program ++ b.banner
  copyright := "Copyright (C) 2002-26, the smartmontools and smartmon-rs developers"
  license := [
    program ++ " comes with ABSOLUTELY NO WARRANTY. This is free",
    "software, and you are welcome to redistribute it under",
    "the terms of the GNU General Public License; either version 2, or (at",
    "your option) any later version. See https://www.gnu.org for further details."]
  build := [
    packageName ++ " release " ++ b.version,
    packageName ++ " build target: " ++ b.target,
    packageName ++ " build profile: " ++ b.profile,
    packageName ++ " build features: " ++ b.features]
  oneLine := by
    have hbehind {s t : String} (hs : Text.OneLine s.toList) (ht : Text.OneLine t.toList) :
        Text.OneLine (s ++ t).toList := by
      rw [String.toList_append]
      exact hs.append ht
    have hword {s t : String} (hs : Text.OneLine s.toList) (ht : Text.IsWord t) : Text.OneLine (s ++ t).toList :=
      hbehind hs (Text.oneLine_of_not_blank ht.2)
    simp only [List.cons_append, List.nil_append, List.forall_mem_cons]
    exact ⟨hbehind h b.oneLine_banner, by decide +kernel, hbehind h (by decide +kernel), by decide +kernel,
      by decide +kernel, by decide +kernel, hword (by decide) (b.words _ (by simp)), hword (by decide) b.isWord_target,
      hword (by decide) b.isWord_profile, hword (by decide) b.isWord_features, List.forall_mem_nil _⟩
  copyright_begins := by decide +kernel
  license_comes := by
    refine ⟨_, rfl, ?_⟩
    rw [String.toList_append]
    exact List.IsInfix.trans (by decide +kernel) (List.suffix_append _ _).isInfix
  license_filled := List.forall_mem_cons.2 ⟨by simp, by decide⟩
  build_filled := by simp [packageName]

theorem written_builtin (b : Build) (program : String) (h : Text.OneLine program.toList) :
    (builtinPieces b program h).WrittenIn ((builtin b).describe program true) := by
  have htext : ((builtin b).describe program true).toList =
      ((builtinPieces b program h).lines.map String.toList).flatMap (· ++ ['\n']) := by
    simp only [builtin, builtinHead, builtinLicense, builtinBuild, builtinPieces, Build.banner, Pieces.lines, packageName,
      toString, if_true, String.toList_append, List.cons_append, List.nil_append, List.map_cons, List.map_nil,
      List.flatMap_cons, List.flatMap_nil, List.append_assoc]
    repeat rw [String.toList_ofList]
    simp only [List.cons_append, List.nil_append]
  rw [Pieces.WrittenIn, htext]
  exact Text.written_fed _

theorem first_builtin (b : Build) :
    (builtinPieces b packageName).CopyrightFirst ∧ (builtinPieces b packageName).LicenseFirst := by
  constructor
  · simp [Pieces.CopyrightFirst, builtinPieces, packageName]
  · simp only [Pieces.LicenseFirst, builtinPieces, List.forall_mem_cons]
    exact ⟨b.banner_without_comes (by decide) (by decide), by decide +kernel, by decide +kernel, List.forall_mem_nil _⟩

theorem buildFirst_builtin (b : Build) : (builtinPieces b "x").BuildFirst packageName := by
  refine ⟨⟨_, rfl, ?_⟩, ?_⟩
  · simp only [String.toList_append, List.append_assoc]
    exact List.prefix_append _ _
  · simp [builtinPieces, packageName]

/-- The pieces of a text are cut out exactly, whatever they say and however their lines end, as long as no line in
front of a piece could be taken for its beginning. That holds of the text that comes with the library, however it is
compiled: under the package name for all pieces but the lines on the build, and for these under another name. So a
service that is ready answers with its pieces. -/
theorem pieces_cut_out_exactly :
    (∀ (p : Pieces) (text : String), p.WrittenIn text →
      Edition.banner text = p.banner ∧
      (p.CopyrightFirst → Edition.copyright text = p.copyright) ∧
      (p.LicenseFirst → Edition.license text = "\n".intercalate p.license) ∧
      ∀ package, p.BuildFirst package → Edition.buildInfo package text = "\n".intercalate p.build) ∧
    ∀ b : Build,
      let own := builtinPieces b packageName
      let other := builtinPieces b "x"
      own.WrittenIn ((builtin b).describe packageName true) ∧ own.CopyrightFirst ∧ own.LicenseFirst ∧
      other.WrittenIn ((builtin b).describe "x" true) ∧ other.BuildFirst (builtin b).package ∧
      ∀ {σ δ : Type} (s : Service σ δ), s.isReady = true → s.edition = builtin b →
        s.version = own.banner ∧ s.copyright = own.copyright ∧ s.license = "\n".intercalate own.license ∧
        s.buildInfo = "\n".intercalate other.build := by
  refine ⟨fun p text h => ⟨p.banner_text h, p.copyright_text h, p.license_text h, fun _ => p.buildInfo_text h⟩, ?_⟩
  intro b own other
  have hown : own.WrittenIn ((builtin b).describe packageName true) := written_builtin b _ _
  have hother : other.WrittenIn ((builtin b).describe "x" true) := written_builtin b _ _
  obtain ⟨hcopyright, hlicense⟩ : own.CopyrightFirst ∧ own.LicenseFirst := first_builtin b
  have hbuild : other.BuildFirst (builtin b).package := buildFirst_builtin b
  refine ⟨hown, hcopyright, hlicense, hother, hbuild, fun s hready hedition => ?_⟩
  simp only [Service.version, Service.copyright, Service.license, Service.buildInfo, Service.about, hready, hedition,
    if_true]
  exact ⟨own.banner_text hown, own.copyright_text hown hcopyright, own.license_text hown hlicense,
    other.buildInfo_text hother hbuild⟩

/-- Both kinds of line endings in one text, and none at the end; and the library as it is compiled for another
system. -/
theorem pieces_cut_out_exactly_mixed :
    let p : Pieces := {
      banner := "kit 7.4"
      copyright := "Copyright 2026, the developers"
      license := ["kit comes with no warranty.", "It is free."]
      build := ["tools release 7.4", "tools build: comes last"]
      oneLine := by decide +kernel
      copyright_begins := by decide +kernel
      license_comes := ⟨_, rfl, by decide +kernel⟩
      license_filled := by decide
      build_filled := by decide }
    let ported : Build := { version := "2.0.0-rc1", arch := "aarch64", os := "macos", debug := false }
    let text := "kit 7.4\r\nCopyright 2026, the developers\n\r\nkit comes with no warranty.\nIt is free.\r\n\n" ++
      "tools release 7.4\r\ntools build: comes last"
    p.WrittenIn text ∧ p.CopyrightFirst ∧ p.LicenseFirst ∧ p.BuildFirst "tools" ∧
      Edition.license text = "kit comes with no warranty.\nIt is free." ∧
      Edition.buildInfo "tools" text = "tools release 7.4\ntools build: comes last" ∧
      Edition.banner ((builtin ported).describe packageName true) =
        "smartmon-rs 2.0.0-rc1 [aarch64-macos] (release build)" ∧
      Edition.buildInfo packageName ((builtin ported).describe "x" true) =
        "smartmon-rs release 2.0.0-rc1\nsmartmon-rs build target: aarch64-macos\n" ++
          "smartmon-rs build profile: release\nsmartmon-rs build features: none" := by
  intro p ported text
  have hlines : Text.Written (p.lines.map String.toList) _ :=
    .line _ .returnFeed (.line _ .feed (.line _ .returnFeed (.line _ .feed (.line _ .returnFeed
      (.line _ .feed (.line _ .returnFeed (.unended (by decide))))))))
  have hwritten : p.WrittenIn text :=
    (congrArg (Text.Written (p.lines.map String.toList)) (by decide +kernel)).mpr hlines
  have hcopyright : p.CopyrightFirst := by decide +kernel
  have hlicense : p.LicenseFirst := by decide +kernel
  have hbuild : p.BuildFirst "tools" := by decide +kernel
  obtain ⟨-, -, hcut, hlines⟩ := pieces_cut_out_exactly.1 p text hwritten
  obtain ⟨hown, -, -, hother, hfirst, -⟩ := pieces_cut_out_exactly.2 ported
  obtain ⟨hbanner, -⟩ := pieces_cut_out_exactly.1 _ _ hown
  obtain ⟨-, -, -, hported⟩ := pieces_cut_out_exactly.1 _ _ hother
  exact ⟨hwritten, hcopyright, hlicense, hbuild, (hcut hlicense).trans (by decide +kernel),
    (hlines "tools" hbuild).trans (by decide +kernel), hbanner.trans (by decide +kernel),
    (hported packageName hfirst).trans (by decide +kernel)⟩

end Edition

end DriveHealth
