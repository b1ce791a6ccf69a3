import DriveHealth.Text.Regex
import Mathlib.Data.List.Basic
set_option autoImplicit false

/-!
What a regular expression finds, and what is relied on of a library that compiles them: `Library.IsDocumented`.
-/

namespace DriveHealth.Text.Regex

/-- Whether the items take a front of what is left of a text, behind what they have passed. -/
inductive Fits : List Item → List Char → List Char → Prop where
  | done {before rest : List Char} : Fits [] before rest
  | textStart {e : List Item} {rest : List Char} (h : Fits e [] rest) : Fits (.textStart :: e) [] rest
  | textEnd {e : List Item} {before : List Char} (h : Fits e before []) : Fits (.textEnd :: e) before []
  | once {a : Atom} {c : Char} {e : List Item} {before rest : List Char} (hc : a.admits c = true)
    (h : Fits e (before ++ [c]) rest) : Fits (.once a :: e) before (c :: rest)
  | enough {a : Atom} {e : List Item} {before rest : List Char} (h : Fits e before rest) :
    Fits (.repeated a :: e) before rest
  | again {a : Atom} {c : Char} {e : List Item} {before rest : List Char} (hc : a.admits c = true)
    (h : Fits (.repeated a :: e) (before ++ [c]) rest) : Fits (.repeated a :: e) before (c :: rest)

/-- An expression is looked for at every place of a text. -/
def Finds (e : List Item) (text : List Char) : Prop := ∃ before rest, before ++ rest = text ∧ Fits e before rest

/-- What a library says of itself: escaping a text quotes each of its special characters, and the spelling
of an expression compiles to what finds it, unless that would grow too large. -/
structure Library.IsDocumented (lib : Library) : Prop where
  escape_eq (s : String) : (lib.escape s).toList = s.toList.flatMap quote
  compile_spelled (e : List Item) :
    (∃ limit, lib.compile (String.ofList (e.flatMap Item.spelled)) = .error (.tooLarge limit)) ∨
    ∃ re, lib.compile (String.ofList (e.flatMap Item.spelled)) = .ok re ∧
      ∀ s, lib.isMatch re s = true ↔ Finds e s.toList

namespace Reading

theorem step_plain {c : Char} (h : isMeta c = false) (items : List Item) :
    step ⟨false, items⟩ c = some ⟨false, .once (.literal c) :: items⟩ := by
  unfold step
  split
  · contradiction
  · dsimp only
    split <;> first | exact absurd h (by decide) | simp [h]

theorem foldlM_atom (a : Atom) (items : List Item) (rest : List Char) :
    (a.spelled ++ rest).foldlM step ⟨false, items⟩ = rest.foldlM step ⟨false, .once a :: items⟩ := by
  cases a with
  | dot => rfl
  | literal c =>
    simp only [Atom.spelled, quote]
    split
    · next hc =>
      have hquote : step ⟨true, items⟩ c = some ⟨false, .once (.literal c) :: items⟩ := by simp [step, hc]
      change (step ⟨true, items⟩ c >>= rest.foldlM step) = _
      rw [hquote]
      rfl
    · next hc =>
      change (step ⟨false, items⟩ c >>= rest.foldlM step) = _
      rw [step_plain (by simpa using hc)]
      rfl

theorem foldlM_item (i : Item) (items : List Item) (rest : List Char) :
    (i.spelled ++ rest).foldlM step ⟨false, items⟩ = rest.foldlM step ⟨false, i :: items⟩ := by
  cases i with
  | textStart => rfl
  | textEnd => rfl
  | once a => exact foldlM_atom a items rest
  | repeated a =>
    rw [Item.spelled, List.append_assoc, foldlM_atom]
    rfl

theorem foldlM_spelled (e items : List Item) :
    (e.flatMap Item.spelled).foldlM step ⟨false, items⟩ = some ⟨false, e.reverse ++ items⟩ := by
  induction e generalizing items with
  | nil => rfl
  | cons i e ih => rw [List.flatMap_cons, foldlM_item, ih]; simp

end Reading

theorem ofSpelling?_spelled (e : List Item) : ofSpelling? (e.flatMap Item.spelled) = some e := by
  simp [ofSpelling?, Reading.foldlM_spelled]

/-- Marks that tell of each place in what is left of a text whether something holds there. -/
inductive Marked (P : List Char → List Char → Prop) : List Char → List Char → List Bool → Prop where
  | last {before : List Char} {m : Bool} (h : m = true ↔ P before []) : Marked P before [] [m]
  | place {before : List Char} {c : Char} {cs : List Char} {m : Bool} {ms : List Bool} (h : m = true ↔ P before (c :: cs))
    (hms : Marked P (before ++ [c]) cs ms) : Marked P before (c :: cs) (m :: ms)

namespace Marked

variable {P Q : List Char → List Char → Prop} {before cs : List Char} {ms : List Bool}

theorem headD_iff (h : Marked P before cs ms) : ms.headD false = true ↔ P before cs := by
  cases h with
  | last hm => exact hm
  | place hm hms => exact hm

theorem unmarked (h : Marked P before cs ms) (hnone : ∀ mid rest, mid ++ rest = cs → ¬ Q (before ++ mid) rest) :
    Marked Q before cs (ms.map fun _ => false) := by
  induction h with
  | last hm => exact .last (by simpa using hnone [] [] rfl)
  | @place before c cs m ms hm hms ih =>
    have hrest : ∀ mid rest, mid ++ rest = cs → ¬ Q (before ++ [c] ++ mid) rest := fun mid rest hcs => by
      simpa using hnone (c :: mid) rest (by rw [← hcs, List.cons_append])
    exact .place (by simpa using hnone [] (c :: cs) rfl) (ih hrest)

theorem any_iff (h : Marked P before cs ms) :
    ms.any id = true ↔ ∃ mid rest, mid ++ rest = cs ∧ P (before ++ mid) rest := by
  induction h with
  | last hm => simp [hm]
  | @place before c cs m ms hm hms ih =>
    rw [List.any_cons, Bool.or_eq_true, ih, id_eq, hm]
    constructor
    · rintro (hplace | ⟨mid, rest, rfl, hlater⟩)
      · exact ⟨[], c :: cs, rfl, by rwa [List.append_nil]⟩
      · exact ⟨c :: mid, rest, rfl, by rwa [List.append_cons]⟩
    · rintro ⟨mid, rest, hmid, hplace⟩
      cases mid with
      | nil =>
        obtain rfl : rest = c :: cs := hmid
        exact .inl (by rwa [List.append_nil] at hplace)
      | cons d mid =>
        obtain ⟨rfl, rfl⟩ := List.cons.inj hmid
        exact .inr ⟨mid, rest, rfl, by rwa [List.append_cons] at hplace⟩

theorem all (hall : ∀ before rest, P before rest) (before cs : List Char) :
    Marked P before cs (List.replicate (cs.length + 1) true) := by
  induction cs generalizing before with
  | nil => exact .last (by simp [hall])
  | cons c cs ih => exact .place (by simp [hall]) (ih (before ++ [c]))

variable {e : List Item}

theorem textStart (h : Marked (Fits e) [] cs ms) : Marked (Fits (.textStart :: e)) [] cs (onlyFirst ms) := by
  have hiff (rest : List Char) : Fits e [] rest ↔ Fits (.textStart :: e) [] rest :=
    ⟨.textStart, fun h => by cases h; assumption⟩
  cases h with
  | last hm => exact .last (hm.trans (hiff []))
  | place hm hms => exact .place (hm.trans (hiff _)) (hms.unmarked fun _ _ _ hfits => nomatch hfits)

theorem textEnd (h : Marked (Fits e) before cs ms) : Marked (Fits (.textEnd :: e)) before cs (onlyLast ms) := by
  induction h with
  | last hm => exact .last (hm.trans ⟨.textEnd, fun h => by cases h; assumption⟩)
  | @place before c cs m ms hm hms ih =>
    have hfalse : onlyLast (m :: ms) = false :: onlyLast ms := by cases hms <;> rfl
    rw [hfalse]
    exact .place ⟨fun h => (nomatch h), fun h => (nomatch h)⟩ ih

theorem once {a : Atom} (h : Marked (Fits e) before cs ms) :
    Marked (Fits (.once a :: e)) before cs (a.onceMarks cs ms) := by
  induction h with
  | last hm => exact .last ⟨fun h => (nomatch h), fun h => (nomatch h)⟩
  | place hm hms ih =>
    refine .place ?_ ih
    rw [Bool.and_eq_true, hms.headD_iff]
    exact ⟨fun ⟨hc, hnext⟩ => .once hc hnext, fun h => by cases h; exact ⟨‹_›, ‹_›⟩⟩

theorem repeated {a : Atom} (h : Marked (Fits e) before cs ms) :
    Marked (Fits (.repeated a :: e)) before cs (a.runMarks cs ms) := by
  induction h with
  | last hm => exact .last (hm.trans ⟨.enough, fun h => by cases h; assumption⟩)
  | place hm hms ih =>
    refine .place ?_ ih
    rw [Bool.or_eq_true, Bool.and_eq_true, hm, ih.headD_iff]
    constructor
    · rintro (hplace | ⟨hc, hnext⟩)
      · exact .enough hplace
      · exact .again hc hnext
    · intro h
      cases h with
      | enough hplace => exact .inl hplace
      | again hc hnext => exact .inr ⟨hc, hnext⟩

end Marked

theorem marked_marks (e : List Item) (cs : List Char) : Marked (Fits e) [] cs (marks e cs) := by
  induction e with
  | nil => exact .all (fun _ _ => .done) [] cs
  | cons i e ih =>
    cases i with
    | textStart => exact ih.textStart
    | textEnd => exact ih.textEnd
    | once a => exact ih.once
    | repeated a => exact ih.repeated

theorem Library.plain_isDocumented (exceeded? : List Item → Option Nat) : (Library.plain exceeded?).IsDocumented where
  escape_eq s := by simp [Library.plain]
  compile_spelled e := by
    simp only [Library.plain, String.toList_ofList, ofSpelling?_spelled]
    split
    · next limit _ => exact .inl ⟨limit, rfl⟩
    · exact .inr ⟨e, rfl, fun s => (marked_marks e s.toList).any_iff⟩

end DriveHealth.Text.Regex
