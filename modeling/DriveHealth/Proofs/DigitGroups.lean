import DriveHealth.Proofs.Cuts
import DriveHealth.Text.Number
import Mathlib.Algebra.Group.Nat.Defs
import Mathlib.Data.List.Basic
set_option autoImplicit false

/-!
Digits in groups of three. Groups are counted from the end and commas are set from the front, so a list of digits is
cut into a short first group and groups of three behind it: there is one such cut, and the commas stand at it.
-/

namespace DriveHealth.Text

/-- A text without its commas. -/
def ungrouped (s : String) : String := String.ofList (s.toList.filter (· != ','))

/-- One to three digits, and then three at a time. -/
structure InThrees (first : List Char) (rest : List (List Char)) : Prop where
  first_pos : 1 ≤ first.length
  first_le : first.length ≤ 3
  rest_three : ∀ g ∈ rest, g.length = 3

theorem InThrees.length_flatten {first : List Char} {rest : List (List Char)} (h : InThrees first rest) :
    rest.flatten.length = 3 * rest.length := by
  rw [List.length_flatten, List.eq_replicate_of_mem (l := rest.map List.length) (a := 3) (by simpa using h.rest_three)]
  simp [Nat.mul_comm]

theorem exists_inThrees {cs : List Char} (h : cs ≠ []) :
    ∃ first rest, InThrees first rest ∧ cs = first ++ rest.flatten := by
  induction cs with
  | nil => exact absurd rfl h
  | cons c ds ih =>
    by_cases hds : ds = []
    · exact ⟨[c], [], ⟨by simp, by simp, by simp⟩, by simp [hds]⟩
    · -- one digit more in front goes into the first group, or begins a new one where that is full
      obtain ⟨first, rest, hthrees, heq⟩ := ih hds
      have hle := hthrees.first_le
      by_cases hfull : first.length = 3
      · exact ⟨[c], first :: rest, ⟨by simp, by simp, List.forall_mem_cons.2 ⟨hfull, hthrees.rest_three⟩⟩, by simp [heq]⟩
      · exact ⟨c :: first, rest, ⟨by simp, by simp; omega, hthrees.rest_three⟩, by simp [heq]⟩

/-- No comma is set within the first group, and one behind it if anything follows. -/
theorem groupDigits_append {first tail : List Char} (hpos : 1 ≤ first.length) (hle : first.length ≤ 3)
    (htail : tail.length % 3 = 0) :
    groupDigits (first ++ tail) = first ++ if tail = [] then [] else ',' :: groupDigits tail := by
  induction first with
  | nil => cases hpos
  | cons c first ih =>
    rw [List.length_cons] at hle
    rw [List.cons_append, groupDigits_cons]
    by_cases hfirst : first = []
    · by_cases hnone : tail = [] <;> simp [hfirst, hnone, htail, groupDigits]
    · have hsome : 1 ≤ first.length := List.length_pos_iff.2 hfirst
      have hwithin : (first ++ tail).length % 3 ≠ 0 := by
        rw [List.length_append]
        omega
      rw [if_neg fun h => hwithin h.1, ih hsome (by omega)]
      rfl

theorem groupDigits_inThrees {first : List Char} {rest : List (List Char)} (h : InThrees first rest) :
    groupDigits (first ++ rest.flatten) = [','].intercalate (first :: rest) := by
  induction rest generalizing first with
  | nil =>
    rw [groupDigits_append h.first_pos h.first_le (by simp)]
    simp
  | cons g rest ih =>
    obtain ⟨hg, hrest⟩ := List.forall_mem_cons.1 h.rest_three
    have hbehind : InThrees g rest := ⟨by omega, by omega, hrest⟩
    have hsome : (g :: rest).flatten ≠ [] := by
      rw [← List.length_pos_iff, h.length_flatten, List.length_cons]
      omega
    have hthree : (g :: rest).flatten.length % 3 = 0 := by
      rw [h.length_flatten]
      omega
    rw [groupDigits_append h.first_pos h.first_le hthree, if_neg hsome, List.flatten_cons, ih hbehind,
      List.intercalate_cons_cons, List.append_assoc, List.singleton_append]

theorem splitOn_groupDigits {cs : List Char} (hne : cs ≠ []) (h : ',' ∉ cs) :
    ∃ first rest, (groupDigits cs).splitOn ',' = first :: rest ∧ InThrees first rest := by
  obtain ⟨first, rest, hthrees, rfl⟩ := exists_inThrees hne
  refine ⟨first, rest, ?_, hthrees⟩
  rw [groupDigits_inThrees hthrees]
  refine List.splitOn_intercalate ',' (fun g hg hcomma => h ?_) (List.cons_ne_nil _ _)
  rw [← List.flatten_cons]
  exact List.mem_flatten.2 ⟨g, hg, hcomma⟩

theorem groupDigits_filter {cs first : List Char} {rest : List (List Char)} (hsplit : cs.splitOn ',' = first :: rest)
    (h : InThrees first rest) : groupDigits (cs.filter (· != ',')) = cs := by
  have hcs : groupDigits (first ++ rest.flatten) = cs := by
    rw [groupDigits_inThrees h, ← hsplit, List.intercalate_splitOn]
  have hdigits : ∀ c ∈ first ++ rest.flatten, c ≠ ',' := by
    intro c hc hcomma
    rw [← List.flatten_cons, ← hsplit] at hc
    obtain ⟨g, hg, hmem⟩ := List.mem_flatten.1 hc
    exact notMem_of_mem_splitOn hg (hcomma ▸ hmem)
  rw [← hcs, filter_groupDigits _ hdigits, hcs]

theorem getLast?_groupDigits (cs : List Char) : (groupDigits cs).getLast? = cs.getLast? := by
  induction cs with
  | nil => rfl
  | cons c cs ih =>
    rw [groupDigits_cons]
    by_cases hlast : cs = []
    · simp [hlast, groupDigits]
    · split <;> simp [List.getLast?_cons, ih, List.getLast?_eq_some_getLast hlast]

theorem comma_notMem_toDigits (n : Nat) : ',' ∉ Nat.toDigits 10 n :=
  fun hmem => absurd (Nat.isDigit_of_mem_toDigits (by decide) (by decide) hmem) (by decide)

theorem head?_toDigits_eq_zero_iff (n : Nat) : (Nat.toDigits 10 n).head? = some '0' ↔ n = 0 := by
  induction n using Nat.strongRecOn with
  | ind n ih =>
    rw [Nat.toDigits_eq_if (by decide)]
    by_cases hn : n < 10
    · have hdigit : ∀ m < 10, Nat.digitChar m = '0' ↔ m = 0 := by decide
      rw [if_pos hn, List.head?_cons, Option.some.injEq, hdigit n hn]
    · have hhead := ih (n / 10) (by omega)
      rw [if_neg hn, List.head?_append_of_ne_nil _ Nat.toDigits_ne_nil, hhead]
      omega

theorem toList_toString (n : Nat) : (toString n).toList = Nat.toDigits 10 n := by
  rw [Nat.toString_eq_ofList_toDigits, String.toList_ofList]

theorem ungrouped_grouped (n : Nat) : ungrouped (grouped n) = toString n := by
  have hdigits : ∀ c ∈ Nat.toDigits 10 n, c ≠ ',' := fun c hc hcomma => comma_notMem_toDigits n (hcomma ▸ hc)
  rw [ungrouped, grouped, String.toList_ofList, filter_groupDigits _ hdigits, Nat.toString_eq_ofList_toDigits]

theorem grouped_injective {m n : Nat} (h : grouped m = grouped n) : m = n := by
  have htext : toString m = toString n := by rw [← ungrouped_grouped, h, ungrouped_grouped]
  have hdigits : Nat.toDigits 10 m = Nat.toDigits 10 n := by rw [← toList_toString, htext, toList_toString]
  rw [← Nat.ofDigitChars_ten_toDigits (n := m), hdigits, Nat.ofDigitChars_ten_toDigits]

/-- Without its commas a grouped number is the number in decimal, which has no zero in front. No comma is at an end,
and the groups between them are in threes. No other text is like that, and no other number has this one. -/
theorem grouped_canonical (n : Nat) :
    ungrouped (grouped n) = toString n ∧ ((toString n).toList.head? = some '0' ↔ n = 0) ∧
    (grouped n).toList.head? ≠ some ',' ∧ (grouped n).toList.getLast? ≠ some ',' ∧
    (∃ first rest, (grouped n).toList.splitOn ',' = first :: rest ∧ InThrees first rest) ∧
    (∀ t first rest, ungrouped t = toString n → t.toList.splitOn ',' = first :: rest → InThrees first rest →
      t = grouped n) ∧
    ∀ m, grouped m = grouped n → m = n := by
  have hcomma := comma_notMem_toDigits n
  have hgrouped : (grouped n).toList = groupDigits (Nat.toDigits 10 n) := String.toList_ofList
  rw [toList_toString, hgrouped]
  refine ⟨ungrouped_grouped n, head?_toDigits_eq_zero_iff n, ?_, ?_, splitOn_groupDigits Nat.toDigits_ne_nil hcomma,
    fun t first rest ht hsplit hthrees => ?_, fun m => grouped_injective⟩
  · rw [head?_groupDigits]
    exact fun hhead => hcomma (List.mem_of_mem_head? hhead)
  · rw [getLast?_groupDigits]
    exact fun hlast => hcomma (List.mem_of_mem_getLast? hlast)
  · have hfilter : t.toList.filter (· != ',') = Nat.toDigits 10 n := by
      rw [← toList_toString, ← ht, ungrouped, String.toList_ofList]
    rw [← String.toList_inj, hgrouped, ← hfilter, groupDigits_filter hsplit hthrees]

theorem grouped_canonical_largest :
    let n := 2 ^ 128 - 1
    let t := "340,282,366,920,938,463,463,374,607,431,768,211,455"
    let rest := (t.toList.splitOn ',').tail
    ungrouped t = toString n ∧ t.toList.splitOn ',' = ['3', '4', '0'] :: rest ∧ InThrees ['3', '4', '0'] rest ∧
      t = grouped n ∧ (grouped n).toList.getLast? ≠ some ',' := by
  intro n t rest
  have htext : ungrouped t = toString n := by decide +kernel
  have hsplit : t.toList.splitOn ',' = ['3', '4', '0'] :: rest := by decide +kernel
  have hthrees : InThrees ['3', '4', '0'] rest := ⟨by decide, by decide, by decide +kernel⟩
  obtain ⟨-, -, -, hlast, -, hall, -⟩ := grouped_canonical n
  exact ⟨htext, hsplit, hthrees, hall t _ _ htext hsplit hthrees, hlast⟩

end DriveHealth.Text
