import DriveHealth.Text.Blank
set_option autoImplicit false

namespace DriveHealth.Text

theorem notMem_of_mem_splitOn {a : Char} {cs piece : List Char} (h : piece ∈ cs.splitOn a) : a ∉ piece := by
  induction cs generalizing piece with
  | nil => simp_all [List.splitOn]
  | cons c cs ih =>
    rw [List.splitOn, List.splitOnP_cons_eq_if_modifyHead] at h
    split at h
    · obtain rfl | h := List.mem_cons.1 h
      · simp
      · exact ih h
    · next hc =>
      obtain ⟨first, rest, hsplit⟩ := List.exists_cons_of_ne_nil (List.splitOn_ne_nil a cs)
      rw [← List.splitOn, hsplit, List.modifyHead_cons] at h
      obtain rfl | h := List.mem_cons.1 h
      · have hfirst : a ∉ first := ih (by simp [hsplit])
        simpa [hfirst] using fun h => hc (by simp [h])
      · exact ih (by simp [hsplit, h])

theorem exists_front (p : Char → Bool) (cs : List Char) : ∃ front back, cs = front ++ back ∧
    (∀ c ∈ front, p c = true) ∧ ∀ c ∈ back.head?, p c = false := by
  refine ⟨cs.takeWhile p, cs.dropWhile p, List.takeWhile_append_dropWhile.symm,
    fun c hc => List.all_eq_true.1 List.all_takeWhile c hc, fun c hc => ?_⟩
  have h := List.head?_dropWhile_not p cs
  rw [Option.mem_def.1 hc] at h
  exact h

/-- A text without the blanks around it. -/
structure Trimmed (w cs : List Char) : Prop where
  around : ∃ before after, cs = before ++ (w ++ after) ∧ (∀ c ∈ before, isBlank c = true) ∧
    ∀ c ∈ after, isBlank c = true
  head : ∀ c ∈ w.head?, isBlank c = false
  last : ∀ c ∈ w.getLast?, isBlank c = false

theorem dropWhile_front {p : Char → Bool} {front back : List Char} (hfront : ∀ c ∈ front, p c = true)
    (hback : ∀ c ∈ back.head?, p c = false) : (front ++ back).dropWhile p = back := by
  rw [List.dropWhile_append_of_pos hfront]
  cases back with
  | nil => rfl
  | cons c back => simp [List.dropWhile, hback c rfl]

theorem stripped_eq {w cs : List Char} (h : Trimmed w cs) : stripped isBlank cs = w := by
  obtain ⟨before, after, rfl, hbefore, hafter⟩ := h.around
  cases hw : w with
  | nil =>
    have hall : ∀ c ∈ before ++ after, isBlank c = true := List.forall_mem_append.2 ⟨hbefore, hafter⟩
    have hdrop : ((before ++ after) ++ []).dropWhile isBlank = [] := dropWhile_front hall (by simp)
    rw [List.append_nil] at hdrop
    simp [stripped, hdrop]
  | cons d ds =>
    have hhead : ∀ c ∈ (w ++ after).head?, isBlank c = false := by
      rw [hw]
      simpa [hw] using h.head
    have hlast : ∀ c ∈ w.reverse.head?, isBlank c = false := by simpa using h.last
    have hrear : ∀ c ∈ after.reverse, isBlank c = true := by simpa using hafter
    rw [← hw, stripped, dropWhile_front hbefore hhead, List.reverse_append, dropWhile_front hrear hlast,
      List.reverse_reverse]

theorem trimmed_stripped (cs : List Char) : Trimmed (stripped isBlank cs) cs := by
  obtain ⟨before, tail, rfl, hbefore, htail⟩ := exists_front isBlank cs
  obtain ⟨after, core, hcore, hafter, hlast⟩ := exists_front isBlank tail.reverse
  have htailEq : tail = core.reverse ++ after.reverse := by
    rw [← List.reverse_append, ← hcore, List.reverse_reverse]
  have hstripped : stripped isBlank (before ++ tail) = core.reverse := by
    rw [stripped, dropWhile_front hbefore htail, hcore, dropWhile_front hafter hlast]
  rw [hstripped]
  refine ⟨⟨before, after.reverse, by rw [htailEq], hbefore, by simpa using hafter⟩, ?_, by simpa using hlast⟩
  intro c hc
  exact htail c (by rw [htailEq, List.head?_append, Option.mem_def.1 hc]; rfl)

theorem stripped_eq_iff {w cs : List Char} : stripped isBlank cs = w ↔ Trimmed w cs :=
  ⟨fun h => h ▸ trimmed_stripped cs, stripped_eq⟩

theorem getLast?_stripped (p : Char → Bool) (cs : List Char) : ∀ c ∈ (stripped p cs).getLast?, p c = false := by
  intro c hc
  rw [stripped, List.getLast?_reverse] at hc
  have hhead := List.head?_dropWhile_not p (cs.dropWhile p).reverse
  rw [Option.mem_def.1 hc] at hhead
  exact hhead

end DriveHealth.Text
