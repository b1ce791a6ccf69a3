import DriveHealth.Proofs.Columns
import DriveHealth.Proofs.WholeLines
set_option autoImplicit false

/-!
Lines with a title: a label of fixed width, and behind it a text that a device gives. Line feeds cut the text, and
what stands behind them has no label any more. Other lines are told apart from these by how they begin.
-/

namespace DriveHealth

namespace Text

theorem pieces_of_no_newline {cs : List Char} (h : '\n' ∉ cs) : pieces cs = [cs] := by
  rw [pieces, List.splitOn, List.splitOnP_eq_singleton]
  intro c hc
  have hne : c ≠ '\n' := fun hcn => h (hcn ▸ hc)
  simpa using hne

theorem pieces_append {cs : List Char} (h : '\n' ∉ cs) (ds : List Char) :
    pieces (cs ++ ds) = (pieces ds).modifyHead (cs ++ ·) := by
  induction cs with
  | nil => exact (congrFun List.modifyHead_id (pieces ds)).symm
  | cons c cs ih =>
    obtain ⟨hc, hcs⟩ : '\n' ≠ c ∧ '\n' ∉ cs := by simpa using h
    have hstep : pieces (c :: (cs ++ ds)) = (pieces (cs ++ ds)).modifyHead (c :: ·) := by
      simp [pieces, List.splitOn, List.splitOnP_cons_eq_if_modifyHead, hc.symm]
    rw [List.cons_append, hstep, ih hcs, List.modifyHead_modifyHead]
    rfl

theorem dropReturn_append {cs : List Char} (h : cs.getLast? ≠ some '\r') (ds : List Char) :
    dropReturn (cs ++ ds) = cs ++ dropReturn ds := by
  by_cases hds : ds = []
  · subst hds
    simp [dropReturn, h]
  · have hlast : (cs ++ ds).getLast? = ds.getLast? := by
      simp [List.getLast?_append, List.getLast?_eq_some_getLast hds]
    rw [dropReturn, dropReturn, hlast, List.dropLast_append_of_ne_nil hds]
    split <;> rfl

theorem prefix_dropReturn (cs : List Char) : dropReturn cs <+: cs := by
  rw [dropReturn]
  split
  · exact List.dropLast_prefix cs
  · exact List.prefix_refl cs

theorem dropReturn_eq_self_iff {cs : List Char} : dropReturn cs = cs ↔ cs.getLast? ≠ some '\r' := by
  refine ⟨fun h hlast => ?_, fun h => if_neg h⟩
  have hne : cs ≠ [] := by
    rintro rfl
    cases hlast
  have hlength := congrArg List.length h
  rw [dropReturn, if_pos hlast, List.length_dropLast] at hlength
  have := List.length_pos_iff.2 hne
  omega

theorem filledLines_newlines {cs : List Char} (h : ∀ c ∈ cs, c = '\n') : filledLines cs = [] := by
  induction cs with
  | nil => rfl
  | cons c cs ih =>
    obtain ⟨rfl, hcs⟩ := List.forall_mem_cons.1 h
    exact (filledLines_append_newline [] cs).trans (ih hcs)

theorem newline_notMem_of_word {s : String} (h : IsWord s) : '\n' ∉ s.toList :=
  fun hmem => absurd (h.2 _ hmem) (by decide)

theorem newline_notMem_toDigits (n : Nat) : '\n' ∉ Nat.toDigits 10 n :=
  fun hmem => absurd (isBlank_of_mem_toDigits (by decide) _ hmem) (by decide)

theorem newline_notMem_toString (n : Nat) : '\n' ∉ (toString n).toList :=
  newline_notMem_of_word (isWord_toString n)

theorem mem_groupDigits {cs : List Char} {c : Char} (h : c ∈ groupDigits cs) : c = ',' ∨ c ∈ cs := by
  induction cs with
  | nil => cases h
  | cons d ds ih =>
    rw [groupDigits_cons] at h
    obtain rfl | h := List.mem_cons.1 h
    · exact .inr List.mem_cons_self
    · split at h
      · obtain rfl | h := List.mem_cons.1 h
        · exact .inl rfl
        · exact (ih h).imp_right (List.mem_cons_of_mem d)
      · exact (ih h).imp_right (List.mem_cons_of_mem d)

theorem newline_notMem_grouped (n : Nat) : '\n' ∉ (grouped n).toList := by
  intro hmem
  rw [grouped, String.toList_ofList] at hmem
  obtain h | h := mem_groupDigits hmem
  · revert h
    decide
  · exact newline_notMem_toDigits n h

theorem newline_notMem_fixed (places : Nat) (x : Binary64) : '\n' ∉ (x.fixed places).toList := by
  have hbase : 1 < 10 := by decide
  have hdigits (width n : Nat) : '\n' ∉ (Nat.toDigits 10 n).leftpad width '0' := by
    simpa using newline_notMem_of_word (isWord_digits hbase width n)
  rw [Binary64.fixed]
  split
  · rw [String.toList_ofList]
    exact fun hmem => hdigits _ _ (List.mem_of_mem_take hmem)
  · rw [String.toList_ofList]
    intro hmem
    obtain h | h := List.mem_append.1 hmem
    · exact hdigits _ _ (List.mem_of_mem_take h)
    · obtain h | h := List.mem_cons.1 h
      · revert h
        decide
      · exact hdigits _ _ (List.mem_of_mem_drop h)

theorem mem_scaleUnits (x : Binary64) (unit : String) (units : List String) :
    (scaleUnits x unit units).2 ∈ unit :: units := by
  induction units generalizing x unit with
  | nil => exact List.mem_singleton.2 rfl
  | cons next units ih =>
    rw [scaleUnits]
    split
    · exact List.mem_cons_of_mem unit (ih _ _)
    · exact List.mem_cons_self

theorem newline_notMem_siSize (n : Nat) : '\n' ∉ (siSize n).toList := by
  rw [siSize]
  have hunit := mem_scaleUnits (.ofNat n) "B" ["KB", "MB", "GB", "TB", "PB", "EB"]
  generalize scaleUnits (.ofNat n) "B" ["KB", "MB", "GB", "TB", "PB", "EB"] = scaled at hunit
  have hfree : ∀ unit ∈ ["B", "KB", "MB", "GB", "TB", "PB", "EB"], '\n' ∉ unit.toList := by decide
  simpa [toString, newline_notMem_fixed] using hfree _ hunit

theorem newline_notMem_capacity (n : Nat) : '\n' ∉ (capacity n).toList := by
  simp [capacity, toString, newline_notMem_grouped, newline_notMem_siSize]

def Diverge (cs ds : List Char) : Prop := cs.isPrefixOf ds = false ∧ ds.isPrefixOf cs = false

instance (cs ds : List Char) : Decidable (Diverge cs ds) := inferInstanceAs (Decidable (_ ∧ _))

theorem Diverge.symm {cs ds : List Char} (h : Diverge cs ds) : Diverge ds cs := ⟨h.2, h.1⟩

theorem Diverge.isPrefixOf_append {cs ds : List Char} (h : Diverge cs ds) (es : List Char) :
    cs.isPrefixOf (ds ++ es) = false := by
  obtain ⟨hcs, hds⟩ := h
  rw [Bool.eq_false_iff, ne_eq, List.isPrefixOf_iff_prefix] at hcs hds ⊢
  exact fun hbegins => (List.prefix_or_prefix_of_prefix hbegins (List.prefix_append ds es)).elim hcs hds

/-- A text with a line feed, and behind the first one nothing else. -/
def IsLine (cs : List Char) : Prop :=
  cs.dropWhile (· != '\n') ≠ [] ∧ ∀ c ∈ cs.dropWhile (· != '\n'), c = '\n'

instance (cs : List Char) : Decidable (IsLine cs) :=
  @instDecidableAnd _ _ inferInstance (List.decidableBAll (· = '\n') (cs.dropWhile (· != '\n')))

theorem IsLine.behind {cs ds : List Char} (h : IsLine ds) (hc : '\n' ∉ cs) : IsLine (cs ++ ds) := by
  have hall : ∀ c ∈ cs, (c != '\n') = true := fun c hmem => bne_iff_ne.2 fun hcn => hc (hcn ▸ hmem)
  rw [IsLine, List.dropWhile_append_of_pos hall]
  exact h

theorem IsLine.eq_append {cs : List Char} (h : IsLine cs) :
    ∃ line ends, cs = line ++ '\n' :: ends ∧ '\n' ∉ line ∧ ∀ c ∈ ends, c = '\n' := by
  obtain ⟨hne, hall⟩ := h
  obtain ⟨c, ends, hdrop⟩ := List.exists_cons_of_ne_nil hne
  rw [hdrop] at hall
  obtain ⟨rfl, hends⟩ := List.forall_mem_cons.1 hall
  refine ⟨cs.takeWhile (· != '\n'), ends, ?_, fun hmem => ?_, hends⟩
  · rw [← hdrop, List.takeWhile_append_dropWhile]
  · simpa using List.all_eq_true.1 List.all_takeWhile _ hmem

end Text

/-- A name that a device gives itself: its title in the text, how wide the label is that the title stands in, its
key in the report, the name, and the octets of the reply that it is read from. -/
structure DeviceName where
  title : String
  width : Nat
  key : String
  value : String
  start : Nat
  length : Nat
  oneLine : Text.OneLine title.toList := by decide
  filled : title ≠ "" := by decide

namespace DeviceName

open Text

variable (n : DeviceName)

def label : String := alignLeft n.width n.title

def line : String := n.label ++ n.value

/-- The lines that are read of a name. It is cut at its line feeds, a carriage return before one or at the end
is lost, and behind the first line feed what is empty is no line. -/
def lines : List String :=
  match (pieces n.value.toList).map dropReturn with
  | [] => []
  | first :: more => (n.label ++ String.ofList first) :: (more.filter (!·.isEmpty)).map String.ofList

def heads (l : String) : Bool := n.title.toList.isPrefixOf l.toList

theorem toList_label : n.label.toList = n.title.toList ++ List.replicate (n.width - n.title.toList.length) ' ' := by
  simp [label, alignLeft, List.rightpad]

theorem oneLine_label : OneLine n.label.toList := by
  rw [toList_label]
  refine n.oneLine.append ⟨by simp, fun h => ?_⟩
  have hblank := List.eq_of_mem_replicate (List.mem_of_getLast? h)
  revert hblank
  decide

theorem label_ne_nil : n.label.toList ≠ [] := by
  have hfilled := n.filled
  simp [toList_label, hfilled]

theorem heads_line : n.heads n.line = true := by
  rw [heads, List.isPrefixOf_iff_prefix, line, String.toList_append, toList_label, List.append_assoc]
  exact List.prefix_append _ _

theorem render_line (kind : EventKind) : Event.render [⟨kind, n.line ++ "\n"⟩] = n.lines := by
  have hjoined : Event.joined [⟨kind, n.line ++ "\n"⟩] = (n.label.toList ++ n.value.toList) ++ '\n' :: [] := by
    simp [Event.joined, line]
  have hend : filledLines [] = [] := rfl
  rw [Event.render, hjoined, filledLines_append_newline, hend, List.append_nil, filledLines,
    pieces_append n.oneLine_label.1, lines]
  cases pieces n.value.toList with
  | nil => rfl
  | cons first more =>
    have hfirst : n.label.toList ++ dropReturn first ≠ [] := by simp [n.label_ne_nil]
    have hne : (n.label.toList ++ dropReturn first).isEmpty = false := by simpa using hfirst
    simp [dropReturn_append n.oneLine_label.2, hne, String.ofList_append]

theorem render_lines (kind : EventKind) (names : List DeviceName) :
    Event.render (names.map fun n => ⟨kind, n.line ++ "\n"⟩) = names.flatMap lines := by
  induction names with
  | nil => rfl
  | cons n names ih =>
    have hwhole : Event.Whole [⟨kind, n.line ++ "\n"⟩] := by
      intro e he
      obtain rfl := List.mem_singleton.1 he
      exact DriveHealth.endsLine_line _
    rw [List.map_cons, List.flatMap_cons, ← n.render_line kind, ← ih]
    exact Event.render_append hwhole _

variable {n}

theorem lines_of_no_newline (h : '\n' ∉ n.value.toList) :
    n.lines = [n.label ++ String.ofList (dropReturn n.value.toList)] := by
  simp [lines, pieces_of_no_newline h]

theorem lines_eq_iff : n.lines = [n.line] ↔ OneLine n.value.toList := by
  constructor
  · intro h
    have hnewline : '\n' ∉ n.value.toList := by
      -- otherwise the first line says no more than what is in front of the first line feed
      intro hmem
      obtain ⟨first, rest, hvalue, hfirst⟩ := List.eq_append_cons_of_mem hmem
      have hpieces : pieces n.value.toList = first :: pieces rest := by
        rw [hvalue, pieces, List.splitOn_append_cons_self_of_not_mem hfirst]
        rfl
      simp only [lines, hpieces, List.map_cons, line, List.cons.injEq, String.append_right_inj] at h
      have hdropped : dropReturn first = n.value.toList := by rw [← h.1, String.toList_ofList]
      have hlength := (prefix_dropReturn first).length_le
      rw [hdropped, hvalue, List.length_append, List.length_cons] at hlength
      omega
    refine ⟨hnewline, ?_⟩
    rw [lines_of_no_newline hnewline] at h
    simp only [line, List.cons.injEq, String.append_right_inj, and_true] at h
    have hdropped := congrArg String.toList h
    rw [String.toList_ofList] at hdropped
    exact dropReturn_eq_self_iff.1 hdropped
  · intro h
    rw [lines_of_no_newline h.1, dropReturn_oneLine h, String.ofList_toList]
    rfl

def Distinct (names : List DeviceName) : Prop :=
  names.Pairwise fun m n => Text.Diverge m.title.toList n.title.toList

theorem not_heads_line {m n : DeviceName} (h : Text.Diverge m.title.toList n.title.toList) :
    m.heads n.line = false := by
  rw [heads, line, String.toList_append, toList_label, List.append_assoc]
  exact h.isPrefixOf_append _

theorem filter_heads {names : List DeviceName} (h : Distinct names) :
    ∀ n ∈ names, (names.map line).filter n.heads = [n.line] := by
  induction names with
  | nil => simp
  | cons m names ih =>
    obtain ⟨hm, hnames⟩ := List.pairwise_cons.1 h
    intro n hn
    rw [List.map_cons]
    obtain rfl | hn := List.mem_cons.1 hn
    · have hrest : (names.map line).filter n.heads = [] := by
        simpa [List.filter_eq_nil_iff] using fun m hmem => not_heads_line (hm m hmem)
      rw [List.filter_cons_of_pos n.heads_line, hrest]
    · have hother : ¬ n.heads m.line = true := by simp [not_heads_line (hm n hn).symm]
      rw [List.filter_cons_of_neg hother, ih hnames n hn]

end DeviceName

/-- A text of one line that begins with none of the titles. -/
structure IsAside (titles : List String) (text : String) : Prop where
  isLine : Text.IsLine text.toList
  untitled : ∀ t ∈ titles, t.toList.isPrefixOf text.toList = false

namespace IsAside

open Text

variable {titles : List String}

instance (titles : List String) (text : String) : Decidable (IsAside titles text) :=
  decidable_of_iff (IsLine text.toList ∧ ∀ t ∈ titles, t.toList.isPrefixOf text.toList = false)
    ⟨fun h => ⟨h.1, h.2⟩, fun h => ⟨h.isLine, h.untitled⟩⟩

/-- Behind a text that no title goes together with, it does not matter what the line says. -/
theorem around {head middle last : String} (hmiddle : '\n' ∉ middle.toList)
    (hhead : '\n' ∉ head.toList ∧ (∀ t ∈ titles, Diverge t.toList head.toList) ∧ IsLine last.toList) :
    IsAside titles (head ++ middle ++ last) where
  isLine := by
    rw [String.toList_append, String.toList_append]
    exact hhead.2.2.behind (by simp [hhead.1, hmiddle])
  untitled t ht := by
    rw [String.toList_append, String.toList_append, List.append_assoc]
    exact (hhead.2.1 t ht).isPrefixOf_append _

theorem endsLine {text : String} (h : IsAside titles text) : EndsLine text := by
  obtain ⟨line, ends, htext, -, hends⟩ := h.isLine.eq_append
  have hne : '\n' :: ends ≠ [] := List.cons_ne_nil _ _
  have hlast : ('\n' :: ends).getLast hne = '\n' := (List.mem_cons.1 (List.getLast_mem hne)).elim id (hends _)
  rw [EndsLine, htext, List.getLast?_append, List.getLast?_eq_some_getLast hne, hlast]
  rfl

theorem render {kind : EventKind} {text : String} (h : IsAside titles text) :
    ∀ l ∈ Event.render [⟨kind, text⟩], ∀ t ∈ titles, t.toList.isPrefixOf l.toList = false := by
  obtain ⟨line, ends, htext, hline, hends⟩ := h.isLine.eq_append
  have hlines : Event.render [⟨kind, text⟩] = ([dropReturn line].filter (!·.isEmpty)).map String.ofList := by
    have hjoined : Event.joined [⟨kind, text⟩] = line ++ '\n' :: ends := by simp [Event.joined, htext]
    rw [Event.render, hjoined, filledLines_line hline, filledLines_newlines hends, List.append_nil]
  rw [hlines]
  intro l hl t ht
  obtain ⟨cs, hcs, rfl⟩ := List.mem_map.1 hl
  obtain rfl := List.mem_singleton.1 (List.mem_filter.1 hcs).1
  have huntitled := h.untitled t ht
  rw [Bool.eq_false_iff, ne_eq, List.isPrefixOf_iff_prefix, htext] at huntitled
  rw [Bool.eq_false_iff, ne_eq, List.isPrefixOf_iff_prefix, String.toList_ofList]
  exact fun hbegins => huntitled ((hbegins.trans (prefix_dropReturn line)).trans (List.prefix_append _ _))

theorem render_all {es : List Event} (h : ∀ e ∈ es, IsAside titles e.text) :
    ∀ l ∈ Event.render es, ∀ t ∈ titles, t.toList.isPrefixOf l.toList = false := by
  induction es with
  | nil => exact fun l hl => absurd hl List.not_mem_nil
  | cons e es ih =>
    obtain ⟨he, hes⟩ := List.forall_mem_cons.1 h
    have hwhole : Event.Whole [e] := by simpa [Event.Whole] using he.endsLine
    have hcons : Event.render (e :: es) = Event.render [e] ++ Event.render es := Event.render_append hwhole es
    intro l hl
    rw [hcons, List.mem_append] at hl
    exact hl.elim (he.render l) (ih hes l)

end IsAside

end DriveHealth
