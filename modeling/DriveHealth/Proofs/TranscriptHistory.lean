import DriveHealth.Proofs.NameLines
import Mathlib.Data.List.Basic
import Mathlib.Data.List.Induction
set_option autoImplicit false

/-!
The history of a transcript: what it holds after any sequence of uses, told by the uses alone. Nothing that is
written down is lost or made up, and as long as the lines are handed out where a line ends, it does not matter when
that is done, nor into which events the text was cut.
-/

namespace DriveHealth

namespace Transcript

/-- One use of a transcript. -/
inductive Use where
  | emit (kind : EventKind) (text : String)
  | switch (on : Bool)
  | clear
  | lines
  | drain
  deriving DecidableEq, Repr

inductive Answer where
  | nothing
  | before (suppressed : Bool)
  | lines (ls : List String)
  deriving DecidableEq, Repr

namespace Use

def perform : Use → Transcript → Answer × Transcript
  | .emit kind text, t => (.nothing, t.emit kind text)
  | .switch on, t => (.before (t.switch on).1, (t.switch on).2)
  | .clear, t => (.nothing, t.clear)
  | .lines, t => (.lines t.lines, t)
  | .drain, t => (.lines t.drain.1, t.drain.2)

def empties : Use → Bool
  | .clear => true
  | .drain => true
  | _ => false

def switched? : Use → Option Bool
  | .switch on => some on
  | _ => none

end Use

/-- The answers to some uses, and the transcript in the end. -/
def play : List Use → Transcript → List Answer × Transcript
  | [], t => ([], t)
  | u :: us, t =>
    let (answer, t) := u.perform t
    let (answers, t) := play us t
    (answer :: answers, t)

/-- Whether writing is suppressed after some uses: the last switch says so, and at first it is not. -/
def silenced (us : List Use) : Bool := (us.reverse.findSome? Use.switched?).getD false

/-- The event that the use at a place writes down: a text that is not empty, where writing is not suppressed. -/
def written? (us : List Use) (i : Nat) : Option Event :=
  match us[i]? with
  | some (.emit kind text) => if silenced (us.take i) || text.isEmpty then none else some ⟨kind, text⟩
  | _ => none

def written (us : List Use) : List Event := (List.range us.length).filterMap (written? us)

/-- What was written down behind the last use that emptied the transcript. -/
def held (us : List Use) : List Event :=
  ((List.range us.length).filter fun i => !(us.drop (i + 1)).any Use.empties).filterMap (written? us)

/-- The lines that were handed out. -/
def handed (us : List Use) (answers : List Answer) : List String :=
  (us.zip answers).flatMap fun
    | (.drain, .lines ls) => ls
    | _ => []

/-- Lines are handed out only where a line ends, or where nothing was written down since the last time. -/
def DrainsAtLineEnds (us : List Use) : Prop :=
  ∀ i < us.length, us[i]? = some .drain → Text.EndsLine (Event.joined (held (us.take i)))

instance (us : List Use) : Decidable (DrainsAtLineEnds us) :=
  inferInstanceAs (Decidable (∀ i < us.length, _ → _))

section

variable (us : List Use) (u : Use)

theorem play_append (vs : List Use) (t : Transcript) :
    play (us ++ vs) t = ((play us t).1 ++ (play vs (play us t).2).1, (play vs (play us t).2).2) := by
  induction us generalizing t with
  | nil => rfl
  | cons u us ih => simp only [List.cons_append, play, ih]

theorem play_concat (t : Transcript) : play (us ++ [u]) t =
    ((play us t).1 ++ [(u.perform (play us t).2).1], (u.perform (play us t).2).2) := by
  rw [play_append]
  rfl

theorem length_play (t : Transcript) : (play us t).1.length = us.length := by
  induction us generalizing t with
  | nil => rfl
  | cons u us ih => exact congrArg (· + 1) (ih _)

theorem silenced_concat : silenced (us ++ [u]) = u.switched?.getD (silenced us) := by
  rw [silenced, List.reverse_concat, List.findSome?_cons]
  cases u <;> rfl

theorem written?_concat {i : Nat} (h : i < us.length) : written? (us ++ [u]) i = written? us i := by
  rw [written?, written?, List.getElem?_append_left h, List.take_append_of_le_length (Nat.le_of_lt h)]

theorem written?_length : written? (us ++ [u]) us.length =
    match u with
    | .emit kind text => if silenced us || text.isEmpty then none else some ⟨kind, text⟩
    | _ => none := by
  rw [written?, List.getElem?_concat_length, List.take_left]
  cases u <;> rfl

theorem filterMap_written?_concat {places : List Nat} (h : ∀ i ∈ places, i < us.length) :
    places.filterMap (written? (us ++ [u])) = places.filterMap (written? us) :=
  List.filterMap_congr fun i hi => written?_concat us u (h i hi)

theorem written_concat :
    written (us ++ [u]) = written us ++ (written? (us ++ [u]) us.length).toList := by
  rw [written, List.length_append, List.length_singleton, List.range_succ, List.filterMap_append,
    filterMap_written?_concat us u fun i => List.mem_range.1, List.filterMap_cons, List.filterMap_nil]
  cases written? (us ++ [u]) us.length <;> rfl

theorem held_concat : held (us ++ [u]) =
    (if u.empties then [] else held us) ++ (written? (us ++ [u]) us.length).toList := by
  have hlater (i : Nat) (hi : i ∈ List.range us.length) :
      (!((us ++ [u]).drop (i + 1)).any Use.empties) = (!u.empties && !(us.drop (i + 1)).any Use.empties) := by
    rw [List.drop_append_of_le_length (List.mem_range.1 hi), List.any_append, List.any_cons, List.any_nil,
      Bool.or_false, Bool.not_or, Bool.and_comm]
  have hlast : [us.length].filter (fun i => !((us ++ [u]).drop (i + 1)).any Use.empties) = [us.length] := by
    simp
  rw [held, List.length_append, List.length_singleton, List.range_succ, List.filter_append,
    List.filter_congr hlater, hlast, List.filterMap_append,
    filterMap_written?_concat us u fun i hi => List.mem_range.1 (List.mem_of_mem_filter hi),
    List.filterMap_cons, List.filterMap_nil]
  congr 1
  cases u.empties
  · rfl
  · rw [List.filter_eq_nil_iff.2 fun i _ => by simp]
    rfl

theorem handed_concat {answers : List Answer} (h : answers.length = us.length) (answer : Answer) :
    handed (us ++ [u]) (answers ++ [answer]) = handed us answers ++ handed [u] [answer] := by
  rw [handed, List.zip_append h.symm, List.flatMap_append]
  rfl

end

theorem play_eq (us : List Use) : (play us {}).2 = ⟨held us, silenced us⟩ := by
  induction us using List.reverseRecOn with
  | nil => rfl
  | append_singleton us u ih =>
    rw [play_concat, ih, held_concat, silenced_concat, written?_length]
    cases u with
    | emit kind text =>
      simp only [Use.perform, emit, Use.empties, Use.switched?]
      split <;> simp
    | switch on => simp [Use.perform, switch, suppress, Use.empties, Use.switched?]
    | clear => simp [Use.perform, clear, Use.empties, Use.switched?]
    | lines => simp [Use.perform, Use.empties, Use.switched?]
    | drain => simp [Use.perform, drain, clear, Use.empties, Use.switched?]

theorem answer_play {us : List Use} {i : Nat} {u : Use} (h : us[i]? = some u) :
    (play us {}).1[i]? = some (u.perform ⟨held (us.take i), silenced (us.take i)⟩).1 := by
  obtain ⟨hi, hu⟩ := List.getElem?_eq_some_iff.1 h
  have hsplit : us = us.take i ++ u :: us.drop (i + 1) := by
    rw [← hu, ← List.drop_eq_getElem_cons hi, List.take_append_drop]
  have hplay := play_append (us.take i) (u :: us.drop (i + 1)) {}
  rw [← hsplit] at hplay
  have hlength : (play (us.take i) {}).1.length = i := by
    rw [length_play, List.length_take, Nat.min_eq_left (Nat.le_of_lt hi)]
  rw [hplay, List.getElem?_append_right (Nat.le_of_eq hlength), hlength, Nat.sub_self, play_eq]
  rfl

theorem lines_shape (t : Transcript) : ∀ l ∈ t.lines, l ≠ "" ∧ '\n' ∉ l.toList := by
  intro l hl
  obtain ⟨cs, hcs, rfl⟩ := List.mem_map.1 hl
  obtain ⟨hmem, hne⟩ := List.mem_filter.1 hcs
  obtain ⟨piece, hpiece, rfl⟩ := List.mem_map.1 hmem
  have hnewline : '\n' ∉ piece := Text.notMem_of_mem_splitOn hpiece
  refine ⟨by simpa using hne, ?_⟩
  rw [String.toList_ofList]
  exact fun h => hnewline ((Text.prefix_dropReturn piece).subset h)

theorem exists_of_lines_mem {us : List Use} {t : Transcript} {ls : List String}
    (h : .lines ls ∈ (play us t).1) : ∃ t : Transcript, t.lines = ls := by
  induction us generalizing t with
  | nil => cases h
  | cons u us ih =>
    obtain h | h := List.mem_cons.1 h
    · cases u with
      | lines | drain => exact ⟨t, (Answer.lines.inj h).symm⟩
      | _ => cases h
    · exact ih h

theorem play_filter_lines (us : List Use) (t : Transcript) :
    (play (us.filter (· ≠ .lines)) t).2 = (play us t).2 := by
  induction us generalizing t with
  | nil => rfl
  | cons u us ih =>
    by_cases hu : u = .lines
    · subst hu
      exact ih t
    · rw [List.filter_cons_of_pos (by simpa using hu)]
      exact ih _

/-- What was written down is what was handed out, and then what is held. It was handed out in whole lines. -/
theorem exists_flushed {us : List Use} (hclear : .clear ∉ us) (hdrains : DrainsAtLineEnds us) :
    ∃ flushed, written us = flushed ++ held us ∧ Text.EndsLine (Event.joined flushed) ∧
      handed us (play us {}).1 = Event.render flushed := by
  induction us using List.reverseRecOn with
  | nil => exact ⟨[], rfl, by simp [Event.joined, Text.EndsLine], rfl⟩
  | append_singleton us u ih =>
    have hbefore : DrainsAtLineEnds us := fun i hi hdrain => by
      have h := hdrains i (by simp; omega) (by rw [List.getElem?_append_left hi, hdrain])
      rwa [List.take_append_of_le_length (Nat.le_of_lt hi)] at h
    obtain ⟨flushed, hwritten, hends, hhanded⟩ := ih (fun h => hclear (List.mem_append_left _ h)) hbefore
    have hstep : handed (us ++ [u]) (play (us ++ [u]) {}).1 =
        Event.render flushed ++ handed [u] [(u.perform (play us {}).2).1] := by
      rw [play_concat, handed_concat us u (length_play us {}), hhanded]
    rw [hstep, written_concat, held_concat, hwritten]
    cases u with
    | clear => exact absurd (List.mem_append_right us (List.mem_singleton.2 rfl)) hclear
    | drain =>
      have hheld : Text.EndsLine (Event.joined (held us)) := by
        have h := hdrains us.length (by simp) List.getElem?_concat_length
        rwa [List.take_left] at h
      refine ⟨flushed ++ held us, ?_, ?_, ?_⟩
      · simp [written?_length, Use.empties]
      · rw [Event.joined, List.flatMap_append]
        exact hends.append hheld
      · rw [play_eq, Event.render_append_of_endsLine hends]
        simp [handed, Use.perform, drain, Transcript.lines]
    | _ =>
      refine ⟨flushed, ?_, hends, ?_⟩
      · simp [Use.empties]
      · simp [handed, Use.perform]

/-- A transcript loses nothing and makes nothing up. After any uses it holds the texts that were written down while
writing was not suppressed and that were not cleared or handed out since, in order and with their kinds; it answers
with the lines of these, none of which is empty or has a line feed, and with the last word on suppression; to read
the lines changes nothing. If nothing is cleared and lines are handed out only where a line ends, then all lines
together are those of the whole text, however it was cut into events. -/
theorem loses_and_invents_nothing (us : List Use) :
    let answers := (play us {}).1
    let last := (play us {}).2
    last.events = held us ∧ last.suppressed = silenced us ∧
    (∀ (i : Nat) (on : Bool), us[i]? = some (.switch on) → answers[i]? = some (.before (silenced (us.take i)))) ∧
    (∀ i : Nat, us[i]? = some .lines ∨ us[i]? = some .drain →
      answers[i]? = some (.lines (Event.render (held (us.take i))))) ∧
    (play (us.filter (· ≠ .lines)) {}).2 = last ∧
    (∀ ls, ls = last.lines ∨ .lines ls ∈ answers → ∀ l ∈ ls, l ≠ "" ∧ '\n' ∉ l.toList) ∧
    (.clear ∉ us → DrainsAtLineEnds us → ∀ es, Event.joined es = Event.joined (written us) →
      handed us answers ++ last.lines = Event.render es) := by
  intro answers last
  have hlast : last = ⟨held us, silenced us⟩ := play_eq us
  refine ⟨by rw [hlast], by rw [hlast], fun i on h => answer_play h, fun i h => ?_, play_filter_lines us {},
    fun ls h => ?_, fun hclear hdrains es hes => ?_⟩
  · obtain h | h := h <;> exact answer_play h
  · obtain rfl | h := h
    · exact last.lines_shape
    · obtain ⟨t, rfl⟩ := exists_of_lines_mem h
      exact t.lines_shape
  · obtain ⟨flushed, hwritten, hends, hhanded⟩ := exists_flushed hclear hdrains
    calc handed us answers ++ last.lines
        = Event.render flushed ++ Event.render (held us) := by rw [hhanded, hlast]; rfl
      _ = Event.render (written us) := by rw [hwritten, Event.render_append_of_endsLine hends]
      _ = Event.render es := by rw [Event.render, Event.render, hes]

theorem loses_and_invents_nothing_twoPieces :
    let us : List Use := [.emit .plain "one\r\ntw", .emit .error "o\n", .switch true, .emit .info "noise\n",
      .switch false, .drain, .emit .json "", .emit .json "three", .lines]
    .clear ∉ us ∧ DrainsAtLineEnds us ∧ us[4]? = some (.switch false) ∧
      (play us {}).1[4]? = some (.before true) ∧
      handed us (play us {}).1 ++ (play us {}).2.lines = ["one", "two", "three"] := by
  intro us
  have hclear : .clear ∉ us := by decide
  have hdrains : DrainsAtLineEnds us := by decide +kernel
  have hswitch : us[4]? = some (.switch false) := rfl
  obtain ⟨-, -, hbefore, -, -, -, hall⟩ := loses_and_invents_nothing us
  refine ⟨hclear, hdrains, hswitch, ?_, ?_⟩
  · exact hbefore 4 false hswitch
  · have hlines : Event.render [⟨.plain, "one\r\ntwo\nthree"⟩] = ["one", "two", "three"] := by decide +kernel
    rw [← hlines]
    exact hall hclear hdrains _ (by decide +kernel)

end Transcript

end DriveHealth
