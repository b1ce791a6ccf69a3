import DriveHealth.Discovery
import DriveHealth.Proofs.Conduct
import DriveHealth.Proofs.Independence
set_option autoImplicit false

namespace DriveHealth

namespace Text

/-- A text after which a new line begins. -/
def EndsLine (cs : List Char) : Prop := ∀ c ∈ cs.getLast?, c = '\n'

instance (cs : List Char) : Decidable (EndsLine cs) :=
  decidable_of_iff (cs.getLast?.all (· == '\n') = true) (by simp [EndsLine, Option.all_eq_true])

theorem EndsLine.append {cs ds : List Char} (hc : EndsLine cs) (hd : EndsLine ds) : EndsLine (cs ++ ds) := by
  rw [EndsLine, List.getLast?_append]
  cases hds : ds.getLast? with
  | none => exact hc
  | some d => exact fun c h => hd c (hds.trans h)

theorem filledLines_append_newline (cs ds : List Char) :
    filledLines (cs ++ '\n' :: ds) = filledLines cs ++ filledLines ds := by
  simp only [filledLines, pieces, List.splitOn_append_cons_self, List.map_append, List.filter_append]

theorem filledLines_append {cs : List Char} (h : EndsLine cs) (ds : List Char) :
    filledLines (cs ++ ds) = filledLines cs ++ filledLines ds := by
  cases hc : cs.getLast? with
  | none =>
    obtain rfl := List.getLast?_eq_none_iff.1 hc
    rfl
  | some c =>
    obtain ⟨front, rfl⟩ := List.getLast?_eq_some_iff.1 hc
    obtain rfl : c = '\n' := h c hc
    have hends : filledLines (front ++ ['\n']) = filledLines front := by
      have hnone : filledLines [] = [] := rfl
      rw [filledLines_append_newline, hnone, List.append_nil]
    rw [hends, List.append_assoc, List.singleton_append, filledLines_append_newline]

end Text

namespace Event

def Whole (es : List Event) : Prop := ∀ e ∈ es, EndsLine e.text

theorem Whole.joined {es : List Event} (h : Whole es) : Text.EndsLine (joined es) := by
  cases he : es.getLast? with
  | none =>
    obtain rfl := List.getLast?_eq_none_iff.1 he
    simp [Event.joined, Text.EndsLine]
  | some e =>
    obtain ⟨front, rfl⟩ := List.getLast?_eq_some_iff.1 he
    have hlast : e.text.toList.getLast? = some '\n' := h e (by simp)
    simp [Event.joined, Text.EndsLine, List.getLast?_append, hlast]

theorem render_append_of_endsLine {es : List Event} (h : Text.EndsLine (joined es)) (es' : List Event) :
    render (es ++ es') = render es ++ render es' := by
  have hjoined : joined (es ++ es') = joined es ++ joined es' := List.flatMap_append
  rw [render, hjoined, Text.filledLines_append h, List.map_append]
  rfl

theorem render_append {es : List Event} (h : Whole es) (es' : List Event) :
    render (es ++ es') = render es ++ render es' := render_append_of_endsLine h.joined es'

end Event

namespace Act

variable {Cmd Reply : Type}

/-- An act that keeps to whole lines leaves whole lines in the text, and so do traces and refusals. -/
theorem whole_events {ok : Cmd → Prop} {a : Act Cmd Reply} (h : a.Orderly ok) (name : Cmd → String)
    (trace : Bool) : Event.Whole (a.events name trace) := by
  intro e he
  cases a with
  | said kind text =>
    obtain rfl : e = ⟨kind, text⟩ := by
      by_cases ht : text.isEmpty <;> simp [events, ht] at he
      exact he
    exact h.1
  | sent c reply success =>
    obtain rfl : e = ⟨.info, Procedure.traceLine (name c) success⟩ := by
      cases trace <;> simp [events] at he
      exact he
    exact endsLine_line _
  | refused c =>
    obtain rfl := List.mem_singleton.1 he
    cases c <;> rfl
  | wrote w => cases he
  | forgiven c => cases he

end Act

namespace Transcript

/-- What was added to a text since then is whole lines. -/
def GrowsByLines (before after : Transcript) : Prop :=
  ∃ added, after.events = before.events ++ added ∧ Event.Whole added

theorem GrowsByLines.refl (t : Transcript) : t.GrowsByLines t := ⟨[], by simp, by simp [Event.Whole]⟩

theorem GrowsByLines.trans {t t' t'' : Transcript} (h : t.GrowsByLines t') (h' : t'.GrowsByLines t'') :
    t.GrowsByLines t'' := by
  obtain ⟨es, hes, hwhole⟩ := h
  obtain ⟨es', hes', hwhole'⟩ := h'
  refine ⟨es ++ es', by rw [hes', hes, List.append_assoc], fun e he => ?_⟩
  exact (List.mem_append.1 he).elim (hwhole e) (hwhole' e)

theorem growsByLines_emit (t : Transcript) (kind : EventKind) {text : String} (h : EndsLine text) :
    t.GrowsByLines (t.emit kind text) := by
  refine ⟨_, events_emit kind text t, fun e he => ?_⟩
  split at he
  · cases he
  · obtain rfl := List.mem_singleton.1 he
    exact h

end Transcript

namespace Task

variable {σ : Type} (link : Link σ) (state : σ) (r : Recorder) (t : Task)

theorem whole_added : Event.Whole (t.added link state r) := by
  intro e he
  simp only [added] at he
  split at he
  · cases he
  · obtain ⟨a, ha, he⟩ := List.mem_flatMap.1 he
    exact Act.whole_events (t.orderly_acts link state r.tolerance a ha) _ _ e he

theorem events_run : (t.run link state r).recorder.transcript.events =
    r.transcript.events ++ t.added link state r := by
  rw [t.run_eq_runLogged]
  exact (t.adds_added link state r).events

theorem frame_run : r.SameFrame (t.run link state r).recorder := by
  rw [t.run_eq_runLogged]
  exact (t.adds_added link state r).frame

theorem run_congr {r r' : Recorder} (frame : r.SameFrame r') (tolerance : r'.tolerance = r.tolerance) :
    (t.run link state r').channel = (t.run link state r).channel ∧
      (t.run link state r).recorder.SameFrame (t.run link state r').recorder ∧
      (t.run link state r').recorder.tolerance = (t.run link state r).recorder.tolerance := by
  refine ⟨?_, ((t.frame_run link state r).symm.trans frame).trans (t.frame_run link state r'), ?_⟩
  · rw [run_eq_course, run_eq_course, tolerance]
  · rw [run_eq_course, run_eq_course, Act.tolerance_performAll, Act.tolerance_performAll, tolerance]

end Task

namespace DeviceFacts

theorem endsLine_failureLine (f : DeviceFacts) : EndsLine f.failureLine := DriveHealth.endsLine_line _

theorem endsLine_line (f : DeviceFacts) (annotations : List String) : EndsLine (f.line annotations) := by
  unfold line
  split
  · exact endsLine_append _ (by simp)
  · exact DriveHealth.endsLine_line _

end DeviceFacts

namespace Backend

variable {σ δ : Type} (b : Backend σ δ)

theorem growsByLines_listDevice (mode : ScanMode) (annotations : List String) (index : Nat) (d : δ)
    (r : Recorder) (s : σ) :
    r.transcript.GrowsByLines (b.listDevice mode annotations index d r s).1.transcript := by
  cases mode with
  | plain => exact r.transcript.growsByLines_emit .plain (DeviceFacts.endsLine_line _ annotations)
  | opening =>
    simp only [listDevice]
    split
    · exact r.transcript.growsByLines_emit .plain (DeviceFacts.endsLine_failureLine _)
    · exact r.transcript.growsByLines_emit .plain (DeviceFacts.endsLine_line _ annotations)

theorem growsByLines_listDevices (mode : ScanMode) (annotations : List String) (index : Nat) (ds : List δ)
    (r : Recorder) (s : σ) :
    r.transcript.GrowsByLines (b.listDevices mode annotations index ds r s).1.transcript := by
  induction ds generalizing index r s with
  | nil => exact .refl _
  | cons d ds ih => exact (b.growsByLines_listDevice mode annotations index d r s).trans (ih _ _ _)

/-- Apart from what the backend writes while it looks around, a scan writes whole lines. -/
theorem growsByLines_discover (types : List String) (request : ScanRequest) (mode : ScanMode)
    (r : Recorder) (s : σ) :
    (b.scan types request.pattern (r.suppress !r.debug.any) s).2.1.transcript.GrowsByLines
      (b.discover types request mode r s).1.transcript := by
  generalize hfound : b.scan types request.pattern (r.suppress !r.debug.any) s = outcome
  obtain ⟨found, kept, s'⟩ := outcome
  simp only [discover, hfound]
  cases found with
  | error e => exact (kept.suppress false).transcript.growsByLines_emit .plain (endsLine_line _)
  | ok ds => exact b.growsByLines_listDevices mode request.annotations 0 ds (kept.suppress false) s'

end Backend

/-- One turn of a sequence on one recorder: a drive is examined, or the lines so far are handed out. -/
inductive Turn (σ : Type) where
  | examine (link : Link σ) (t : Task)
  | drain

namespace Turn

variable {σ : Type}

def isExamination : Turn σ → Bool
  | .examine _ _ => true
  | .drain => false

/-- The lines that were handed out, the recorder and the drives after some turns. -/
def play : List (Turn σ) → σ → Recorder → List String × Recorder × σ
  | [], s, r => ([], r, s)
  | .examine link t :: turns, s, r =>
    let outcome := t.run link s r
    play turns outcome.channel outcome.recorder
  | .drain :: turns, s, r =>
    let (lines, r) := r.drain
    let (more, r, s) := play turns s r
    (lines ++ more, r, s)

/-- The events that each examination appended. -/
def appended : List (Turn σ) → σ → Recorder → List (List Event)
  | [], _, _ => []
  | .examine link t :: turns, s, r =>
    let outcome := t.run link s r
    outcome.recorder.transcript.events.drop r.transcript.events.length ::
      appended turns outcome.channel outcome.recorder
  | .drain :: turns, s, r => appended turns s r.drain.2

/-- All lines of a sequence: those that were handed out, and those that are left. -/
def allLines (turns : List (Turn σ)) (s : σ) (r : Recorder) : List String :=
  (play turns s r).1 ++ (play turns s r).2.1.transcript.lines

theorem appended_examine (link : Link σ) (t : Task) (turns : List (Turn σ)) (s : σ) (r : Recorder) :
    appended (.examine link t :: turns) s r = t.added link s r ::
      appended turns (t.run link s r).channel (t.run link s r).recorder := by
  simp [appended, t.events_run]

/-- Every examination begins on a new line, whether lines were handed out before it or not. -/
theorem allLines_eq (turns : List (Turn σ)) (s : σ) {r : Recorder} (h : Event.Whole r.transcript.events) :
    allLines turns s r = Event.render r.transcript.events ++ (appended turns s r).flatMap Event.render := by
  induction turns generalizing s r with
  | nil => simp [allLines, play, appended, Transcript.lines]
  | cons turn turns ih =>
    cases turn with
    | examine link t =>
      have hwhole : Event.Whole (t.run link s r).recorder.transcript.events := by
        rw [t.events_run]
        exact fun e he => (List.mem_append.1 he).elim (h e) (t.whole_added link s r e)
      have hlines : allLines (.examine link t :: turns) s r =
          allLines turns (t.run link s r).channel (t.run link s r).recorder := rfl
      rw [hlines, ih _ hwhole, t.events_run, Event.render_append h, appended_examine, List.flatMap_cons,
        List.append_assoc]
    | drain =>
      have hlines : allLines (.drain :: turns) s r =
          Event.render r.transcript.events ++ allLines turns s r.drain.2 := List.append_assoc ..
      have hnone : Event.render r.drain.2.transcript.events = [] := rfl
      rw [hlines, ih s (by simp [Event.Whole, Recorder.drain]), hnone, List.nil_append, appended]

theorem appended_filter (turns : List (Turn σ)) (s : σ) {r r' : Recorder} (frame : r.SameFrame r')
    (tolerance : r'.tolerance = r.tolerance) :
    appended (turns.filter isExamination) s r = appended turns s r' := by
  induction turns generalizing s r r' with
  | nil => rfl
  | cons turn turns ih =>
    cases turn with
    | examine link t =>
      have hadded : t.added link s r' = t.added link s r := by
        simp only [Task.added, frame.suppressed, frame.debug, tolerance]
      obtain ⟨hchannel, hframe, htolerance⟩ := t.run_congr link s frame tolerance
      rw [List.filter_cons_of_pos rfl, appended_examine, appended_examine, hadded, hchannel,
        ih _ hframe htolerance]
    | drain => exact ih s ⟨frame.suppressed, frame.debug, frame.seed⟩ tolerance

theorem handed_filter (turns : List (Turn σ)) (s : σ) (r : Recorder) :
    (play (turns.filter isExamination) s r).1 = [] := by
  induction turns generalizing s r with
  | nil => rfl
  | cons turn turns ih =>
    cases turn with
    | examine link t => exact ih _ _
    | drain => exact ih s r

end Turn

variable {σ τ δ : Type}

/-- Whatever is asked for and whatever the drives answer, examinations and scans append whole lines. So the
lines of a sequence of examinations are those of each of them in order, and it does not matter when the lines
are handed out. -/
theorem examinations_append_whole_lines :
    (∀ (link : Link σ) (t : Task) (s : σ) (r : Recorder),
      r.transcript.GrowsByLines (t.run link s r).recorder.transcript) ∧
    (∀ (b : Backend τ δ) (types : List String) (request : ScanRequest) (mode : ScanMode) (s : τ)
        (r : Recorder),
      let kept := (b.scan types request.pattern (r.suppress !r.debug.any) s).2.1
      kept.transcript.GrowsByLines (b.discover types request mode r s).1.transcript) ∧
    ∀ (turns : List (Turn σ)) (s : σ) (r : Recorder), r.transcript.events = [] →
      let examinations := turns.filter Turn.isExamination
      let undrained := (Turn.play examinations s r).2.1
      let (handed, last, _) := Turn.play turns s r
      undrained.transcript.lines = (Turn.appended examinations s r).flatMap Event.render ∧
        handed ++ last.transcript.lines = undrained.transcript.lines := by
  refine ⟨fun link t s r => ⟨_, t.events_run link s r, t.whole_added link s r⟩,
    fun b types request mode s r => b.growsByLines_discover types request mode r s,
    fun turns s r blank => ?_⟩
  have hwhole : Event.Whole r.transcript.events := by simp [blank, Event.Whole]
  have hlines (turns : List (Turn σ)) :
      Turn.allLines turns s r = (Turn.appended turns s r).flatMap Event.render := by
    have hnone : Event.render r.transcript.events = [] := by rw [blank]; rfl
    rw [Turn.allLines_eq turns s hwhole, hnone, List.nil_append]
  have hundrained : Turn.allLines (turns.filter Turn.isExamination) s r =
      (Turn.play (turns.filter Turn.isExamination) s r).2.1.transcript.lines := by
    rw [Turn.allLines, Turn.handed_filter, List.nil_append]
  refine ⟨hundrained.symm.trans (hlines _), ?_⟩
  calc Turn.allLines turns s r
      = (Turn.appended turns s r).flatMap Event.render := hlines turns
    _ = (Turn.appended (turns.filter Turn.isExamination) s r).flatMap Event.render := by
      rw [Turn.appended_filter turns s (.refl r) rfl]
    _ = _ := (hlines _).symm.trans hundrained

theorem examinations_append_whole_lines_silent :
    let turns : List (Turn Unit) :=
      [.examine .silent (.ata { status := true }), .drain, .examine .silent (.scsi { status := true })]
    let r := Recorder.start ⟨9, false⟩ {}
    let (handed, last, _) := Turn.play turns () r
    r.transcript.events = [] ∧
      handed = ["Read Device Identity failed: I/O Error: no answer",
        "=== START OF READ SMART DATA SECTION ===",
        "SMART Status command failed: I/O Error: no answer"] ∧
      handed ++ last.transcript.lines =
        (Turn.play (turns.filter Turn.isExamination) () r).2.1.transcript.lines := by
  intro turns r
  have h := (@examinations_append_whole_lines Unit Unit Unit).2.2 turns () r rfl
  exact ⟨rfl, by decide +kernel, h.2⟩

end DriveHealth
