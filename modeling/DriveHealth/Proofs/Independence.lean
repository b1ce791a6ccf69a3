import DriveHealth.Proofs.Agreement
import DriveHealth.Proofs.VerdictLedger
set_option autoImplicit false

/-!
What a run writes has no effect on what it does. Two runs that start from the same report and tolerance
send the same commands and end alike, whatever text they find, whether they may write any, and how
talkative they are; and the traces of the commands are all that makes their texts different.
-/

namespace DriveHealth

variable {Cmd Reply σ : Type}

def Event.isTrace (e : Event) : Bool := e.kind = .info && DriveHealth.isTrace e.text

namespace Recorder

/-- What a run leaves as it is. -/
structure SameFrame (r r' : Recorder) : Prop where
  suppressed : r'.transcript.suppressed = r.transcript.suppressed
  debug : r'.debug = r.debug
  seed : r'.seed = r.seed

theorem SameFrame.refl (r : Recorder) : r.SameFrame r := ⟨rfl, rfl, rfl⟩

theorem SameFrame.symm {r r' : Recorder} (h : r.SameFrame r') : r'.SameFrame r :=
  ⟨h.suppressed.symm, h.debug.symm, h.seed.symm⟩

theorem SameFrame.trans {r r' r'' : Recorder} (h : r.SameFrame r') (h' : r'.SameFrame r'') :
    r.SameFrame r'' :=
  ⟨h'.suppressed.trans h.suppressed, h'.debug.trans h.debug, h'.seed.trans h.seed⟩

end Recorder

namespace Act

variable (name : Cmd → String) (trace : Bool)

theorem frame_perform (a : Act Cmd Reply) (r : Recorder) : r.SameFrame (a.perform name trace r) := by
  refine ⟨suppressed_perform name trace a r, ?_, ?_⟩ <;> cases a with
    | sent c reply success => cases trace <;> rfl
    | _ => rfl

theorem frame_performAll (acts : List (Act Cmd Reply)) (r : Recorder) :
    r.SameFrame (performAll name trace acts r) := by
  induction acts generalizing r with
  | nil => exact .refl r
  | cons a acts ih => exact (frame_perform name trace a r).trans (ih _)

theorem events_perform_suppressed (a : Act Cmd Reply) {r : Recorder}
    (h : r.transcript.suppressed = true) :
    (a.perform name trace r).transcript.events = r.transcript.events := by
  cases a with
  | sent c reply success => cases trace <;> simp [perform, Recorder.emit, Transcript.events_emit, h]
  | _ => simp [perform, Recorder.emit, Recorder.write, Transcript.events_emit, h]

theorem events_performAll_suppressed (acts : List (Act Cmd Reply)) {r : Recorder}
    (h : r.transcript.suppressed = true) :
    (performAll name trace acts r).transcript.events = r.transcript.events := by
  induction acts generalizing r with
  | nil => rfl
  | cons a acts ih =>
    have hs : (a.perform name trace r).transcript.suppressed = true := by simp [h]
    exact (ih hs).trans (events_perform_suppressed name trace a h)

/-- What is left of a tolerance after an act. -/
def spent (t : Tolerance) : Act Cmd Reply → Tolerance
  | .forgiven c => (t.spend c).getD t
  | _ => t

theorem tolerance_performAll (acts : List (Act Cmd Reply)) (r : Recorder) :
    (performAll name trace acts r).tolerance = acts.foldl spent r.tolerance := by
  induction acts generalizing r with
  | nil => rfl
  | cons a acts ih =>
    have ha : (a.perform name trace r).tolerance = a.spent r.tolerance := by
      cases a with
      | sent c reply success => cases trace <;> rfl
      | _ => rfl
    rw [performAll, List.foldl_cons, List.foldl_cons, ← ha]
    exact ih _

/-- An act whose text is not taken for a trace. -/
def Untraced : Act Cmd Reply → Prop
  | .said _ text => DriveHealth.isTrace text = false
  | _ => True

def traces : Act Cmd Reply → List Event
  | .sent c _ success => [⟨.info, Procedure.traceLine (name c) success⟩]
  | _ => []

def successes : Act Cmd Reply → List Bool
  | .sent _ _ success => [success]
  | _ => []

theorem isTrace_of_mem_traces {a : Act Cmd Reply} {e : Event} (he : e ∈ a.traces name) :
    e.isTrace = true := by
  cases a with
  | sent c reply success =>
    obtain rfl := List.mem_singleton.1 he
    simp [Event.isTrace, isTrace_traceLine]
  | said kind text => cases he
  | wrote w => cases he
  | forgiven c => cases he
  | refused c => cases he

theorem isTrace_of_mem_events {a : Act Cmd Reply} (h : a.Untraced) {e : Event}
    (he : e ∈ a.events name false) : e.isTrace = false := by
  cases a with
  | said kind text =>
    have ht : isTrace text = false := h
    by_cases hempty : text.isEmpty
    · simp [events, hempty] at he
    · obtain rfl : e = ⟨kind, text⟩ := by simpa [events, hempty] using he
      simp [Event.isTrace, ht]
  | refused c =>
    obtain rfl := List.mem_singleton.1 he
    simp [Event.isTrace, Event.refusal]
  | sent c reply success => cases he
  | wrote w => cases he
  | forgiven c => cases he

theorem events_eq_traces_append (a : Act Cmd Reply) :
    a.events name trace = (if trace then a.traces name else []) ++ a.events name false := by
  cases a <;> cases trace <;> rfl

theorem filter_not_isTrace {a : Act Cmd Reply} (h : a.Untraced) :
    (a.events name trace).filter (fun e => !e.isTrace) = a.events name false := by
  have hrest : (a.events name false).filter (fun e => !e.isTrace) = a.events name false :=
    List.filter_eq_self.2 fun e he => by rw [isTrace_of_mem_events name h he]; rfl
  have htraces : (a.traces name).filter (fun e => !e.isTrace) = [] :=
    List.filter_eq_nil_iff.2 fun e he => by simp [isTrace_of_mem_traces name he]
  rw [events_eq_traces_append, List.filter_append, hrest]
  cases trace with
  | false => rfl
  | true => rw [if_pos rfl, htraces, List.nil_append]

theorem filter_isTrace {a : Act Cmd Reply} (h : a.Untraced) :
    (a.events name trace).filter Event.isTrace = if trace then a.traces name else [] := by
  have hrest : (a.events name false).filter Event.isTrace = [] :=
    List.filter_eq_nil_iff.2 fun e he => by simp [isTrace_of_mem_events name h he]
  have htraces : (a.traces name).filter Event.isTrace = a.traces name :=
    List.filter_eq_self.2 fun e he => isTrace_of_mem_traces name he
  rw [events_eq_traces_append, List.filter_append, hrest, List.append_nil]
  cases trace with
  | false => rfl
  | true => exact htraces

variable {acts : List (Act Cmd Reply)}

theorem filter_not_isTrace_flatMap (h : ∀ a ∈ acts, a.Untraced) :
    (acts.flatMap (events name trace)).filter (fun e => !e.isTrace) =
      acts.flatMap (events name false) := by
  induction acts with
  | nil => rfl
  | cons a acts ih =>
    obtain ⟨ha, hacts⟩ := List.forall_mem_cons.1 h
    rw [List.flatMap_cons, List.flatMap_cons, List.filter_append, filter_not_isTrace name trace ha, ih hacts]

theorem filter_isTrace_flatMap (h : ∀ a ∈ acts, a.Untraced) :
    (acts.flatMap (events name trace)).filter Event.isTrace =
      if trace then acts.flatMap (traces name) else [] := by
  induction acts with
  | nil => cases trace <;> rfl
  | cons a acts ih =>
    obtain ⟨ha, hacts⟩ := List.forall_mem_cons.1 h
    rw [List.flatMap_cons, List.flatMap_cons, List.filter_append, filter_isTrace name trace ha, ih hacts]
    cases trace <;> rfl

/-- There is one trace for each command, in the order of the commands. -/
theorem traces_flatMap (acts : List (Act Cmd Reply)) :
    (acts.flatMap successes).length = (acts.flatMap exchanges).length ∧
      acts.flatMap (traces name) = ((acts.flatMap exchanges).zip (acts.flatMap successes)).map
        fun x => ⟨.info, Procedure.traceLine (name x.1.1) x.2⟩ := by
  induction acts with
  | nil => exact ⟨rfl, rfl⟩
  | cons a acts ih =>
    obtain ⟨hlength, htraces⟩ := ih
    cases a <;> simp [successes, exchanges, traces, hlength, htraces]

end Act

namespace Task

def places : Task → List Place
  | .ata _ => Place.all
  | .scsi _ => []
  | .nvme _ => []

theorem watched_procedure (t : Task) :
    t.procedure.watched (Ledger.monitor t.places) {} fun l _ => l.owed = [] := by
  cases t with
  | ata s => exact Ata.Exam.watched_all s
  | scsi s => exact Scsi.Exam.watched_all s
  | nvme s => exact Nvme.Exam.watched_all s

theorem untraced_acts (link : Link σ) (state : σ) (tol : Tolerance) (t : Task) :
    ∀ a ∈ t.acts link state tol, a.Untraced := by
  have haccepts := (t.watched_procedure.course (t.channel link) state tol).1
  refine haccepts.forall fun q a ha => ?_
  cases a with
  | said kind text => exact ha
  | _ => trivial

/-- What a run does to its recorder apart from the report and the tolerance: it adds some events, none if
it is suppressed, and among them exactly one trace for each command if the protocol is debugged. -/
structure Adds (link : Link σ) (state : σ) (t : Task) (r : Recorder) (added : List Event) : Prop where
  events : (t.runLogged link state r).recorder.transcript.events = r.transcript.events ++ added
  frame : r.SameFrame (t.runLogged link state r).recorder
  suppressed : r.transcript.suppressed = true → added = []
  untraced : t.traced r.debug = false → ∀ e ∈ added, e.isTrace = false
  traced : r.transcript.suppressed = false → t.traced r.debug = true →
    ∃ successes : List Bool, successes.length = (t.runLogged link state r).channel.2.length ∧
      added.filter Event.isTrace = ((t.runLogged link state r).channel.2.zip successes).map
        fun x => ⟨.info, Procedure.traceLine (t.commandName x.1.1) x.2⟩

def added (link : Link σ) (state : σ) (t : Task) (r : Recorder) : List Event :=
  if r.transcript.suppressed then []
  else (t.acts link state r.tolerance).flatMap (Act.events t.commandName (t.traced r.debug))

theorem adds_added (link : Link σ) (state : σ) (t : Task) (r : Recorder) :
    t.Adds link state r (t.added link state r) := by
  have huntraced := t.untraced_acts link state r.tolerance
  have hrecorder := t.recorder_runLogged link state r
  cases hs : r.transcript.suppressed with
  | true =>
    have hnone : t.added link state r = [] := if_pos hs
    refine ⟨?_, ?_, fun _ => hnone, by simp [hnone], by simp [hs]⟩
    · rw [hrecorder, Act.events_performAll_suppressed _ _ _ hs, hnone, List.append_nil]
    · rw [hrecorder]
      exact Act.frame_performAll ..
  | false =>
    have hadded : t.added link state r =
        (t.acts link state r.tolerance).flatMap (Act.events t.commandName (t.traced r.debug)) :=
      if_neg (by simp [hs])
    have htraces := Act.filter_isTrace_flatMap t.commandName (t.traced r.debug) huntraced
    rw [← hadded] at htraces
    refine ⟨?_, ?_, by simp [hs], fun htraced e he => ?_, fun _ htraced => ?_⟩
    · rw [hrecorder, Act.events_performAll _ _ _ hs, hadded]
    · rw [hrecorder]
      exact Act.frame_performAll ..
    · rw [htraced] at htraces
      cases ht : e.isTrace with
      | false => rfl
      | true => simpa [htraces] using List.mem_filter.2 ⟨he, ht⟩
    · rw [htraced, if_pos rfl] at htraces
      obtain ⟨hlength, hzip⟩ := Act.traces_flatMap t.commandName (t.acts link state r.tolerance)
      rw [t.log_runLogged]
      exact ⟨_, hlength, htraces.trans hzip⟩

/-- Two runs that find the same report and tolerance do the same, and what they write differs only by
the traces of the commands. -/
theorem output_has_no_effect (link : Link σ) (t : Task) (state : σ) {r₁ r₂ : Recorder}
    (report : r₁.report = r₂.report) (tolerance : r₁.tolerance = r₂.tolerance) :
    let run₁ := t.runLogged link state r₁
    let run₂ := t.runLogged link state r₂
    (run₁.result = run₂.result ∧ run₁.channel = run₂.channel ∧
      run₁.recorder.report = run₂.recorder.report ∧ run₁.recorder.tolerance = run₂.recorder.tolerance) ∧
    ∃ es₁ es₂, t.Adds link state r₁ es₁ ∧ t.Adds link state r₂ es₂ ∧
      (r₁.transcript.suppressed = false → r₂.transcript.suppressed = false →
        es₁.filter (fun e => !e.isTrace) = es₂.filter (fun e => !e.isTrace) ∧
        (t.traced r₁.debug = false → es₁ = es₂.filter fun e => !e.isTrace)) := by
  intro run₁ run₂
  have hrun₁ : run₁ = _ := Procedure.run_eq_course (t.channel link).logged t.commandName
    (t.traced r₁.debug) t.procedure (state, []) r₁
  have hrun₂ : run₂ = _ := Procedure.run_eq_course (t.channel link).logged t.commandName
    (t.traced r₂.debug) t.procedure (state, []) r₂
  rw [← tolerance] at hrun₂
  refine ⟨⟨?_, ?_, ?_, ?_⟩, _, _, t.adds_added link state r₁, t.adds_added link state r₂,
    fun shown₁ shown₂ => ?_⟩
  · rw [hrun₁, hrun₂]
  · rw [hrun₁, hrun₂]
  · rw [hrun₁, hrun₂, Act.report_performAll, Act.report_performAll, report]
  · rw [hrun₁, hrun₂, Act.tolerance_performAll, Act.tolerance_performAll, tolerance]
  · have huntraced := t.untraced_acts link state r₁.tolerance
    have hnot (trace : Bool) := Act.filter_not_isTrace_flatMap t.commandName trace huntraced
    simp only [added, shown₁, shown₂, ← tolerance, Bool.false_eq_true, if_false]
    refine ⟨(hnot _).trans (hnot _).symm, fun htraced => ?_⟩
    rw [hnot, htraced]

theorem output_has_no_effect_silent :
    let quiet := (Recorder.start ⟨9, false⟩ {}).suppress true
    let talkative := Recorder.start ⟨9, false⟩ ⟨1, 1, 1⟩
    let run₁ := (Task.ata { status := true }).runLogged .silent () quiet
    let run₂ := (Task.ata { status := true }).runLogged .silent () talkative
    run₁.channel.2.map (·.1) = [.identifyDevice, .smartReturnStatus] ∧ run₁.channel = run₂.channel := by
  have h := @output_has_no_effect Unit .silent (.ata { status := true }) ()
    ((Recorder.start ⟨9, false⟩ {}).suppress true) (Recorder.start ⟨9, false⟩ ⟨1, 1, 1⟩) rfl rfl
  exact ⟨rfl, h.1.2.1⟩

end Task

end DriveHealth
