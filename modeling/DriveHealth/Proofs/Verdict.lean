import DriveHealth.Linux.Backend
import DriveHealth.Proofs.Independence
set_option autoImplicit false

/-!
The health verdict in the report of a call. Every protocol that a drive speaks may print a verdict, and
each one replaces the one before it: the report holds the verdict that was printed last.
-/

namespace DriveHealth

variable {σ δ : Type}

namespace Task

/-- Runs tasks one after the other on one recorder. -/
def runAll (link : Link σ) : List Task → σ → Recorder → Recorder × σ
  | [], s, r => (r, s)
  | t :: ts, s, r =>
    let out := t.run link s r
    runAll link ts out.channel out.recorder

end Task

/-- A backend that reaches its devices by links runs their tasks one after the other. -/
theorem Backend.examineAll_eq_runAll {b : Backend σ δ} {link : δ → Link σ}
    (h : ∀ t d r s, b.examine t d r s =
      (d, (t.run (link d) s r).recorder, (t.run (link d) s r).channel))
    (ts : List Task) (d : δ) (r : Recorder) (s : σ) :
    b.examineAll ts d r s = (d, Task.runAll (link d) ts s r) := by
  induction ts generalizing r s with
  | nil => rfl
  | cons t ts ih =>
    rw [Backend.examineAll, h]
    exact ih _ _

theorem Linux.examineAll_eq_runAll (host : Linux.Host σ) (ts : List Task) (d : Linux.Device)
    (r : Recorder) (s : σ) :
    (Linux.backend host).examineAll ts d r s = (d, Task.runAll (d.link host) ts s r) :=
  Backend.examineAll_eq_runAll (fun _ _ _ _ => rfl) ts d r s

/-- The verdicts in a text, in order. -/
def Event.verdicts (es : List Event) : List Bool := es.filterMap fun e => verdict? e.text

theorem Event.verdicts_append (es es' : List Event) :
    Event.verdicts (es ++ es') = Event.verdicts es ++ Event.verdicts es' := List.filterMap_append

theorem Event.verdicts_eq (ps : List Place) (es : List Event) :
    Event.verdicts es = (es.flatMap fun e => notices ps e.text).filterMap Notice.verdict? := by
  induction es with
  | nil => rfl
  | cons e es ih =>
    have he : (notices ps e.text).filterMap Notice.verdict? = (verdict? e.text).toList := by
      rw [notices, List.filterMap_append, Notice.filterMap_verdict?_places,
        Notice.filterMap_verdict?_verdicts, List.nil_append]
    rw [List.flatMap_cons, List.filterMap_append, he, ← ih, verdicts, List.filterMap_cons]
    cases verdict? e.text <;> rfl

theorem Event.verdicts_flatMap_events {Cmd Reply : Type} (ps : List Place) (name : Cmd → String) (trace : Bool)
    (acts : List (Act Cmd Reply)) : Event.verdicts (acts.flatMap (Act.events name trace)) =
      (acts.flatMap (Act.announced ps)).filterMap Notice.verdict? := by
  rw [Event.verdicts_eq ps, Act.notices_flatMap_events]

/-- After a task the report holds the last verdict that it printed, or what it held before. -/
theorem Task.passed?_run (link : Link σ) (t : Task) (s : σ) (r : Recorder) :
    let printed := Event.verdicts
      ((t.acts link s r.tolerance).flatMap (Act.events t.commandName (t.traced r.debug)))
    (t.run link s r).recorder.report.passed? = (printed.getLast?.map Datum.bool).or r.report.passed? := by
  obtain ⟨haccepts, howed⟩ :=
    Ledger.owed_final t.watched_procedure (t.channel link) s r.tolerance
  have hacts : (t.procedure.course (t.channel link) s r.tolerance).acts = t.acts link s r.tolerance := rfl
  rw [hacts] at haccepts howed
  -- what is owed at the end is no verdict
  have hverdicts : Event.verdicts
        ((t.acts link s r.tolerance).flatMap (Act.events t.commandName (t.traced r.debug))) =
      ((t.acts link s r.tolerance).flatMap (Act.delivered t.places)).filterMap Notice.verdict? := by
    have hledger := Ledger.announced_eq haccepts
    rw [List.nil_append] at hledger
    rw [Event.verdicts_flatMap_events t.places, hledger, List.filterMap_append]
    obtain hnil | ⟨hgp, -⟩ := howed
    · simp [hnil]
    · simp [hgp, Notice.verdict?]
  simp only []
  rw [Task.run_eq_course, Act.report_performAll, Ledger.passed?_foldl haccepts, ← hverdicts]

/-- The recorder of a call whose report holds the last verdict of its text. -/
structure Recorder.Judged (r : Recorder) : Prop where
  shown : r.transcript.suppressed = false
  passed : r.report.passed? = (Event.verdicts r.transcript.events).getLast?.map Datum.bool

theorem Recorder.Judged.start {r : Recorder} (shown : r.transcript.suppressed = false)
    (blank : r.transcript.events = []) (unwritten : r.report = {}) : r.Judged :=
  ⟨shown, by rw [blank, unwritten]; rfl⟩

theorem Task.judged_run (link : Link σ) (t : Task) (s : σ) {r : Recorder} (h : r.Judged) :
    (t.run link s r).recorder.Judged := by
  have hrecorder : (t.run link s r).recorder =
      Act.performAll t.commandName (t.traced r.debug) (t.acts link s r.tolerance) r := by
    rw [Task.run_eq_course]
  refine ⟨?_, ?_⟩
  · rw [hrecorder, (Act.frame_performAll _ _ _ r).suppressed]
    exact h.shown
  · rw [t.passed?_run link s r, h.passed, hrecorder, Act.events_performAll _ _ _ h.shown,
      Event.verdicts_append, List.getLast?_append, Option.map_or]

theorem Task.judged_runAll (link : Link σ) (ts : List Task) (s : σ) {r : Recorder} (h : r.Judged) :
    (Task.runAll link ts s r).1.Judged := by
  induction ts generalizing s r with
  | nil => exact h
  | cons t ts ih => exact ih _ (t.judged_run link s h)

/-- In a call that begins with no text and no report, the report holds the verdict that was printed last,
and none if none was printed. -/
theorem Plan.report_holds_last_verdict (link : Link σ) (p : Plan) (spoken : ProtocolSet) (s : σ)
    {r : Recorder} (shown : r.transcript.suppressed = false) (blank : r.transcript.events = [])
    (unwritten : r.report = {}) :
    let last := (Task.runAll link (p.tasks spoken) s r).1
    last.report.passed? = (Event.verdicts last.transcript.events).getLast?.map Datum.bool := by
  have h : r.Judged := .start shown blank unwritten
  exact (Task.judged_runAll link (p.tasks spoken) s h).passed

theorem Linux.verdict_carryOut (host : Linux.Host σ) (p : Plan) (d : Linux.Device) (s : σ) {r : Recorder}
    (shown : r.transcript.suppressed = false) (blank : r.transcript.events = []) (unwritten : r.report = {}) :
    let last := ((Linux.backend host).carryOut p d r s).1
    last.report.passed? = (Event.verdicts last.transcript.events).getLast?.map Datum.bool := by
  have h : r.Judged := .start shown blank unwritten
  simp only [Backend.carryOut, Linux.examineAll_eq_runAll]
  exact (Task.judged_runAll (d.link host) _ s h).passed

/-- A drive that is found failing as an ATA drive, and good as a SCSI device. -/
def Link.twoMinds : Link Unit where
  ata := ⟨fun t u =>
    (if t = .smartReturnStatus then .ok { lbaMid := 0xf4, lbaHigh := 0x2c }
      else .ok { data := List.replicate 512 0 }, u)⟩
  scsi := ⟨fun c u =>
    (.ok (match c.block with
      | .logSense _ _ => 0x2f :: List.replicate 11 0
      | _ => List.replicate 36 0), u)⟩
  nvme := ⟨fun _ u => (.error (.io "no answer"), u)⟩

theorem Plan.report_holds_last_verdict_twoMinds : ∃ p, Query.health.plan {} = .ok p ∧
    let last := (Task.runAll .twoMinds (p.tasks ⟨true, true, false⟩) () (Recorder.start ⟨0, false⟩ {})).1
    last.report.passed? = (Event.verdicts last.transcript.events).getLast?.map Datum.bool :=
  ⟨_, rfl, Plan.report_holds_last_verdict .twoMinds _ ⟨true, true, false⟩ () rfl rfl rfl⟩

/-- The failed verdict of such a drive is printed, and yet the report calls it good. -/
theorem Plan.failed_verdict_replaced_twoMinds : ∃ p, Query.health.plan {} = .ok p ∧
    let last := (Task.runAll .twoMinds (p.tasks ⟨true, true, false⟩) () (Recorder.start ⟨0, false⟩ {})).1
    (∃ e ∈ last.transcript.events, verdict? e.text = some false) ∧
      last.report.passed? = some (.bool true) := by
  refine ⟨_, rfl, ?_⟩
  intro last
  have hverdicts : Event.verdicts last.transcript.events = [false, true] := by decide +kernel
  refine ⟨?_, ?_⟩
  · have hmem : false ∈ Event.verdicts last.transcript.events := by simp [hverdicts]
    exact List.mem_filterMap.1 hmem
  · have h : last.Judged := Task.judged_runAll _ _ _ ⟨rfl, rfl⟩
    rw [h.passed, hverdicts]
    rfl

end DriveHealth
