import DriveHealth.Examination
set_option autoImplicit false

/-!
Courses: what a procedure does on a drive, act by act, and how it ends. The tolerance alone decides how
far a course goes; a recorder only takes down its acts, so that a run is its course written out.
-/

namespace DriveHealth

/-- At least as tolerant: no smaller budget, and conservative only together. -/
instance : LE Tolerance where
  le t u := t.permissive ≤ u.permissive ∧ (u.conservative = true → t.conservative = true)

theorem Tolerance.le_refl (t : Tolerance) : t ≤ t := ⟨Nat.le_refl _, id⟩

/-- What one tolerance forgives, a greater one forgives too, and stays greater. -/
theorem Tolerance.spend_mono {t u t' : Tolerance} {c : FailureClass} (h : t ≤ u)
    (ht : t.spend c = some t') : ∃ u', u.spend c = some u' ∧ t' ≤ u' := by
  obtain ⟨hp, hc⟩ := h
  cases c with
  | optional =>
    have hu : u.conservative ≠ true := fun hu => by simp [spend, hc hu] at ht
    have : t = t' := by
      cases htc : t.conservative <;> simp [spend, htc] at ht
      exact ht
    subst this
    exact ⟨u, by simp [spend, hu], hp, hc⟩
  | mandatory =>
    have h0 : t.permissive ≠ 0 := fun h0 => by simp [spend, h0] at ht
    simp only [spend, h0, if_false, Option.some.injEq] at ht
    subst ht
    exact ⟨{ u with permissive := u.permissive - 1 }, by simp [spend]; omega, by simp; omega, hc⟩

inductive Act (Cmd Reply : Type) where
  | said (kind : EventKind) (text : String)
  | wrote (w : Report.Write)
  | sent (c : Cmd) (reply : Except Fault Reply) (success : Bool)
  | forgiven (c : FailureClass)
  /-- The last act of a procedure that is not allowed to go on. -/
  | refused (c : FailureClass)

/-- The acts of a procedure in order, its result unless it was refused, and the drive afterwards. -/
structure Course (Cmd Reply α σ : Type) where
  acts : List (Act Cmd Reply)
  result : Option α
  channel : σ

/-- The channel, which now also writes down every command with its reply. -/
def Channel.logged {Cmd Reply σ : Type} (ch : Channel Cmd Reply σ) :
    Channel Cmd Reply (σ × List (Cmd × Except Fault Reply)) where
  send c s := ((ch.send c s.1).1, (ch.send c s.1).2, s.2 ++ [(c, (ch.send c s.1).1)])

@[simp] theorem Channel.send_logged {Cmd Reply σ : Type} (ch : Channel Cmd Reply σ) (c : Cmd) (s : σ)
    (l : List (Cmd × Except Fault Reply)) :
    ch.logged.send c (s, l) = ((ch.send c s).1, (ch.send c s).2, l ++ [(c, (ch.send c s).1)]) := rfl

def Event.refusal (c : FailureClass) : Event := ⟨.error, c.refusal⟩

def Event.IsRefusal (e : Event) : Prop := ∃ c, e = Event.refusal c

variable {Cmd Reply α β σ : Type}

def Course.after (a : Act Cmd Reply) (k : Course Cmd Reply α σ) : Course Cmd Reply α σ :=
  { k with acts := a :: k.acts }

@[simp] theorem Course.acts_after (a : Act Cmd Reply) (k : Course Cmd Reply α σ) :
    (k.after a).acts = a :: k.acts := rfl

@[simp] theorem Course.result_after (a : Act Cmd Reply) (k : Course Cmd Reply α σ) :
    (k.after a).result = k.result := rfl

@[simp] theorem Course.channel_after (a : Act Cmd Reply) (k : Course Cmd Reply α σ) :
    (k.after a).channel = k.channel := rfl

structure Course.Whole (k : Course Cmd Reply α σ) : Prop where
  finished : k.result.isSome
  unrefused : ∀ c, .refused c ∉ k.acts

structure Course.CutBy (k : Course Cmd Reply α σ) (before : List (Act Cmd Reply)) (c : FailureClass) :
    Prop where
  unfinished : k.result = none
  acts_eq : k.acts = before ++ [.refused c]
  unrefused : ∀ c', .refused c' ∉ before

theorem Course.Whole.after {k : Course Cmd Reply α σ} (h : k.Whole) {a : Act Cmd Reply}
    (ha : ∀ c, a ≠ .refused c) : (k.after a).Whole :=
  ⟨h.finished, fun c => by simpa [Ne.symm (ha c)] using h.unrefused c⟩

theorem Course.CutBy.after {k : Course Cmd Reply α σ} {before : List (Act Cmd Reply)} {c : FailureClass}
    (h : k.CutBy before c) {a : Act Cmd Reply} (ha : ∀ c, a ≠ .refused c) :
    (k.after a).CutBy (a :: before) c :=
  ⟨h.unfinished, by simp [h.acts_eq], fun c' => by simpa [Ne.symm (ha c')] using h.unrefused c'⟩

namespace Procedure

theorem traceLine_isEmpty (name : String) (success : Bool) :
    (traceLine name success).isEmpty = false := by
  have h (s : String) : (s ++ "\n").isEmpty = false := by simp
  exact h _

def succeeds (accepts : Reply → Bool) : Except Fault Reply → Bool
  | .ok x => accepts x
  | .error _ => false

def course (ch : Channel Cmd Reply σ) :
    Procedure Cmd Reply α → σ → Tolerance → Course Cmd Reply α σ
  | .done a, s, _ => ⟨[], some a, s⟩
  | .say kind text next, s, t => (course ch next s t).after (.said kind text)
  | .record w next, s, t => (course ch next s t).after (.wrote w)
  | .ask c accepts next, s, t =>
    (course ch (next (ch.send c s).1) (ch.send c s).2 t).after
      (.sent c (ch.send c s).1 (succeeds accepts (ch.send c s).1))
  | .excuse c next, s, t =>
    match t.spend c with
    | some t => (course ch next s t).after (.forgiven c)
    | none => ⟨[.refused c], none, s⟩

end Procedure

namespace Act

/-- What an act adds to an unsuppressed text; commands are traced by `name` or not at all. An empty text
leaves no event. -/
def events (name : Cmd → String) (trace : Bool) : Act Cmd Reply → List Event
  | .said kind text => if text.isEmpty then [] else [⟨kind, text⟩]
  | .sent c _ success => if trace then [⟨.info, Procedure.traceLine (name c) success⟩] else []
  | .refused c => [Event.refusal c]
  | _ => []

def writes : Act Cmd Reply → List Report.Write
  | .wrote w => [w]
  | _ => []

def exchanges : Act Cmd Reply → List (Cmd × Except Fault Reply)
  | .sent c reply _ => [(c, reply)]
  | _ => []

def perform (name : Cmd → String) (trace : Bool) (r : Recorder) : Act Cmd Reply → Recorder
  | .said kind text => r.emit kind text
  | .wrote w => r.write w
  | .sent c _ success => if trace then r.emit .info (Procedure.traceLine (name c) success) else r
  | .forgiven c => { r with tolerance := (r.tolerance.spend c).getD r.tolerance }
  | .refused c => r.emit .error c.refusal

variable (name : Cmd → String) (trace : Bool)

@[simp] theorem suppressed_perform (a : Act Cmd Reply) (r : Recorder) :
    (a.perform name trace r).transcript.suppressed = r.transcript.suppressed := by
  cases a with
  | sent c reply success => cases trace <;> simp [perform, Recorder.emit]
  | _ => simp [perform, Recorder.emit, Recorder.write]

theorem report_perform (a : Act Cmd Reply) (r : Recorder) :
    (a.perform name trace r).report = a.writes.foldl Report.apply r.report := by
  cases a with
  | sent c reply success => cases trace <;> rfl
  | _ => rfl

theorem events_perform (a : Act Cmd Reply) {r : Recorder} (shown : r.transcript.suppressed = false) :
    (a.perform name trace r).transcript.events = r.transcript.events ++ a.events name trace := by
  cases a with
  | sent c reply success =>
    cases trace with
    | true =>
      simp [perform, Recorder.emit, Transcript.events_emit, shown, events, Procedure.traceLine_isEmpty]
    | false => simp [perform, events]
  | said kind text => simp [perform, Recorder.emit, Transcript.events_emit, shown, events]
  | refused c =>
    cases c <;> simp [perform, Recorder.emit, Transcript.events_emit, shown, events, Event.refusal,
      FailureClass.refusal]
  | _ => simp [perform, Recorder.write, events]

def performAll (acts : List (Act Cmd Reply)) (r : Recorder) : Recorder :=
  acts.foldl (perform name trace) r

theorem report_performAll (acts : List (Act Cmd Reply)) (r : Recorder) :
    (performAll name trace acts r).report = (acts.flatMap writes).foldl Report.apply r.report := by
  induction acts generalizing r with
  | nil => rfl
  | cons a acts ih =>
    rw [performAll, List.foldl_cons, List.flatMap_cons, List.foldl_append, ← report_perform name trace]
    exact ih _

theorem events_performAll (acts : List (Act Cmd Reply)) {r : Recorder}
    (shown : r.transcript.suppressed = false) :
    (performAll name trace acts r).transcript.events =
      r.transcript.events ++ acts.flatMap (events name trace) := by
  induction acts generalizing r with
  | nil => simp [performAll]
  | cons a acts ih =>
    have hs : (a.perform name trace r).transcript.suppressed = false := by simp [shown]
    rw [performAll, List.foldl_cons, List.flatMap_cons, ← List.append_assoc,
      ← events_perform name trace a shown]
    exact ih hs

end Act

namespace Procedure

theorem run_eq_course (ch : Channel Cmd Reply σ) (name : Cmd → String) (trace : Bool)
    (p : Procedure Cmd Reply α) (s : σ) (r : Recorder) :
    p.run ch name trace s r =
      ⟨(p.course ch s r.tolerance).result, (p.course ch s r.tolerance).channel,
        Act.performAll name trace (p.course ch s r.tolerance).acts r⟩ := by
  -- both spend the tolerance that the recorder holds, so the recorder varies along the procedure
  induction p generalizing s r with
  | done a => rfl
  | say kind text next ih => exact ih s (r.emit kind text)
  | record w next ih => exact ih s (r.write w)
  | ask c accepts next ih =>
    cases hr : (ch.send c s).1 <;> cases trace <;>
      simp [run, course, hr, ih, succeeds, Act.performAll, Act.perform, Recorder.emit]
  | excuse c next ih =>
    cases ht : r.tolerance.spend c with
    | some t => simp [run, course, Recorder.excuse, ht, ih, Act.performAll, Act.perform]
    | none => simp [run, course, Recorder.excuse, ht, Act.performAll, Act.perform]

/-- A log changes nothing, and gets the exchanges of the course. -/
theorem course_logged (ch : Channel Cmd Reply σ) (p : Procedure Cmd Reply α) (s : σ)
    (l : List (Cmd × Except Fault Reply)) (t : Tolerance) :
    p.course ch.logged (s, l) t =
      ⟨(p.course ch s t).acts, (p.course ch s t).result, (p.course ch s t).channel,
        l ++ (p.course ch s t).acts.flatMap Act.exchanges⟩ := by
  induction p generalizing s l t with
  | done a => simp [course]
  | say kind text next ih => simp [course, ih, Course.after, Act.exchanges]
  | record w next ih => simp [course, ih, Course.after, Act.exchanges]
  | ask c accepts next ih => simp [course, ih, Course.after, Act.exchanges]
  | excuse c next ih =>
    cases ht : t.spend c with
    | some u => simp [course, ht, ih, Course.after, Act.exchanges]
    | none => simp [course, ht, Act.exchanges]

/-- More tolerance leaves a course that went through as it is. One that was cut is carried on from the
point of the cut. -/
theorem course_compare (ch : Channel Cmd Reply σ) (p : Procedure Cmd Reply α) (s : σ)
    {t u : Tolerance} (h : t ≤ u) :
    ((p.course ch s t).Whole ∧ p.course ch s u = p.course ch s t) ∨
      ∃ before c, (p.course ch s t).CutBy before c ∧ before <+: (p.course ch s u).acts := by
  -- an act that is no refusal stands in front of both courses
  have step {k k' : Course Cmd Reply α σ} (a : Act Cmd Reply) (ha : ∀ c, a ≠ .refused c)
      (hk : (k.Whole ∧ k' = k) ∨ ∃ before c, k.CutBy before c ∧ before <+: k'.acts) :
      ((k.after a).Whole ∧ k'.after a = k.after a) ∨
        ∃ before c, (k.after a).CutBy before c ∧ before <+: (k'.after a).acts := by
    obtain ⟨hw, he⟩ | ⟨before, c, hc, hp⟩ := hk
    · exact .inl ⟨hw.after ha, by rw [he]⟩
    · exact .inr ⟨a :: before, c, hc.after ha, by simpa using hp⟩
  induction p generalizing s t u with
  | done a => exact .inl ⟨⟨rfl, by simp [course]⟩, rfl⟩
  | say kind text next ih => exact step _ (by simp) (ih s h)
  | record w next ih => exact step _ (by simp) (ih s h)
  | ask c accepts next ih => exact step _ (by simp) (ih _ _ h)
  | excuse c next ih =>
    cases ht : t.spend c with
    | some t' =>
      -- the greater tolerance forgives as well, and the order holds of what is left
      obtain ⟨u', hu, h'⟩ := Tolerance.spend_mono h ht
      simpa only [course, ht, hu] using step (.forgiven c) (by simp) (ih s h')
    | none => exact .inr ⟨[], c, ⟨by simp [course, ht], by simp [course, ht], by simp⟩, List.nil_prefix⟩

theorem course_ends (ch : Channel Cmd Reply σ) (p : Procedure Cmd Reply α) (s : σ) (t : Tolerance) :
    (p.course ch s t).Whole ∨ ∃ before c, (p.course ch s t).CutBy before c := by
  obtain ⟨hw, -⟩ | ⟨before, c, hc, -⟩ := p.course_compare ch s (Tolerance.le_refl t)
  · exact .inl hw
  · exact .inr ⟨before, c, hc⟩

end Procedure

def Link.silent : Link Unit where
  ata := ⟨fun _ s => (.error (.io "no answer"), s)⟩
  scsi := ⟨fun _ s => (.error (.io "no answer"), s)⟩
  nvme := ⟨fun _ s => (.error (.io "no answer"), s)⟩

namespace Task

def Command : Task → Type
  | .ata _ => Ata.Taskfile
  | .scsi _ => Scsi.Command
  | .nvme _ => Nvme.Command

def Answer : Task → Type
  | .ata _ => Ata.Response
  | .scsi _ => List UInt8
  | .nvme _ => List UInt8

def procedure : (t : Task) → Procedure t.Command t.Answer Unit
  | .ata s => Ata.Exam.all s
  | .scsi s => Scsi.Exam.all s
  | .nvme s => Nvme.Exam.all s

def channel (link : Link σ) : (t : Task) → Channel t.Command t.Answer σ
  | .ata _ => link.ata
  | .scsi _ => link.scsi
  | .nvme _ => link.nvme

def commandName : (t : Task) → t.Command → String
  | .ata _ => Ata.Taskfile.name
  | .scsi _ => Scsi.Command.name
  | .nvme _ => Nvme.Command.name

def traced (d : DebugLevels) : Task → Bool
  | .ata _ => d.ata > 0
  | .scsi _ => d.scsi > 0
  | .nvme _ => d.nvme > 0

def runLogged (link : Link σ) (state : σ) (r : Recorder) (t : Task) :
    Procedure.Outcome Unit (σ × List (t.Command × Except Fault t.Answer)) :=
  t.procedure.run (t.channel link).logged t.commandName (t.traced r.debug) (state, []) r

def acts (link : Link σ) (state : σ) (tol : Tolerance) (t : Task) : List (Act t.Command t.Answer) :=
  (t.procedure.course (t.channel link) state tol).acts

theorem run_eq_course (link : Link σ) (state : σ) (r : Recorder) (t : Task) :
    t.run link state r =
      ⟨(t.procedure.course (t.channel link) state r.tolerance).result,
        (t.procedure.course (t.channel link) state r.tolerance).channel,
        Act.performAll t.commandName (t.traced r.debug) (t.acts link state r.tolerance) r⟩ := by
  cases t <;> exact Procedure.run_eq_course ..

theorem run_eq_runLogged (link : Link σ) (state : σ) (r : Recorder) (t : Task) :
    t.run link state r =
      ⟨(t.runLogged link state r).result, (t.runLogged link state r).channel.1,
        (t.runLogged link state r).recorder⟩ := by
  rw [run_eq_course, runLogged, Procedure.run_eq_course, Procedure.course_logged, acts]

theorem log_runLogged (link : Link σ) (state : σ) (r : Recorder) (t : Task) :
    (t.runLogged link state r).channel.2 = (t.acts link state r.tolerance).flatMap Act.exchanges := by
  rw [runLogged, Procedure.run_eq_course, Procedure.course_logged, acts]
  exact List.nil_append _

theorem recorder_runLogged (link : Link σ) (state : σ) (r : Recorder) (t : Task) :
    (t.runLogged link state r).recorder =
      Act.performAll t.commandName (t.traced r.debug) (t.acts link state r.tolerance) r := by
  rw [runLogged, Procedure.run_eq_course, Procedure.course_logged, acts]

end Task

end DriveHealth
