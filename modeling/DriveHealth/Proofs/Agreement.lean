import DriveHealth.Proofs.AtaLedger
set_option autoImplicit false

/-!
The text and the report of an ATA examination agree place by place, however the drive answers and
wherever the examination is cut. One place is apart: the general purpose log directory is lost from the
report if the examination is refused at the SMART log directory that follows.
-/

namespace DriveHealth

variable {Cmd Reply σ : Type}

theorem Procedure.conservative_of_refused {α : Type} (ch : Channel Cmd Reply σ)
    (p : Procedure Cmd Reply α) (s : σ) (t : Tolerance)
    (h : .refused .optional ∈ (p.course ch s t).acts) : t.conservative = true := by
  induction p generalizing s t with
  | done a => simp [course] at h
  | say kind text next ih => exact ih s t (by simpa [course] using h)
  | record w next ih => exact ih s t (by simpa [course] using h)
  | ask c accepts next ih => exact ih _ _ t (by simpa [course] using h)
  | excuse c next ih =>
    cases ht : t.spend c with
    | none =>
      simp only [course, ht, List.mem_singleton, Act.refused.injEq] at h
      subst h
      by_cases hc : t.conservative = true
      · exact hc
      · simp [Tolerance.spend, hc] at ht
    | some u =>
      have hu : u.conservative = t.conservative := by
        cases c with
        | optional =>
          simp only [Tolerance.spend] at ht
          split at ht <;> simp at ht
          rw [ht]
        | mandatory =>
          simp only [Tolerance.spend] at ht
          split at ht <;> simp at ht
          rw [← ht]
      rw [← hu]
      exact ih s u (by simpa [course, ht] using h)

theorem isTrace_traceLine (name : String) (success : Bool) :
    isTrace (Procedure.traceLine name success) = true := by
  have h : opens "REPORT-IOCTL: " (toString "REPORT-IOCTL: ") = true := by simp [opens]
  exact opens_append (opens_append (opens_append (opens_append h _) _) _) _

theorem Act.notices_events (ps : List Place) (name : Cmd → String) (trace : Bool)
    (a : Act Cmd Reply) :
    ((a.events name trace).flatMap fun e => notices ps e.text) = a.announced ps := by
  cases a with
  | said kind text =>
    by_cases he : text.isEmpty
    · obtain rfl : text = "" := by simpa using he
      simp [events, announced, notices_empty]
    · simp [events, announced, he]
  | sent c reply success =>
    have hline : notices ps (Procedure.traceLine (name c) success) = [] :=
      notices_opening ps (o := .trace) (isTrace_traceLine (name c) success) (.inl rfl)
    cases trace <;> simp [events, announced, hline]
  | refused c =>
    have hrefusal : notices ps c.refusal = [] :=
      notices_unheaded ps (by cases c <;> simp [FailureClass.refusal])
    simp [events, announced, Event.refusal, hrefusal]
  | wrote w => rfl
  | forgiven c => rfl

theorem Act.notices_flatMap_events (ps : List Place) (name : Cmd → String) (trace : Bool)
    (acts : List (Act Cmd Reply)) :
    ((acts.flatMap (Act.events name trace)).flatMap fun e => notices ps e.text) =
      acts.flatMap (Act.announced ps) := by
  rw [List.flatMap_assoc]
  simp only [Act.notices_events]

/-- At the end of a run nothing is owed but, if the run was refused there, the first directory. -/
theorem Ledger.owed_final {α : Type} {ps : List Place} {p : Procedure Cmd Reply α}
    (h : p.watched (monitor ps) {} fun l _ => l.owed = []) (ch : Channel Cmd Reply σ) (s : σ)
    (t : Tolerance) :
    let k := p.course ch s t
    let last := (monitor ps).final {} k.acts
    (monitor ps).Accepts {} k.acts ∧ (last.owed = [] ∨ last.owed = [.place .gpDirectory] ∧
      last.unread = true ∧ k.result = none ∧ .refused .optional ∈ k.acts) := by
  intro k last
  obtain ⟨haccepts, hresult⟩ := h.course ch s t
  refine ⟨haccepts, ?_⟩
  obtain hw | ⟨before, c, hc⟩ := p.course_ends ch s t
  · obtain ⟨a, ha⟩ := Option.isSome_iff_exists.1 hw.finished
    exact .inl (hresult a ha)
  · have hacts : k.acts = before ++ [.refused c] := hc.acts_eq
    have hlast : last = (monitor ps).final {} before := by
      show (monitor ps).final {} k.acts = _
      rw [hacts, Monitor.final_append]
      rfl
    have hstop : last.MayStop c := by
      have hall : (monitor ps).Accepts {} k.acts := haccepts
      rw [hacts, Monitor.accepts_append] at hall
      rw [hlast]
      exact hall.2.1
    refine hstop.imp id fun ⟨howed, hunread, hopt⟩ => ⟨howed, hunread, hc.unfinished, ?_⟩
    rw [hacts, hopt]
    simp

namespace Ata.Exam

/-- In a call that begins with no text and no report, every place but one has its heading in the text
if and only if it has its entry in the report. The general purpose log directory can lose its entry, in
a conservative call that cannot read the SMART log directory after it. -/
theorem text_agrees_with_report (ch : Channel Taskfile Response σ) (s : Sections) (state : σ)
    {r : Recorder} (shown : r.transcript.suppressed = false) (blank : r.transcript.events = [])
    (unwritten : r.report = {}) :
    let run := Exam.run ch s state r
    let events := run.recorder.transcript.events
    let heads (p : Place) := ∃ e ∈ events, opens p.heading e.text = true
    (∀ p, p ≠ .gpDirectory → (heads p ↔ run.recorder.report.has p = true)) ∧
      (run.recorder.report.has .gpDirectory = true → heads .gpDirectory) ∧
      (heads .gpDirectory → run.recorder.report.has .gpDirectory = true ∨
        run.result = none ∧ r.tolerance.conservative = true ∧ ∃ e ∈ events, isUnread e.text = true) := by
  intro run events heads
  have hrun : run = _ := Procedure.run_eq_course ch Taskfile.name (r.debug.ata > 0) (all s) state r
  obtain ⟨haccepts, howed⟩ := Ledger.owed_final (watched_all s) ch state r.tolerance
  have hrecorder : run.recorder =
      Act.performAll Taskfile.name (r.debug.ata > 0) ((all s).course ch state r.tolerance).acts r :=
    congrArg (·.recorder) hrun
  have hresult : run.result = ((all s).course ch state r.tolerance).result := congrArg (·.result) hrun
  generalize hk : (all s).course ch state r.tolerance = k at haccepts howed hrecorder hresult
  have hevents : events = k.acts.flatMap (Act.events Taskfile.name (r.debug.ata > 0)) := by
    show run.recorder.transcript.events = _
    rw [hrecorder, Act.events_performAll _ _ _ shown, blank, List.nil_append]
  have hreport (p : Place) :
      run.recorder.report.has p = true ↔ .place p ∈ k.acts.flatMap (Act.delivered Place.all) := by
    rw [hrecorder, Act.report_performAll, Ledger.has_foldl p.mem_all haccepts (by simp [unwritten, Report.get?, Fields.get?]),
      unwritten]
    have hnone : Report.has {} p = false := by cases p <;> rfl
    simp [hnone]
  have hheads (p : Place) : heads p ↔ .place p ∈ k.acts.flatMap (Act.announced Place.all) := by
    rw [← Act.notices_flatMap_events Place.all Taskfile.name (r.debug.ata > 0), ← hevents]
    simp [heads, notices, p.mem_all]
  have hledger := Ledger.announced_eq haccepts
  simp only [List.nil_append] at hledger
  have hlost (p : Place) : heads p ↔ run.recorder.report.has p = true ∨
      .place p ∈ ((Ledger.monitor Place.all).final {} k.acts).owed := by
    rw [hheads, hreport, hledger, List.mem_append]
  refine ⟨fun p hp => ?_, fun h => (hlost _).2 (.inl h), fun h => ?_⟩
  · rw [hlost]
    obtain hnil | ⟨hgp, -⟩ := howed
    · simp [hnil]
    · simp [hgp, hp]
  · refine ((hlost _).1 h).imp id fun hmem => ?_
    obtain hnil | ⟨-, hunread, hcut, hopt⟩ := howed
    · simp [hnil] at hmem
    · refine ⟨hresult.trans hcut, (all s).conservative_of_refused ch state r.tolerance (hk ▸ hopt), ?_⟩
      obtain h | ⟨kind, text, htext, hread⟩ := Ledger.unread_final hunread
      · cases h
      · have hne : text.isEmpty = false := by
          refine Bool.eq_false_iff.2 fun he => ?_
          obtain rfl : text = "" := by simpa using he
          exact absurd hread (Bool.eq_false_iff.1 (Opening.opens_empty .unread))
        refine ⟨⟨kind, text⟩, ?_, hread⟩
        rw [hevents]
        exact List.mem_flatMap.2 ⟨_, htext, by simp [Act.events, hne]⟩

def halfDirectory : Channel Taskfile Response Unit where
  send t u :=
    (if t = .identifyDevice ∨ t = .readLogExt 0x00 0 then .ok { data := List.replicate 512 0 }
      else .error (.commandFailed t.name "aborted"), u)

theorem text_agrees_with_report_halfDirectory :
    let run := Exam.run halfDirectory { gpDirectory := true, smartDirectory := true } ()
      (Recorder.start ⟨0, true⟩ {})
    ∀ p, p ≠ .gpDirectory → ((∃ e ∈ run.recorder.transcript.events, opens p.heading e.text = true) ↔
      run.recorder.report.has p = true) :=
  (text_agrees_with_report halfDirectory { gpDirectory := true, smartDirectory := true } () rfl rfl rfl).1

/-- Its general purpose log directory is in the text, but is lost from the report of a conservative
call. -/
theorem gpDirectory_lost_halfDirectory :
    let run := Exam.run halfDirectory { gpDirectory := true, smartDirectory := true } ()
      (Recorder.start ⟨0, true⟩ {})
    (∃ e ∈ run.recorder.transcript.events, opens Place.gpDirectory.heading e.text = true) ∧
      run.recorder.report.has .gpDirectory = false := by
  refine ⟨List.any_eq_true.1 ?_, ?_⟩ <;> decide +kernel

end Ata.Exam

end DriveHealth
