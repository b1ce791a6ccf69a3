import DriveHealth.Proofs.Conduct
set_option autoImplicit false

namespace DriveHealth

namespace Procedure

variable {Cmd Reply α σ : Type}

theorem not_isRefusal_of_orderly {ok : Cmd → Prop} {acts : List (Act Cmd Reply)}
    (orderly : ∀ a ∈ acts, a.Orderly ok) (unrefused : ∀ c, .refused c ∉ acts)
    {name : Cmd → String} {trace : Bool} {e : Event} (he : e ∈ acts.flatMap (Act.events name trace)) :
    ¬ e.IsRefusal := by
  intro hr
  obtain ⟨a, ha, hea⟩ := List.mem_flatMap.1 he
  obtain ⟨c, rfl⟩ := (orderly a ha).refused hea hr
  exact unrefused c ha

/-- More tolerance, for a procedure whose acts are orderly: either no refusal can be read in the text and
nothing changes, or all acts but the refusal are taken again. -/
theorem course_lenient {ok : Cmd → Prop} (ch : Channel Cmd Reply σ) (p : Procedure Cmd Reply α) (s : σ)
    {t u : Tolerance} (order : t ≤ u) (orderly : ∀ a ∈ (p.course ch s t).acts, a.Orderly ok)
    (name : Cmd → String) (trace : Bool) :
    ((p.course ch s u).acts = (p.course ch s t).acts ∧
      ∀ e ∈ (p.course ch s t).acts.flatMap (Act.events name trace), ¬ e.IsRefusal) ∨
    ∃ before c, (p.course ch s t).acts = before ++ [.refused c] ∧ before <+: (p.course ch s u).acts ∧
      ∀ e ∈ before.flatMap (Act.events name trace), ¬ e.IsRefusal := by
  obtain ⟨hw, he⟩ | ⟨before, c, hc, hb⟩ := p.course_compare ch s order
  · exact .inl ⟨by rw [he], fun e => not_isRefusal_of_orderly orderly hw.unrefused⟩
  · have horderly : ∀ a ∈ before, a.Orderly ok := fun a ha => orderly a (by simp [hc.acts_eq, ha])
    exact .inr ⟨before, c, hc.acts_eq, hb, fun e => not_isRefusal_of_orderly horderly hc.unrefused⟩

end Procedure

namespace Task

variable {σ : Type}

/-- Two calls that differ only in tolerance, the second being at least as tolerant: the commands of the
first call are sent by the second one too, and first. Without a refusal the calls are the same. With one, the
first call says nothing after it that the second does not say, and does nothing at all. -/
theorem more_tolerance (link : Link σ) (t : Task) (state : σ) {r₁ r₂ : Recorder}
    (alike : r₂ = { r₁ with tolerance := r₂.tolerance, seed := r₂.seed })
    (shown : r₁.transcript.suppressed = false) (order : r₁.tolerance ≤ r₂.tolerance) :
    let run₁ := t.runLogged link state r₁
    let run₂ := t.runLogged link state r₂
    let acts₁ := t.acts link state r₁.tolerance
    let acts₂ := t.acts link state r₂.tolerance
    run₁.channel.2 <+: run₂.channel.2 ∧
    (∃ es₁ es₂, run₁.recorder.transcript.events = r₁.transcript.events ++ es₁ ∧
      run₂.recorder.transcript.events = r₂.transcript.events ++ es₂ ∧
      ((∀ e ∈ es₁, ¬ e.IsRefusal) → run₁.channel.2 = run₂.channel.2 ∧ es₁ = es₂ ∧
        run₁.recorder.report = run₂.recorder.report) ∧
      ((∃ e ∈ es₁, e.IsRefusal) → ∃ E c, es₁ = E ++ [Event.refusal c] ∧ (∀ e ∈ E, ¬ e.IsRefusal) ∧
        E <+: es₂ ∧ ∃ before, acts₁ = before ++ [.refused c])) ∧
    ∀ w ∈ acts₁.flatMap Act.writes, ∃ w' ∈ acts₂.flatMap Act.writes, w'.key = w.key := by
  intro run₁ run₂ acts₁ acts₂
  have hd : r₂.debug = r₁.debug := by rw [alike]
  have hs : r₂.transcript.suppressed = false := by rw [alike]; exact shown
  have hreport : r₂.report = r₁.report := by rw [alike]
  have hlog₁ : run₁.channel.2 = acts₁.flatMap Act.exchanges := t.log_runLogged link state r₁
  have hlog₂ : run₂.channel.2 = acts₂.flatMap Act.exchanges := t.log_runLogged link state r₂
  have hrec₁ : run₁.recorder = Act.performAll t.commandName (t.traced r₁.debug) acts₁ r₁ :=
    t.recorder_runLogged link state r₁
  have hrec₂ : run₂.recorder = Act.performAll t.commandName (t.traced r₁.debug) acts₂ r₂ := by
    rw [← hd]
    exact t.recorder_runLogged link state r₂
  rw [hlog₁, hlog₂, hrec₁, hrec₂]
  have hevents₁ := Act.events_performAll t.commandName (t.traced r₁.debug) acts₁ shown
  have hevents₂ := Act.events_performAll t.commandName (t.traced r₁.debug) acts₂ hs
  obtain ⟨he, hn⟩ | ⟨before, c, hb, ⟨rest, hrest⟩, hn⟩ :=
    t.procedure.course_lenient (t.channel link) state order (t.orderly_acts link state r₁.tolerance)
      t.commandName (t.traced r₁.debug)
  · have he : acts₂ = acts₁ := he
    rw [he] at hevents₂ ⊢
    refine ⟨List.prefix_refl _, ⟨_, _, hevents₁, hevents₂, fun _ => ⟨rfl, rfl, ?_⟩, ?_⟩,
      fun w hw => ⟨w, hw, rfl⟩⟩
    · rw [Act.report_performAll, Act.report_performAll, hreport]
    · rintro ⟨e, hmem, hr⟩
      exact absurd hr (hn e hmem)
  · -- the refusal leaves one event and nothing else, so all the rest comes from `before`
    have hb : acts₁ = before ++ [.refused c] := hb
    have hrest : before ++ rest = acts₂ := hrest
    have hes : acts₁.flatMap (Act.events t.commandName (t.traced r₁.debug)) =
        before.flatMap (Act.events t.commandName (t.traced r₁.debug)) ++ [Event.refusal c] := by
      simp [hb, Act.events]
    have hwrites : acts₁.flatMap Act.writes = before.flatMap Act.writes := by simp [hb, Act.writes]
    refine ⟨?_, ⟨_, _, hevents₁, hevents₂, fun h => ?_, fun _ => ⟨_, c, hes, hn, ?_, before, hb⟩⟩, ?_⟩
    · simp [hb, ← hrest, Act.exchanges]
    · exact absurd ⟨c, rfl⟩ (h (Event.refusal c) (by simp [hes]))
    · simp [← hrest]
    · intro w hw
      refine ⟨w, ?_, rfl⟩
      rw [← hrest, List.flatMap_append]
      exact List.mem_append_left _ (hwrites ▸ hw)

theorem more_tolerance_silent :
    let strict := (Task.ata { status := true }).runLogged .silent () (Recorder.start ⟨0, false⟩ {})
    let lenient := (Task.ata { status := true }).runLogged .silent () (Recorder.start ⟨2, false⟩ {})
    (strict.result = none ∧ lenient.result = some ()) ∧ strict.channel.2 <+: lenient.channel.2 := by
  have h := @more_tolerance Unit .silent (.ata { status := true }) () (Recorder.start ⟨0, false⟩ {})
    (Recorder.start ⟨2, false⟩ {}) rfl rfl ⟨by decide, id⟩
  exact ⟨⟨rfl, rfl⟩, h.1⟩

end Task

end DriveHealth
