import DriveHealth.Proofs.ErrorTable
set_option autoImplicit false

namespace DriveHealth.Nvme.Exam

open Text Procedure

variable {α β σ : Type}

/-- An act that shows nothing of the log of errors. -/
structure Silent (a : Act Command (List UInt8)) : Prop where
  unsaid : a ≠ .said .plain noErrors
  unwritten : ∀ w ∈ a.writes, w.key ≠ errorKey

/-- An act that has nothing to do with the log of errors. -/
structure Quiet (a : Act Command (List UInt8)) : Prop extends Silent a where
  unasked : ∀ x ∈ a.exchanges, ∀ length, x.1 ≠ .logPage 0x01 length

@[simp] theorem quiet_said (kind : EventKind) {text : String} (h : OtherNews text) :
    Quiet (.said kind text) ↔ True :=
  iff_true_intro ⟨⟨by simp [h.ne], by simp [Act.writes]⟩, by simp [Act.exchanges]⟩

theorem quiet_wrote (w : Report.Write) : Quiet (.wrote w) ↔ w.key ≠ errorKey :=
  ⟨fun h => h.unwritten w (by simp [Act.writes]),
    fun h => ⟨⟨by simp, by simpa [Act.writes] using h⟩, by simp [Act.exchanges]⟩⟩

@[simp] theorem quiet_set (key : String) (value : Datum) :
    Quiet (.wrote (.set key value)) ↔ key ≠ errorKey := quiet_wrote _

@[simp] theorem quiet_setIn (key field : String) (value : Datum) :
    Quiet (.wrote (.setIn key field value)) ↔ key ≠ errorKey := quiet_wrote _

theorem silent_sent (c : Command) (reply : Except Fault (List UInt8)) (success : Bool) :
    Silent (.sent c reply success) := ⟨by simp, by simp [Act.writes]⟩

@[simp] theorem quiet_sent (c : Command) (reply : Except Fault (List UInt8)) (success : Bool) :
    Quiet (.sent c reply success) ↔ ∀ length, c ≠ .logPage 0x01 length :=
  ⟨fun h => h.unasked (c, reply) (by simp [Act.exchanges]),
    fun h => ⟨silent_sent c reply success, by simpa [Act.exchanges] using h⟩⟩

@[simp] theorem quiet_forgiven (c : FailureClass) : Quiet (.forgiven c) ↔ True :=
  iff_true_intro ⟨⟨by simp, by simp [Act.writes]⟩, by simp [Act.exchanges]⟩

@[simp] theorem quiet_refused (c : FailureClass) : Quiet (.refused c) ↔ True :=
  iff_true_intro ⟨⟨by simp, by simp [Act.writes]⟩, by simp [Act.exchanges]⟩

theorem quiet_read {c : Command} (hc : ∀ length, c ≠ .logPage 0x01 length) {decode : List UInt8 → Except Fault α}
    {Q : Except Fault α → Prop} (hQ : ∀ x, Q x) : (read c decode).always Quiet Q :=
  fun reply => ⟨(quiet_sent c reply _).2 hc, hQ _⟩

theorem quiet_driveInfo (c : Controller) : (driveInfo c).always Quiet fun _ => True := by
  simp [driveInfo, errorKey]

theorem quiet_capabilities (c : Controller) : (capabilities c).always Quiet fun _ => True := by
  simp [capabilities, errorKey]

theorem quiet_verdict (h : Health) : (verdict h).always Quiet fun _ => True := by
  simp [verdict, errorKey]

theorem quiet_healthLog (h : Health) : (healthLog h).always Quiet fun _ => True := by
  simp [healthLog, errorKey]

theorem quiet_health (s : Sections) : (health s).always Quiet fun _ => True := by
  rw [health, always_bind]
  refine quiet_read (by simp) fun x => ?_
  cases x with
  | error e => simp
  | ok h => simp [quiet_verdict, quiet_healthLog, errorKey]

theorem quiet_selfTestLog (c : Option Controller) : (selfTestLog c).always Quiet fun _ => True := by
  rw [selfTestLog]
  split
  · simp
  · rw [always_bind]
    refine quiet_read (by simp) fun x => ?_
    cases x with
    | error e => simp
    | ok log => simp [selfTestLine, errorKey]

/-- How many records are asked for. -/
def requested (wanted available : Nat) : Nat := max 1 (min wanted available)

/-- The acts of the section, by the reply to its request. -/
inductive Lists (count available : Nat) : Except Fault (List UInt8) → List (Act Command (List UInt8)) → Prop where
  | failed (e : Fault) (success : Bool) {last : Act Command (List UInt8)}
    (hlast : last = .forgiven .optional ∨ last = .refused .optional) :
    Lists count available (.error e) [.sent (.logPage 0x01 (count * 64)) (.error e) success,
      .said .error s!"Read NVMe Error Information Log failed: {e.message}\n", last]
  | shown (bs : List UInt8) (success : Bool) :
    Lists count available (.ok bs) (.sent (.logPage 0x01 (count * 64)) (.ok bs) success ::
      (showErrors count available (ErrorEntry.decodeAll bs)).script fun _ => .error (.io ""))

/-- A course that asks for the log once, or is refused before it. -/
inductive Reaches (wanted available : Nat) (k : Course Command (List UInt8) Unit σ) : Prop where
  | unreached (h : k.result = none) (hquiet : ∀ a ∈ k.acts, Quiet a)
  | reached {before middle after : List (Act Command (List UInt8))} {reply : Except Fault (List UInt8)}
    (hacts : k.acts = before ++ (middle ++ after)) (hbefore : ∀ a ∈ before, Quiet a)
    (hafter : ∀ a ∈ after, Quiet a) (h : Lists (requested wanted available) available reply middle)

section

variable {wanted available : Nat}

theorem lists_errorLog {c : Option Controller} (havailable : (c.map (·.errorLogEntries)).getD 16 = available)
    (ch : Channel Command (List UInt8) σ) (s : σ) (t : Tolerance) :
    ∃ reply, Lists (requested wanted available) available reply ((errorLog wanted c).course ch s t).acts := by
  rw [errorLog_eq, havailable, course_send_bind, Course.acts_after]
  generalize (ch.send (.logPage 0x01 (max 1 (min wanted available) * ErrorEntry.size)) s).1 = reply
  refine ⟨reply, ?_⟩
  cases reply with
  | error e =>
    simp only [acts_fail]
    refine .failed e _ ?_
    split <;> simp
  | ok bs =>
    simp only [acts_writing (writing_showErrors ..) fun _ => .error (.io "")]
    exact .shown bs _

theorem reaches_errorLog {c : Option Controller} (havailable : (c.map (·.errorLogEntries)).getD 16 = available)
    (ch : Channel Command (List UInt8) σ) (s : σ) (t : Tolerance) :
    Reaches wanted available ((errorLog wanted c).course ch s t) := by
  obtain ⟨reply, h⟩ := @lists_errorLog _ wanted _ _ havailable ch s t
  let acts := ((errorLog wanted c).course ch s t).acts
  have hacts : acts = [] ++ (acts ++ []) := (List.append_nil acts).symm
  exact .reached hacts (List.forall_mem_nil _) (List.forall_mem_nil _) h

variable {p : Exam Unit} {k : Course Command (List UInt8) Unit σ}

theorem Reaches.behind {before : List (Act Command (List UInt8))} (h : Reaches wanted available k)
    (hbefore : ∀ a ∈ before, Quiet a) : Reaches wanted available { k with acts := before ++ k.acts } := by
  cases h with
  | unreached h hquiet => exact .unreached h (List.forall_mem_append.2 ⟨hbefore, hquiet⟩)
  | reached hacts hfront hafter h =>
    exact .reached (by simp only [hacts, List.append_assoc]) (List.forall_mem_append.2 ⟨hbefore, hfront⟩) hafter h

theorem reaches_bind {q : Exam α} {Q : α → Prop} {g : α → Exam Unit} {ch : Channel Command (List UInt8) σ} {s : σ}
    {t : Tolerance} (hq : q.always Quiet Q)
    (hg : ∀ a, Q a → ∀ s t, Reaches wanted available ((g a).course ch s t)) :
    Reaches wanted available ((q >>= g).course ch s t) := by
  obtain ⟨hquiet, hresult⟩ := hq.course ch s t
  have hbind := course_bind ch q g s t
  generalize (q >>= g).course ch s t = k at hbind
  cases hbind with
  | refused _ => exact .unreached rfl hquiet
  | further h u => exact (hg _ (hresult _ h) _ u).behind hquiet

theorem Reaches.bind {g : Unit → Exam Unit} {ch : Channel Command (List UInt8) σ} {s : σ} {t : Tolerance}
    (h : Reaches wanted available (p.course ch s t)) (hg : (g ()).always Quiet fun _ => True) :
    Reaches wanted available ((p >>= g).course ch s t) := by
  have hbind := course_bind ch p g s t
  generalize (p >>= g).course ch s t = k at hbind
  cases hbind with
  | refused hnone =>
    cases h with
    | unreached _ hquiet => exact .unreached rfl hquiet
    | reached hacts hbefore hafter h => exact .reached hacts hbefore hafter h
  | @further a hsome u =>
    cases h with
    | unreached hnone _ => simp [hsome] at hnone
    | reached hacts hbefore hafter h =>
      have hrest := (hg.course ch (p.course ch s t).channel u).1
      exact .reached (by simp only [hacts, List.append_assoc]) hbefore (List.forall_mem_append.2 ⟨hafter, hrest⟩) h

end

def afterIdentity (s : Sections) (c : Option Controller) : Exam Unit := do
  match c with
  | some c => identitySections s c
  | none => pure ()
  if s.status || s.health then health s
  if s.errorEntries > 0 then errorLog s.errorEntries c
  if s.selfTestLog then selfTestLog c

theorem all_eq {s : Sections} (h : s.wantsIdentity = true) : all s = controller? >>= afterIdentity s := by
  rw [all, if_pos h]
  rfl

theorem quiet_identitySections (s : Sections) (c : Controller) :
    (identitySections s c).always Quiet fun _ => True := by
  cases hinfo : s.driveInfo <;> cases hcapabilities : s.capabilities <;>
    simp [identitySections, hinfo, hcapabilities, quiet_driveInfo, quiet_capabilities]

theorem reaches_afterIdentity {s : Sections} (hw : 0 < s.errorEntries) {c : Option Controller} {available : Nat}
    (havailable : (c.map (·.errorLogEntries)).getD 16 = available) (ch : Channel Command (List UInt8) σ)
    (state : σ) (t : Tolerance) : Reaches s.errorEntries available ((afterIdentity s c).course ch state t) := by
  have hselfTests : (if s.selfTestLog then selfTestLog c else pure () : Exam Unit).always Quiet fun _ => True := by
    split
    · exact quiet_selfTestLog c
    · trivial
  have herrors (state : σ) (t : Tolerance) : Reaches s.errorEntries available ((do
      if s.errorEntries > 0 then errorLog s.errorEntries c
      if s.selfTestLog then selfTestLog c : Exam Unit).course ch state t) := by
    rw [if_pos hw]
    exact (reaches_errorLog havailable ch state t).bind hselfTests
  have hhealth (state : σ) (t : Tolerance) : Reaches s.errorEntries available ((do
      if s.status || s.health then health s
      if s.errorEntries > 0 then errorLog s.errorEntries c
      if s.selfTestLog then selfTestLog c : Exam Unit).course ch state t) := by
    cases s.status || s.health with
    | false => exact herrors state t
    | true => exact reaches_bind (quiet_health s) fun _ _ => herrors
  cases c with
  | none => exact hhealth state t
  | some c => exact reaches_bind (quiet_identitySections s c) fun _ _ => hhealth

/-- How many records there are, by the reply to the command that asks the controller what it is. -/
def availableErrors (identity : Except Fault (List UInt8)) : Nat :=
  match identity.bind Controller.decode with
  | .ok c => c.errorLogEntries
  | .error _ => 16

/-- An examination that is to show the log asks the controller first what it is. -/
theorem reaches_all {s : Sections} (hw : 0 < s.errorEntries) (ch : Channel Command (List UInt8) σ) (state : σ)
    (t : Tolerance) :
    let identity := (ch.send .identifyController state).1
    ∃ success k, Reaches s.errorEntries (availableErrors identity) k ∧
      (all s).course ch state t = k.after (.sent .identifyController identity success) := by
  intro identity
  have hwants : s.wantsIdentity = true := by simp [Sections.wantsIdentity, hw]
  rw [all_eq hwants]
  let told : Exam (Option Controller) := match identity.bind Controller.decode with
    | .ok c => pure (some c)
    | .error e => do
      fail .mandatory s!"Read NVMe Identify Controller failed: {e.message}\n"
      return none
  refine ⟨_, (told >>= afterIdentity s).course ch (ch.send .identifyController state).2 t, ?_, rfl⟩
  cases hidentity : identity.bind Controller.decode with
  | ok c =>
    have havailable : availableErrors identity = c.errorLogEntries := by simp [availableErrors, hidentity]
    have htold : told = pure (some c) := by simp [told, hidentity]
    rw [htold, havailable]
    exact reaches_afterIdentity (c := some c) hw rfl ch _ t
  | error e =>
    have havailable : availableErrors identity = 16 := by simp [availableErrors, hidentity]
    have htold : told.always Quiet (· = none) := by simp [told, hidentity]
    rw [havailable]
    refine reaches_bind htold fun c hc => ?_
    subst hc
    exact reaches_afterIdentity (c := none) hw rfl ch

theorem errorLogEntries_range {bs : List UInt8} {c : Controller} (h : Controller.decode bs = .ok c) :
    1 ≤ c.errorLogEntries ∧ c.errorLogEntries ≤ 256 := by
  rw [Controller.decode, Block.require] at h
  split at h
  · cases h
    exact ⟨Nat.le_add_left 1 _, Block.byte_lt ..⟩
  · cases h

theorem availableErrors_range (identity : Except Fault (List UInt8)) :
    1 ≤ availableErrors identity ∧ availableErrors identity ≤ 256 := by
  rw [availableErrors]
  cases hc : identity.bind Controller.decode with
  | error e =>
    show 1 ≤ 16 ∧ 16 ≤ 256
    decide
  | ok c =>
    cases identity with
    | error e => cases hc
    | ok bs => exact errorLogEntries_range hc

section

variable {acts : List (Act Command (List UInt8))}

theorem silent_quiet (h : ∀ a ∈ acts, Quiet a) : ∀ a ∈ acts, Silent a := fun a ha => (h a ha).toSilent

theorem noErrors_notMem_events (h : ∀ a ∈ acts, Silent a) (name : Command → String) (trace : Bool) :
    ⟨.plain, noErrors⟩ ∉ acts.flatMap (Act.events name trace) := by
  intro hmem
  obtain ⟨a, ha, he⟩ := List.mem_flatMap.1 hmem
  obtain rfl | ⟨c, reply, success, -, htrace⟩ | ⟨c, -, hrefusal⟩ := Act.mem_events he
  · exact (h _ ha).unsaid rfl
  · cases congrArg Event.kind htrace
  · cases congrArg Event.kind hrefusal

theorem unwritten_silent (h : ∀ a ∈ acts, Silent a) : ∀ w ∈ acts.flatMap Act.writes, w.key ≠ errorKey := by
  intro w hw
  obtain ⟨a, ha, hw⟩ := List.mem_flatMap.1 hw
  exact (h a ha).unwritten w hw

theorem unasked_quiet (h : ∀ a ∈ acts, Quiet a) :
    ∀ x ∈ acts.flatMap Act.exchanges, ∀ length, x.1 ≠ .logPage 0x01 length := by
  intro x hx
  obtain ⟨a, ha, hx⟩ := List.mem_flatMap.1 hx
  exact (h a ha).unasked x hx

end

/-- What text and report say of a log. -/
structure Shows (bs : List UInt8) (count available : Nat) (es : List Event) (report : Report) : Prop where
  logged_le : (ErrorEntry.places bs count).length ≤ count
  rows : ∃ rows : List (String × Datum),
    List.Forall₂ (fun (place : Nat × Nat) row => RowText bs place.1 place.2 row.1 ∧ row.2 = rowDatum bs place.1)
      (ErrorEntry.places bs count).zipIdx rows ∧
    (∃ es₁ es₂, es = es₁ ++ ((errorTexts count available (rows.map (·.1))).map (⟨.plain, ·⟩) ++ es₂)) ∧
    report.get? errorKey = some (.record [
      ("size", .nat available),
      ("read", .nat count),
      ("logged", .nat (ErrorEntry.places bs count).length),
      ("table", .list (rows.map (·.2)))])
  empty_iff : ⟨.plain, noErrors⟩ ∈ es ↔ (ErrorEntry.places bs count).length = 0

theorem Lists.exchanges {count available : Nat} {reply : Except Fault (List UInt8)}
    {acts : List (Act Command (List UInt8))} (h : Lists count available reply acts) :
    acts.flatMap Act.exchanges = [(.logPage 0x01 (count * 64), reply)] := by
  cases h with
  | failed e success hlast =>
    obtain rfl | rfl := hlast <;> rfl
  | shown bs success =>
    have hnone := exchanges_writing (writing_showErrors count available (ErrorEntry.decodeAll bs)) Link.silent.nvme ()
      ⟨0, false⟩
    rw [acts_writing (writing_showErrors ..) fun _ => .error (.io "")] at hnone
    rw [List.flatMap_cons, hnone]
    rfl

theorem Lists.silent {count available : Nat} {e : Fault} {acts : List (Act Command (List UInt8))}
    (h : Lists count available (.error e) acts) : ∀ a ∈ acts, Silent a := by
  cases h with
  | @failed _ success last hlast =>
    have hlastQuiet : Quiet last := by obtain rfl | rfl := hlast <;> simp
    have herror : Quiet (.said .error s!"Read NVMe Error Information Log failed: {e.message}\n") := by simp
    simpa using ⟨silent_sent _ _ success, herror.toSilent, hlastQuiet.toSilent⟩

/-- Around the section, quiet acts add nothing to what it shows. -/
theorem shows_of_acts {before after : List (Act Command (List UInt8))} {bs : List UInt8} {count : Nat}
    (hlength : bs.length = 64 * count) (hbefore : ∀ a ∈ before, Quiet a) (hafter : ∀ a ∈ after, Quiet a)
    (available : Nat) (success : Bool) (name : Command → String) (trace : Bool) (report : Report) :
    let acts := before ++ (.sent (.logPage 0x01 (count * 64)) (.ok bs) success ::
      (showErrors count available (ErrorEntry.decodeAll bs)).script (fun _ => .error (.io "")) ++ after)
    Shows bs count available (acts.flatMap (Act.events name trace))
      ((acts.flatMap Act.writes).foldl Report.apply report) := by
  intro acts
  let request : Act Command (List UInt8) := .sent (.logPage 0x01 (count * 64)) (.ok bs) success
  let texts := errorTexts count available ((errorRows bs count).map (·.1))
  let value : Datum := .record [("size", .nat available), ("read", .nat count),
    ("logged", .nat (ErrorEntry.places bs count).length), ("table", .list ((errorRows bs count).map (·.2)))]
  have hevents : acts.flatMap (Act.events name trace) =
      (before.flatMap (Act.events name trace) ++ request.events name trace) ++
        (texts.map (⟨.plain, ·⟩) ++ after.flatMap (Act.events name trace)) := by
    have htexts := @Act.flatMap_events_said Command (List UInt8) name trace .plain _
      (errorTexts_filled bs count available)
    simp only [acts, script_showErrors hlength, List.cons_append, List.flatMap_append, List.flatMap_cons,
      List.append_assoc, htexts]
    simp [request, texts, Act.events]
  have hwrites : acts.flatMap Act.writes =
      before.flatMap Act.writes ++ .set errorKey value :: after.flatMap Act.writes := by
    simp only [acts, script_showErrors hlength, List.cons_append, List.flatMap_append, List.flatMap_cons,
      List.append_assoc, Act.flatMap_writes_said]
    simp [value, Act.writes]
  refine ⟨?_, ⟨errorRows bs count, rowText_errorRows bs count, ⟨_, _, hevents⟩, ?_⟩, ?_⟩
  · exact Nat.le_trans (List.length_filter_le _ _) (Nat.le_of_eq List.length_range)
  · refine Report.get?_foldl_of_last ?_ report
    have hlater : (after.flatMap Act.writes).reverse.find? (·.key = errorKey) = none := by
      rw [List.find?_eq_none]
      intro w hw
      simpa using unwritten_silent (silent_quiet hafter) w (List.mem_reverse.1 hw)
    rw [hwrites, List.reverse_append, List.reverse_cons, List.append_assoc, List.find?_append, hlater]
    simp [Report.Write.key, value]
  · have hrequest : ⟨.plain, noErrors⟩ ∉ request.events name trace := by
      rw [Act.events]
      split <;> simp
    rw [hevents, ← noErrors_mem_errorTexts_iff bs count available]
    simp [noErrors_notMem_events (silent_quiet hbefore), noErrors_notMem_events (silent_quiet hafter), hrequest, texts]

end DriveHealth.Nvme.Exam

namespace DriveHealth.Task

variable {σ : Type}

open Nvme Nvme.Exam

/-- The error log is bounded by what is wanted and by what there is. An examination that is to show it either ends
before it comes to it, or asks for it once: for as many records as are wanted, but no more than the controller
says that it has, or 16 if it did not say. The records of the reply that count an error are shown in their order,
numbered from 0, as lines and as rows of the report, and that there are none is said exactly if there are none. -/
theorem errorLog_bounded (link : Link σ) {s : Nvme.Sections} (hw : 0 < s.errorEntries)
    (hlength : ∀ c state bs, (link.nvme.send c state).1 = .ok bs → bs.length = c.dataLength)
    (state : σ) {r : Recorder} (shown : r.transcript.suppressed = false) :
    let out := (Task.nvme s).runLogged link state r
    let log : List (Nvme.Command × Except Fault (List UInt8)) := out.channel.2
    ∃ es identity rest, out.recorder.transcript.events = r.transcript.events ++ es ∧
      log = (.identifyController, identity) :: rest ∧
      let available := availableErrors identity
      let count := min s.errorEntries available
      1 ≤ count ∧ available ≤ 256 ∧
      ((out.result = none ∧ (∀ x ∈ rest, ∀ length, x.1 ≠ .logPage 0x01 length) ∧ ⟨.plain, noErrors⟩ ∉ es ∧
          out.recorder.report.get? errorKey = r.report.get? errorKey) ∨
        ∃ before reply after, rest = before ++ (.logPage 0x01 (count * 64), reply) :: after ∧
          (∀ x ∈ before ++ after, ∀ length, x.1 ≠ .logPage 0x01 length) ∧
          (∀ e, reply = .error e → ⟨.plain, noErrors⟩ ∉ es ∧
            out.recorder.report.get? errorKey = r.report.get? errorKey) ∧
          ∀ bs, reply = .ok bs → Shows bs count available es out.recorder.report) := by
  intro out log
  let acts : List (Act Nvme.Command (List UInt8)) := (Task.nvme s).acts link state r.tolerance
  let identity := (link.nvme.send .identifyController state).1
  have hlog : log = acts.flatMap Act.exchanges := log_runLogged link state r (.nvme s)
  have hevents : out.recorder.transcript.events =
      r.transcript.events ++ acts.flatMap (Act.events Nvme.Command.name (r.debug.nvme > 0)) := by
    rw [recorder_runLogged, Act.events_performAll _ _ _ shown]
    rfl
  have hreport : out.recorder.report = (acts.flatMap Act.writes).foldl Report.apply r.report := by
    rw [recorder_runLogged, Act.report_performAll]
    rfl
  have hresult : out.result = ((Nvme.Exam.all s).course link.nvme state r.tolerance).result := by
    simp only [out, runLogged]
    rw [Procedure.run_eq_course, Procedure.course_logged]
    rfl
  obtain ⟨success, k, hk, hcourse⟩ := reaches_all hw link.nvme state r.tolerance
  have hacts : acts = .sent .identifyController identity success :: k.acts := congrArg (·.acts) hcourse
  have htold : Quiet (.sent .identifyController identity success) := by simp
  have hcount : requested s.errorEntries (availableErrors identity) =
      min s.errorEntries (availableErrors identity) := by
    have := (availableErrors_range identity).1
    rw [requested]
    omega
  refine ⟨_, identity, k.acts.flatMap Act.exchanges, hevents, by rw [hlog, hacts]; rfl, ?_⟩
  refine ⟨by have := (availableErrors_range identity).1; omega, (availableErrors_range identity).2, ?_⟩
  rw [hcourse] at hresult
  cases hk with
  | unreached hnone hquiet =>
    have hall : ∀ a ∈ acts, Quiet a := hacts ▸ List.forall_mem_cons.2 ⟨htold, hquiet⟩
    refine .inl ⟨hresult.trans hnone, unasked_quiet hquiet, noErrors_notMem_events (silent_quiet hall) _ _, ?_⟩
    rw [hreport, Report.get?_foldl_of_ne (unwritten_silent (silent_quiet hall))]
  | @reached before middle after reply hk hbefore hafter h =>
    rw [hcount] at h
    have hfront : ∀ a ∈ .sent .identifyController identity success :: before, Quiet a :=
      List.forall_mem_cons.2 ⟨htold, hbefore⟩
    refine .inr ⟨before.flatMap Act.exchanges, reply, after.flatMap Act.exchanges, ?_, ?_, ?_, ?_⟩
    · rw [hk, List.flatMap_append, List.flatMap_append, h.exchanges, List.singleton_append]
    · rw [← List.flatMap_append]
      exact unasked_quiet (List.forall_mem_append.2 ⟨hbefore, hafter⟩)
    · rintro e rfl
      have hall : ∀ a ∈ acts, Silent a := by
        simp only [hacts, hk, List.forall_mem_cons, List.forall_mem_append]
        exact ⟨htold.toSilent, silent_quiet hbefore, h.silent, silent_quiet hafter⟩
      exact ⟨noErrors_notMem_events hall _ _, by rw [hreport, Report.get?_foldl_of_ne (unwritten_silent hall)]⟩
    · rintro bs rfl
      cases h with
      | shown _ success' =>
        have hsent : (.logPage 0x01 (min s.errorEntries (availableErrors identity) * 64), .ok bs) ∈
            ((Nvme.Exam.all s).course link.nvme state r.tolerance).acts.flatMap Act.exchanges := by
          simp [hcourse, hk, Act.exchanges]
        obtain ⟨state', hreply⟩ := Procedure.exists_send_of_mem_exchanges hsent
        have hbs : bs.length = 64 * min s.errorEntries (availableErrors identity) := by
          rw [hlength _ state' bs hreply, Nvme.Command.dataLength, Nat.mul_comm]
        have hshows := shows_of_acts hbs hfront hafter (availableErrors identity) success' Nvme.Command.name
          (r.debug.nvme > 0) r.report
        rw [hreport]
        simpa only [hacts, hk, List.cons_append, List.append_assoc] using hshows

end DriveHealth.Task

namespace DriveHealth

/-- A controller that does not say what it is, and sends the first two records of its log. -/
def Link.sendingErrors (page : List UInt8) : Link Unit where
  ata := ⟨fun _ u => (.error (.io "no answer"), u)⟩
  scsi := ⟨fun _ u => (.error (.io "no answer"), u)⟩
  nvme := ⟨fun c u => (if c = .logPage 0x01 128 then .ok page else .error (.io "no answer"), u)⟩

open Nvme Nvme.Exam

theorem Task.errorLog_bounded_twoRecords :
    let page : List UInt8 := List.replicate 64 0 ++ 7 :: List.replicate 63 0
    let link := Link.sendingErrors page
    let r := Recorder.start ⟨1, false⟩ {}
    let out := (Task.nvme { errorEntries := 2 }).runLogged link () r
    (∀ c state bs, (link.nvme.send c state).1 = .ok bs → bs.length = c.dataLength) ∧
      r.transcript.suppressed = false ∧ ErrorEntry.places page 2 = [1] ∧
      ∃ es, out.recorder.transcript.events = es ∧ Shows page 2 16 es out.recorder.report := by
  intro page link r out
  have hlength : ∀ c state bs, (link.nvme.send c state).1 = .ok bs → bs.length = c.dataLength := by
    intro c state bs h
    simp only [link, Link.sendingErrors] at h
    split at h
    · next hc =>
      obtain rfl := Except.ok.inj h
      subst hc
      rfl
    · cases h
  refine ⟨hlength, rfl, by decide +kernel, ?_⟩
  obtain ⟨es, identity, rest, hevents, hlog, -, -, h⟩ :=
    errorLog_bounded link (s := { errorEntries := 2 }) (by decide) hlength () (r := r) rfl
  have hdone : out.result = some () := by decide +kernel
  have hsent : ∀ x : Nvme.Command × Except Fault (List UInt8), x ∈ (.identifyController, identity) :: rest →
      (link.nvme.send x.1 ()).1 = x.2 := by
    intro x hx
    rw [← hlog, log_runLogged] at hx
    obtain ⟨_, hreply⟩ := Procedure.exists_send_of_mem_exchanges hx
    exact hreply
  obtain rfl : .error (.io "no answer") = identity := hsent (.identifyController, identity) List.mem_cons_self
  obtain ⟨hnone, -⟩ | ⟨before, reply, after, rfl, -, -, hshows⟩ := h
  · exact absurd (hdone.symm.trans hnone) (by simp)
  · obtain rfl : .ok page = reply := hsent (.logPage 0x01 128, reply) (by simp [availableErrors, Except.bind])
    exact ⟨es, hevents, hshows page rfl⟩

end DriveHealth
