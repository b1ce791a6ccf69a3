import DriveHealth.Proofs.Checked
import DriveHealth.Proofs.Composition
import DriveHealth.Proofs.Verdict
set_option autoImplicit false

/-!
Where the health verdict of a SCSI device comes from: the log page of informational exceptions. The page and its
first parameter give their own lengths, but only the length of the whole reply and the presence of a temperature
are looked at, so that a verdict may be read where the page has ended already.
-/

namespace DriveHealth

namespace Scsi.Exceptions

/-- The octet at `i` belongs to the page and to its first parameter, by the lengths that these give. -/
def Declares (b : Block 10) (i : Nat) : Prop := i < 4 + b.big 2 2 ∧ i < 8 + b.byte 7

instance (b : Block 10) (i : Nat) : Decidable (Declares b i) := inferInstanceAs (Decidable (_ ∧ _))

theorem declares_sense_iff (b : Block 10) : Declares b 8 ∧ Declares b 9 ↔ 6 ≤ b.big 2 2 ∧ 2 ≤ b.byte 7 := by
  simp only [Declares]
  omega

/-- What is read from a page. -/
structure ReadFrom (b : Block 10) (x : Exceptions) : Prop where
  code : b.byte 0 % 64 = 0x2f
  asc : x.asc = b.byte 8
  ascq : x.ascq = b.byte 9
  temperature : ∀ t, x.temperature = some t ↔
    3 ≤ b.byte 7 ∧ t ≠ 0 ∧ t ≠ 0xff ∧ b.octets[10]?.map UInt8.toNat = some t

theorem temperature_eq_some {b : Block 10} {t : Nat} :
    (do
      let long ← Block.ofOctets? 11 b.octets
      if 3 ≤ long.byte 7 ∧ long.byte 10 ≠ 0 ∧ long.byte 10 ≠ 0xff then some (long.byte 10) else none) = some t ↔
    3 ≤ b.byte 7 ∧ t ≠ 0 ∧ t ≠ 0xff ∧ b.octets[10]?.map UInt8.toNat = some t := by
  obtain ⟨bs, hle⟩ := b
  by_cases hlong : 11 ≤ bs.length
  · obtain ⟨long, rfl⟩ := Checked.exists_block hlong
    have hparameter : (⟨long.octets, hle⟩ : Block 10).byte 7 = long.byte 7 := rfl
    have htemperature : long.octets[10]?.map UInt8.toNat = some (long.byte 10) := by
      rw [List.getElem?_eq_getElem hlong]
      rfl
    rw [hparameter, htemperature, Checked.ofOctets?_octets, Option.bind_eq_bind, Option.bind_some]
    constructor
    · intro h
      split at h
      · rename_i hthere
        obtain rfl := Option.some.inj h
        exact ⟨hthere.1, hthere.2.1, hthere.2.2, rfl⟩
      · cases h
    · rintro ⟨hparameter, hne, hne', htemperature⟩
      obtain rfl := Option.some.inj htemperature
      exact if_pos ⟨hparameter, hne, hne'⟩
  · have hshort : bs.length < 11 := Nat.lt_of_not_le hlong
    have hnone : bs[10]? = none := List.getElem?_eq_none (by omega)
    simp [Checked.ofOctets?_short hshort, hnone]

/-- A page is accepted by its code and by the length of the reply, whatever lengths it gives itself. -/
theorem decode_eq_ok_iff {bs : List UInt8} {x : Exceptions} :
    decode bs = .ok x ↔ ∃ b : Block 10, b.octets = bs ∧ ReadFrom b x := by
  by_cases hlong : 10 ≤ bs.length
  · obtain ⟨b, rfl⟩ := Checked.exists_block hlong
    have hb : ∀ b' : Block 10, b'.octets = b.octets → b' = b := by
      rintro ⟨_, _⟩ rfl
      rfl
    rw [decode, Checked.ofOctets?_octets]
    constructor
    · intro h
      simp only [] at h
      split at h
      · rename_i hcode
        obtain rfl := Except.ok.inj h
        exact ⟨b, rfl, hcode, rfl, rfl, fun t => temperature_eq_some⟩
      · cases h
    · rintro ⟨b', hoctets, h⟩
      obtain rfl := hb b' hoctets
      obtain ⟨asc, ascq, temperature⟩ := x
      have htemperature := Option.ext fun t => (temperature_eq_some (b := b')).trans (h.temperature t).symm
      obtain rfl : asc = b'.byte 8 := h.asc
      obtain rfl : ascq = b'.byte 9 := h.ascq
      simp only [if_pos h.code]
      rw [htemperature]
  · rw [decode, Checked.ofOctets?_short (Nat.lt_of_not_le hlong)]
    constructor
    · intro h
      cases h
    · rintro ⟨b, rfl, -⟩
      exact absurd b.le_length hlong

end Scsi.Exceptions

namespace Scsi.Exam

open Procedure

variable {α β σ : Type}

abbrev healthPage : Command := .exceptions

/-- An act that has nothing to do with the verdict. -/
structure Quiet (a : Act Command (List UInt8)) : Prop where
  silent : a.announced [] = []
  unasked : ∀ x ∈ a.exchanges, x.1 ≠ healthPage

@[simp] theorem quiet_said (kind : EventKind) {text : String} (h : Unheaded text) :
    Quiet (.said kind text) ↔ True :=
  iff_true_intro ⟨notices_unheaded [] h, by simp [Act.exchanges]⟩

@[simp] theorem quiet_wrote (w : Report.Write) : Quiet (.wrote w) ↔ True :=
  iff_true_intro ⟨rfl, by simp [Act.exchanges]⟩

@[simp] theorem quiet_forgiven (c : FailureClass) : Quiet (.forgiven c) ↔ True :=
  iff_true_intro ⟨rfl, by simp [Act.exchanges]⟩

@[simp] theorem quiet_refused (c : FailureClass) : Quiet (.refused c) ↔ True :=
  iff_true_intro ⟨rfl, by simp [Act.exchanges]⟩

theorem quiet_read {c : Command} (hc : c ≠ healthPage) {decode : List UInt8 → Except Fault α}
    {Q : Except Fault α → Prop} (hQ : ∀ x, Q x) : (read c decode).always Quiet Q := by
  intro reply
  exact ⟨⟨rfl, by simpa [Act.exchanges] using hc⟩, hQ _⟩

theorem quiet_inquiry? : inquiry?.always Quiet fun _ => True := by
  rw [inquiry?, always_bind]
  refine quiet_read (by decide) fun x => ?_
  cases x <;> simp

@[simp] theorem quiet_capacity : capacity.always Quiet fun _ => True := by
  rw [capacity, always_bind]
  refine quiet_read (by decide) fun x => ?_
  cases x <;> simp

@[simp] theorem quiet_driveInfo (i : Inquiry) : (driveInfo i).always Quiet fun _ => True := by
  simp [driveInfo]

@[simp] theorem quiet_caches (s : Sections) : (caches s).always Quiet fun _ => True := by
  rw [caches, always_bind]
  refine quiet_read (by decide) fun x => ?_
  cases x <;> simp

theorem quiet_unavailable (s : Sections) :
    (forM ((unavailable s).filter (·.1)) fun u => unsupported u.2 : Exam Unit).always Quiet fun _ => True := by
  have h : ∀ u ∈ unavailable s, Unheaded u.2 := by simp [unavailable]
  rw [always_forM]
  intro u hu
  have hu : Unheaded u.2 := h u (List.mem_filter.1 hu).1
  simp [unsupported, hu]

/-- What an examination makes of the reply that is to hold the verdict. -/
structure Judges (reply : Except Fault (List UInt8)) (acts : List (Act Command (List UInt8))) : Prop where
  asked : ∀ x ∈ acts.flatMap Act.exchanges, x.1 = healthPage → x.2 = reply
  heard : (healthPage, reply) ∈ acts.flatMap Act.exchanges
  accepted : ∀ x, reply.bind Exceptions.decode = .ok x → acts.flatMap (Act.announced []) = [.verdict x.passed]
  rejected : ∀ e, reply.bind Exceptions.decode = .error e → acts.flatMap (Act.announced []) = [] ∧
    .said .error s!"Read Informational Exceptions log page failed: {e.message}\n" ∈ acts

/-- In these acts the verdict is asked for once or not at all. -/
inductive Hearing (acts : List (Act Command (List UInt8))) : Prop where
  | unasked (h : ∀ a ∈ acts, Quiet a)
  | judged {reply : Except Fault (List UInt8)} (h : Judges reply acts)

section

variable {acts rest : List (Act Command (List UInt8))}

theorem announced_quiet (h : ∀ a ∈ acts, Quiet a) : acts.flatMap (Act.announced []) = [] :=
  List.flatMap_eq_nil_iff.2 fun a ha => (h a ha).silent

theorem unasked_quiet (h : ∀ a ∈ acts, Quiet a) : ∀ x ∈ acts.flatMap Act.exchanges, x.1 ≠ healthPage := by
  intro x hx
  obtain ⟨a, ha, hx⟩ := List.mem_flatMap.1 hx
  exact (h a ha).unasked x hx

theorem Judges.amid {reply : Except Fault (List UInt8)} (h : Judges reply acts)
    {before after : List (Act Command (List UInt8))} (hbefore : ∀ a ∈ before, Quiet a)
    (hafter : ∀ a ∈ after, Quiet a) : Judges reply (before ++ acts ++ after) where
  asked x hx hpage := by
    simp only [List.flatMap_append, List.mem_append] at hx
    obtain (hx | hx) | hx := hx
    · exact absurd hpage (unasked_quiet hbefore x hx)
    · exact h.asked x hx hpage
    · exact absurd hpage (unasked_quiet hafter x hx)
  heard := by
    simp only [List.flatMap_append, List.mem_append]
    exact .inl (.inr h.heard)
  accepted x hx := by
    simp [List.flatMap_append, announced_quiet hbefore, announced_quiet hafter, h.accepted x hx]
  rejected e he := by
    obtain ⟨hnone, hmem⟩ := h.rejected e he
    exact ⟨by simp [List.flatMap_append, announced_quiet hbefore, announced_quiet hafter, hnone],
      List.mem_append_left _ (List.mem_append_right _ hmem)⟩

theorem Hearing.before (h : Hearing acts) (hrest : ∀ a ∈ rest, Quiet a) : Hearing (acts ++ rest) := by
  cases h with
  | unasked h => exact .unasked fun a ha => (List.mem_append.1 ha).elim (h a) (hrest a)
  | judged h => exact .judged (by simpa using h.amid (List.forall_mem_nil Quiet) hrest)

theorem Hearing.behind (h : Hearing acts) (hrest : ∀ a ∈ rest, Quiet a) : Hearing (rest ++ acts) := by
  cases h with
  | unasked h => exact .unasked fun a ha => (List.mem_append.1 ha).elim (hrest a) (h a)
  | judged h => exact .judged (by simpa using h.amid hrest (List.forall_mem_nil Quiet))

end

/-- On every drive and under every tolerance, the verdict is asked for once or not at all. -/
def Hears (p : Exam α) : Prop :=
  ∀ (σ : Type) (ch : Channel Command (List UInt8) σ) (s : σ) (t : Tolerance), Hearing (p.course ch s t).acts

theorem hears_of_quiet {p : Exam α} {Q : α → Prop} (h : p.always Quiet Q) : Hears p :=
  fun _ ch s t => .unasked (h.course ch s t).1

theorem Hears.bind {p : Exam α} {g : α → Exam β} (h : Hears p) (hg : ∀ a, (g a).always Quiet fun _ => True) :
    Hears (p >>= g) := by
  intro σ ch s t
  have hbind := course_bind ch p g s t
  generalize (p >>= g).course ch s t = k at hbind
  cases hbind with
  | refused _ => exact h σ ch s t
  | further _ u => exact (h σ ch s t).before ((hg _).course ch _ u).1

theorem hears_bind {p : Exam α} {g : α → Exam β} {Q : α → Prop} (h : p.always Quiet Q)
    (hg : ∀ a, Hears (g a)) : Hears (p >>= g) := by
  intro σ ch s t
  have hbind := course_bind ch p g s t
  generalize (p >>= g).course ch s t = k at hbind
  cases hbind with
  | refused _ => exact .unasked (h.course ch s t).1
  | further _ u => exact (hg _ σ ch _ u).behind (h.course ch s t).1

theorem judges_sent {reply : Except Fault (List UInt8)} {success : Bool}
    {rest : List (Act Command (List UInt8))} (hrest : rest.flatMap Act.exchanges = [])
    (accepted : ∀ x, reply.bind Exceptions.decode = .ok x → rest.flatMap (Act.announced []) = [.verdict x.passed])
    (rejected : ∀ e, reply.bind Exceptions.decode = .error e → rest.flatMap (Act.announced []) = [] ∧
      .said .error s!"Read Informational Exceptions log page failed: {e.message}\n" ∈ rest) :
    Judges reply (.sent healthPage reply success :: rest) where
  asked x hx _ := by
    simp only [List.flatMap_cons, hrest, List.append_nil, Act.exchanges, List.mem_singleton] at hx
    rw [hx]
  heard := by simp [Act.exchanges]
  accepted x hx := accepted x hx
  rejected e he := ⟨(rejected e he).1, List.mem_cons_of_mem _ (rejected e he).2⟩

theorem hears_health (requests : Nat) : Hears (health requests) := by
  intro σ ch s t
  rw [health, course_read_bind, Course.acts_after]
  generalize (ch.send healthPage s).1 = reply
  cases hx : reply.bind Exceptions.decode with
  | error e =>
    have hline : notices [] s!"Read Informational Exceptions log page failed: {e.message}\n" = [] :=
      notices_unheaded [] (by simp)
    simp only [acts_fail]
    refine .judged (judges_sent ?_ (fun x h => by rw [hx] at h; cases h) fun e' h => ?_)
    · cases (t.spend .mandatory).isSome <;> rfl
    · obtain rfl : e = e' := by simpa [hx] using h
      refine ⟨?_, List.mem_cons_self⟩
      cases (t.spend .mandatory).isSome <;> simpa [Act.announced] using hline
  | ok x =>
    have hverdict : notices [] ("SMART Health Status: " ++ x.statusText ++ "\n") = [.verdict x.passed] :=
      notices_verdict [] x.verdict?_statusText
    have hother : ∀ text, Unheaded text → notices [] text = [] := fun text h => notices_unheaded [] h
    simp only [showExceptions]
    refine .judged (judges_sent ?_ (fun x' h => ?_) fun e h => by rw [hx] at h; cases h)
    · exact exchanges_writing (Q := fun _ => True) (by cases x.temperature <;> simp) ch _ t
    · obtain rfl : x = x' := by simpa [hx] using h
      rw [acts_writing (Q := fun _ => True) (by cases x.temperature <;> simp) fun _ => reply]
      by_cases hmore : requests > 1 <;> cases x.temperature <;>
        simp [Act.announced, hmore, hother, hverdict]

theorem hears_all (s : Sections) : Hears (all s) := by
  have hlast := hears_of_quiet (quiet_unavailable s)
  have hverdict : Hears (do
      if s.status then health s.healthRequests
      ((unavailable s).filter (·.1)).forM fun u => unsupported u.2) := by
    cases s.status with
    | false => exact hlast
    | true => exact (hears_health _).bind fun _ => quiet_unavailable s
  have hcaches : Hears (do
      if s.readCache || s.writeCache then caches s
      if s.status then health s.healthRequests
      ((unavailable s).filter (·.1)).forM fun u => unsupported u.2) := by
    cases s.readCache || s.writeCache with
    | false => exact hverdict
    | true => exact hears_bind (quiet_caches s) fun _ => hverdict
  refine hears_bind quiet_inquiry? fun i => ?_
  cases i with
  | none => exact hcaches
  | some i =>
    cases hinfo : s.driveInfo with
    | false => simpa [hinfo] using hcaches
    | true => simpa [hinfo] using hears_bind (quiet_driveInfo i) fun _ => hcaches

end Scsi.Exam

namespace Task

variable {σ : Type}

open Scsi

theorem verdict_of_reply (link : Link σ) (s : Scsi.Sections) (state : σ) {r : Recorder}
    (shown : r.transcript.suppressed = false) :
    let out := (Task.scsi s).runLogged link state r
    let log : List (Scsi.Command × Except Fault (List UInt8)) := out.channel.2
    ∃ es, out.recorder.transcript.events = r.transcript.events ++ es ∧
      ((∀ x ∈ log, x.1 ≠ Exam.healthPage) →
        Event.verdicts es = [] ∧ out.recorder.report.passed? = r.report.passed?) ∧
      ∀ reply, (Exam.healthPage, reply) ∈ log →
        (∀ x, reply.bind Exceptions.decode = .ok x →
          Event.verdicts es = [x.passed] ∧ out.recorder.report.passed? = some (.bool x.passed)) ∧
        ∀ e, reply.bind Exceptions.decode = .error e →
          Event.verdicts es = [] ∧ out.recorder.report.passed? = r.report.passed? ∧
            ⟨.error, s!"Read Informational Exceptions log page failed: {e.message}\n"⟩ ∈ es := by
  intro out log
  let acts : List (Act Scsi.Command (List UInt8)) := (Task.scsi s).acts link state r.tolerance
  let es := acts.flatMap (Act.events Scsi.Command.name (r.debug.scsi > 0))
  have hlog : log = acts.flatMap Act.exchanges := log_runLogged link state r (.scsi s)
  have hevents : out.recorder.transcript.events = r.transcript.events ++ es := by
    rw [recorder_runLogged, Act.events_performAll _ _ _ shown]
    rfl
  have hverdicts : Event.verdicts es = (acts.flatMap (Act.announced [])).filterMap Notice.verdict? :=
    Event.verdicts_flatMap_events [] _ _ _
  have hpassed : out.recorder.report.passed? =
      ((Event.verdicts es).getLast?.map Datum.bool).or r.report.passed? := by
    have hrun := passed?_run link (.scsi s) state r
    rwa [run_eq_runLogged] at hrun
  have hsilent (h : acts.flatMap (Act.announced []) = []) :
      Event.verdicts es = [] ∧ out.recorder.report.passed? = r.report.passed? := by
    have hnone : Event.verdicts es = [] := by rw [hverdicts, h, List.filterMap_nil]
    exact ⟨hnone, by rw [hpassed, hnone]; rfl⟩
  have hhearing : Exam.Hearing acts := Exam.hears_all s σ link.scsi state r.tolerance
  refine ⟨es, hevents, fun hunasked => ?_, fun reply hreply => ?_⟩
  · rw [hlog] at hunasked
    cases hhearing with
    | unasked h => exact hsilent (Exam.announced_quiet h)
    | judged h => exact absurd rfl (hunasked _ h.heard)
  · rw [hlog] at hreply
    have hjudges : Exam.Judges reply acts := by
      cases hhearing with
      | unasked h => exact absurd rfl (Exam.unasked_quiet h _ hreply)
      | judged h =>
        obtain rfl := h.asked _ hreply rfl
        exact h
    refine ⟨fun x hx => ?_, fun e he => ?_⟩
    · have hone : Event.verdicts es = [x.passed] := by
        rw [hverdicts, hjudges.accepted x hx]
        rfl
      exact ⟨hone, by rw [hpassed, hone]; rfl⟩
    · obtain ⟨hnone, hmem⟩ := hjudges.rejected e he
      obtain ⟨hverdict, hreport⟩ := hsilent hnone
      refine ⟨hverdict, hreport, List.mem_flatMap.2 ⟨_, hmem, ?_⟩⟩
      simp [Act.events]

/-- The verdict of a SCSI device is read from the page that it sends, and from nowhere else. The sense codes belong
to the first parameter if the page and the parameter are as long as it takes, which is not asked; a temperature is
only read from a parameter that has it. -/
theorem verdict_read_from_page (link : Link σ) (s : Scsi.Sections) (state : σ) {r : Recorder}
    (shown : r.transcript.suppressed = false) :
    (∀ bs x, Exceptions.decode bs = .ok x ↔ ∃ b : Block 10, b.octets = bs ∧ Exceptions.ReadFrom b x) ∧
    (∀ (b : Block 10) x, Exceptions.ReadFrom b x →
      (Exceptions.Declares b 8 ∧ Exceptions.Declares b 9 ↔ 6 ≤ b.big 2 2 ∧ 2 ≤ b.byte 7) ∧
        ∀ t, x.temperature = some t →
          3 ≤ b.byte 7 ∧ 11 ≤ b.octets.length ∧ (Exceptions.Declares b 10 ↔ 7 ≤ b.big 2 2)) ∧
    let out := (Task.scsi s).runLogged link state r
    let log : List (Scsi.Command × Except Fault (List UInt8)) := out.channel.2
    ∃ es, out.recorder.transcript.events = r.transcript.events ++ es ∧
      ((∀ x ∈ log, x.1 ≠ Exam.healthPage) →
        Event.verdicts es = [] ∧ out.recorder.report.passed? = r.report.passed?) ∧
      ∀ reply, (Exam.healthPage, reply) ∈ log →
        (∀ x, reply.bind Exceptions.decode = .ok x →
          Event.verdicts es = [x.passed] ∧ out.recorder.report.passed? = some (.bool x.passed)) ∧
        ∀ e, reply.bind Exceptions.decode = .error e →
          Event.verdicts es = [] ∧ out.recorder.report.passed? = r.report.passed? ∧
            ⟨.error, s!"Read Informational Exceptions log page failed: {e.message}\n"⟩ ∈ es := by
  refine ⟨fun bs x => Exceptions.decode_eq_ok_iff, fun b x h => ?_, verdict_of_reply link s state shown⟩
  refine ⟨Exceptions.declares_sense_iff b, fun t ht => ?_⟩
  obtain ⟨hparameter, -, -, hthere⟩ := (h.temperature t).1 ht
  refine ⟨hparameter, ?_, ?_⟩
  · obtain ⟨octet, hoctet, -⟩ := Option.map_eq_some_iff.1 hthere
    exact (List.getElem?_eq_some_iff.1 hoctet).1
  · simp only [Exceptions.Declares]
    omega

end Task

def Link.sending (page : List UInt8) : Link Unit where
  ata := ⟨fun _ u => (.error (.io "no answer"), u)⟩
  scsi := ⟨fun c u => (.ok (match c.block with
    | .logSense _ _ => page
    | _ => List.replicate 36 0), u)⟩
  nvme := ⟨fun _ u => (.error (.io "no answer"), u)⟩

namespace Task

open Scsi

theorem verdict_read_from_page_predicting :
    let page : List UInt8 := [0x2f, 0, 0, 8, 0, 0, 3, 4, 0x5d, 0x10, 40, 0]
    let r := Recorder.start ⟨0, false⟩ {}
    let last := ((Task.scsi { status := true }).runLogged (.sending page) () r).recorder
    r.transcript.suppressed = false ∧ Exceptions.decode page = .ok ⟨0x5d, 0x10, some 40⟩ ∧
      last.report.passed? = some (.bool false) := by
  intro page r last
  obtain ⟨-, -, es, -, -, hreply⟩ := verdict_read_from_page (.sending page) { status := true } () (r := r) rfl
  have hsent : (Exam.healthPage, .ok page) ∈
      ((Task.scsi { status := true }).runLogged (.sending page) () r).channel.2 :=
    List.mem_cons_of_mem _ List.mem_cons_self
  exact ⟨rfl, rfl, ((hreply _ hsent).1 ⟨0x5d, 0x10, some 40⟩ rfl).2⟩

/-- A page that ends before its first parameter has no sense codes, and yet the device is said to be in good
health. -/
theorem verdict_of_no_parameter :
    let b : Block 10 := ⟨[0x2f].rightpad 252 0, by decide +kernel⟩
    let last := ((Task.scsi { status := true }).run (.sending b.octets) () (Recorder.start ⟨0, false⟩ {})).recorder
    (¬ Exceptions.Declares b 8 ∧ ¬ Exceptions.Declares b 9) ∧
      Exceptions.decode b.octets = .ok ⟨0, 0, none⟩ ∧
      Event.verdicts last.transcript.events = [true] ∧ last.report.passed? = some (.bool true) := by
  intro b last
  have hverdicts : Event.verdicts last.transcript.events = [true] := by decide +kernel
  have hjudged : last.Judged := judged_run _ _ _ ⟨rfl, rfl⟩
  refine ⟨by decide +kernel, by decide +kernel, hverdicts, ?_⟩
  rw [hjudged.passed, hverdicts]
  rfl

end Task

end DriveHealth
