import DriveHealth.Proofs.WholeLines
import Mathlib.Data.List.Basic
import Mathlib.Data.List.Induction
set_option autoImplicit false

namespace DriveHealth

namespace Tolerance

/-- Whether a failure is passed over when others came before it. -/
def forgives (t : Tolerance) (earlier : List FailureClass) : FailureClass → Bool
  | .optional => !t.conservative
  | .mandatory => earlier.count .mandatory + 1 ≤ t.permissive

/-- What is left after some failures. -/
def after (t : Tolerance) (cs : List FailureClass) : Tolerance :=
  { t with permissive := t.permissive - min t.permissive (cs.count .mandatory) }

theorem spend_after (t : Tolerance) (earlier : List FailureClass) (c : FailureClass) :
    (t.after earlier).spend c = if t.forgives earlier c then some (t.after (earlier ++ [c])) else none := by
  cases c with
  | optional => cases hc : t.conservative <;> simp [spend, forgives, after, hc]
  | mandatory =>
    by_cases hpaid : earlier.count .mandatory + 1 ≤ t.permissive
    · have hleft : (t.after earlier).permissive ≠ 0 := by
        simp only [after]
        omega
      have hspent : { t.after earlier with permissive := (t.after earlier).permissive - 1 } =
          t.after (earlier ++ [.mandatory]) := by
        simp only [after, List.count_append, List.count_singleton_self, Tolerance.mk.injEq, and_true]
        omega
      rw [spend, if_neg hleft, hspent, forgives, if_pos (decide_eq_true hpaid)]
    · have hempty : (t.after earlier).permissive = 0 := by
        simp only [after]
        omega
      rw [spend, if_pos hempty, forgives, if_neg (by simpa using hpaid)]

theorem after_concat_of_refused {t : Tolerance} {earlier : List FailureClass} {c : FailureClass}
    (h : t.forgives earlier c = false) : t.after (earlier ++ [c]) = t.after earlier := by
  cases c with
  | optional => simp [after]
  | mandatory =>
    have hspent : ¬ earlier.count .mandatory + 1 ≤ t.permissive := of_decide_eq_false h
    simp only [after, List.count_append, List.count_singleton_self, Tolerance.mk.injEq, and_true]
    omega

end Tolerance

namespace FailureClass

/-- The line that a refusal leaves in the text. -/
def line : FailureClass → String
  | .optional => "An optional SMART command failed"
  | .mandatory => "ERROR: A mandatory SMART command failed."

/-- The failures that were answered with no. -/
def refused (cs : List FailureClass) (answers : List Bool) : List FailureClass :=
  (cs.zip answers).flatMap fun (c, go) => if go then [] else [c]

theorem refused_concat {cs : List FailureClass} {answers : List Bool} (h : answers.length = cs.length)
    (c : FailureClass) (go : Bool) :
    refused (cs ++ [c]) (answers ++ [go]) = refused cs answers ++ if go then [] else [c] := by
  rw [refused, List.zip_append h.symm, List.flatMap_append]
  cases go <;> rfl

theorem render_refusal (c : FailureClass) : Event.render [Event.refusal c] = [c.line] := by
  cases c <;> decide +kernel

theorem endsLine_refusal (c : FailureClass) : EndsLine c.refusal := by
  cases c <;> rfl

theorem render_refusals (cs : List FailureClass) : Event.render (cs.map Event.refusal) = cs.map line := by
  induction cs with
  | nil => rfl
  | cons c cs ih =>
    have hwhole : Event.Whole [Event.refusal c] := by
      intro e he
      obtain rfl := List.mem_singleton.1 he
      exact c.endsLine_refusal
    calc Event.render ((c :: cs).map Event.refusal)
        = Event.render [Event.refusal c] ++ Event.render (cs.map Event.refusal) := Event.render_append hwhole _
      _ = (c :: cs).map line := by rw [render_refusal, ih, List.map_cons, List.singleton_append]

end FailureClass

namespace Recorder

/-- Weighs failures one after the other: the answers, and the recorder in the end. -/
def excuseAll : List FailureClass → Recorder → List Bool × Recorder
  | [], r => ([], r)
  | c :: cs, r =>
    let (go, r) := r.excuse c
    let (gos, r) := excuseAll cs r
    (go :: gos, r)

theorem excuseAll_append (cs ds : List FailureClass) (r : Recorder) : excuseAll (cs ++ ds) r =
    ((excuseAll cs r).1 ++ (excuseAll ds (excuseAll cs r).2).1, (excuseAll ds (excuseAll cs r).2).2) := by
  induction cs generalizing r with
  | nil => rfl
  | cons c cs ih => simp only [List.cons_append, excuseAll, ih]

theorem excuseAll_concat (cs : List FailureClass) (c : FailureClass) (r : Recorder) : excuseAll (cs ++ [c]) r =
    ((excuseAll cs r).1 ++ [((excuseAll cs r).2.excuse c).1], ((excuseAll cs r).2.excuse c).2) :=
  excuseAll_append cs [c] r

theorem length_excuseAll (cs : List FailureClass) (r : Recorder) : (excuseAll cs r).1.length = cs.length := by
  induction cs generalizing r with
  | nil => rfl
  | cons c cs ih => exact congrArg (· + 1) (ih _)

theorem excuse_after (t : Tolerance) (earlier : List FailureClass) {r : Recorder} (ht : r.tolerance = t.after earlier)
    (shown : r.transcript.suppressed = false) (c : FailureClass) :
    r.excuse c = (t.forgives earlier c, { r with
      tolerance := t.after (earlier ++ [c])
      transcript := { r.transcript with
        events := r.transcript.events ++ if t.forgives earlier c then [] else [Event.refusal c] } }) := by
  rw [excuse, ht, Tolerance.spend_after]
  cases hgo : t.forgives earlier c with
  | true => simp
  | false =>
    have hemit : r.transcript.emit .error c.refusal =
        { r.transcript with events := r.transcript.events ++ [Event.refusal c] } := by
      cases c <;> simp [Transcript.emit, shown, FailureClass.refusal, Event.refusal]
    simp [emit, hemit, Tolerance.after_concat_of_refused hgo, ← ht]

theorem excuseAll_eq (cs : List FailureClass) {r : Recorder} (shown : r.transcript.suppressed = false) :
    (excuseAll cs r).2 = { r with
      tolerance := r.tolerance.after cs
      transcript := { r.transcript with
        events := r.transcript.events ++ (FailureClass.refused cs (excuseAll cs r).1).map Event.refusal } } := by
  induction cs using List.reverseRecOn with
  | nil => simp [excuseAll, Tolerance.after, FailureClass.refused]
  | append_singleton cs c ih =>
    have hlast := excuse_after r.tolerance cs (congrArg Recorder.tolerance ih)
      ((congrArg (·.transcript.suppressed) ih).trans shown) c
    rw [excuseAll_concat, FailureClass.refused_concat (length_excuseAll cs r), hlast, ih]
    cases r.tolerance.forgives cs c <;> simp

theorem answers_concat {r : Recorder} (shown : r.transcript.suppressed = false) (cs : List FailureClass)
    (c : FailureClass) : (excuseAll (cs ++ [c]) r).1 = (excuseAll cs r).1 ++ [r.tolerance.forgives cs c] := by
  have hlast := excuse_after r.tolerance cs (congrArg Recorder.tolerance (excuseAll_eq cs shown))
    ((congrArg (·.transcript.suppressed) (excuseAll_eq cs shown)).trans shown) c
  rw [excuseAll_concat, hlast]

theorem answer_excuseAll {r : Recorder} (shown : r.transcript.suppressed = false) (before after : List FailureClass)
    (c : FailureClass) :
    (excuseAll (before ++ c :: after) r).1[before.length]? = some (r.tolerance.forgives before c) := by
  rw [List.append_cons, excuseAll_append, answers_concat shown, List.append_assoc,
    List.getElem?_append_right (Nat.le_of_eq (length_excuseAll before r)), length_excuseAll, Nat.sub_self]
  rfl

theorem count_refused {r : Recorder} (shown : r.transcript.suppressed = false) (cs : List FailureClass) :
    (FailureClass.refused cs (excuseAll cs r).1).count .mandatory =
        cs.count .mandatory - r.tolerance.permissive ∧
      (FailureClass.refused cs (excuseAll cs r).1).count .optional =
        if r.tolerance.conservative then cs.count .optional else 0 := by
  induction cs using List.reverseRecOn with
  | nil => simp [FailureClass.refused]
  | append_singleton cs c ih =>
    obtain ⟨hmandatory, hoptional⟩ := ih
    rw [answers_concat shown, FailureClass.refused_concat (length_excuseAll cs r), List.count_append,
      List.count_append, List.count_append, List.count_append, hmandatory, hoptional]
    cases c with
    | optional => cases hc : r.tolerance.conservative <;> simp [Tolerance.forgives, hc]
    | mandatory =>
      by_cases hpaid : cs.count .mandatory + 1 ≤ r.tolerance.permissive
      · simp [Tolerance.forgives, hpaid]
        omega
      · simp [Tolerance.forgives, hpaid]
        omega

inductive Use where
  | excuse (c : FailureClass)
  | emit (kind : EventKind) (text : String)
  | write (w : Report.Write)
  | suppress (on : Bool)
  | drain
  | reset

def Use.perform : Use → Recorder → Recorder
  | .excuse c, r => (r.excuse c).2
  | .emit kind text, r => r.emit kind text
  | .write w, r => r.write w
  | .suppress on, r => r.suppress on
  | .drain, r => r.drain.2
  | .reset, r => r.reset

def play (us : List Use) (r : Recorder) : Recorder := us.foldl (fun r u => u.perform r) r

theorem settled_perform (u : Use) (r : Recorder) :
    (u.perform r).seed = r.seed ∧ (u.perform r).debug = r.debug := by
  cases u with
  | excuse c =>
    rw [Use.perform, Recorder.excuse]
    split <;> exact ⟨rfl, rfl⟩
  | _ => exact ⟨rfl, rfl⟩

theorem settled_play (us : List Use) (r : Recorder) : (play us r).seed = r.seed ∧ (play us r).debug = r.debug := by
  induction us generalizing r with
  | nil => exact ⟨rfl, rfl⟩
  | cons u us ih =>
    obtain ⟨hseed, hdebug⟩ := settled_perform u r
    obtain ⟨hseed', hdebug'⟩ := ih (u.perform r)
    exact ⟨hseed'.trans hseed, hdebug'.trans hdebug⟩

/-- The budget is spent exactly. Whatever failures come, and in whatever order, the k-th mandatory one is passed
over if and only if the budget is k at least, and an optional one if and only if the call is not conservative. Each
mandatory failure takes one from the budget until there is none; each failure that is refused leaves its one line
in the text, in order; and nothing else changes. From whatever state it is reached, a reset brings the first budget
back, and leaves suppression and the debug levels alone. -/
theorem budget_spent_exactly (r : Recorder) (shown : r.transcript.suppressed = false) (cs : List FailureClass) :
    let p := r.tolerance.permissive
    let m := cs.count .mandatory
    let answers := (excuseAll cs r).1
    let last := (excuseAll cs r).2
    let refused := FailureClass.refused cs answers
    answers.length = cs.length ∧
    (∀ before after, cs = before ++ .mandatory :: after →
      answers[before.length]? = some (decide (before.count .mandatory + 1 ≤ p))) ∧
    (∀ before after, cs = before ++ .optional :: after →
      answers[before.length]? = some (!r.tolerance.conservative)) ∧
    last = { r with
      tolerance := { r.tolerance with permissive := p - min p m }
      transcript := { r.transcript with events := r.transcript.events ++ refused.map Event.refusal } } ∧
    refused.count .mandatory = m - p ∧
    refused.count .optional = (if r.tolerance.conservative then cs.count .optional else 0) ∧
    (Text.EndsLine (Event.joined r.transcript.events) →
      last.transcript.lines = r.transcript.lines ++ refused.map FailureClass.line) ∧
    ∀ us, (play us r).reset = { r with
      tolerance := r.seed
      transcript := { events := [], suppressed := (play us r).transcript.suppressed }
      report := {} } := by
  intro p m answers last refused
  obtain ⟨hmandatory, hoptional⟩ := count_refused shown cs
  have hlast := excuseAll_eq cs shown
  refine ⟨length_excuseAll cs r, ?_, ?_, hlast, hmandatory, hoptional, fun hends => ?_, fun us => ?_⟩
  · rintro before after rfl
    exact answer_excuseAll shown before after .mandatory
  · rintro before after rfl
    exact answer_excuseAll shown before after .optional
  · have hevents : last.transcript.events = r.transcript.events ++ refused.map Event.refusal :=
      congrArg (·.transcript.events) hlast
    rw [Transcript.lines, hevents, Event.render_append_of_endsLine hends, FailureClass.render_refusals]
    rfl
  · obtain ⟨hseed, hdebug⟩ := settled_play us r
    simp [reset, Transcript.clear, hseed, hdebug]

theorem budget_spent_exactly_mixed :
    let r := Recorder.start ⟨1, true⟩ {}
    let cs : List FailureClass := [.optional, .mandatory, .mandatory, .optional]
    r.transcript.suppressed = false ∧ (excuseAll cs r).1[1]? = some true ∧ (excuseAll cs r).1[2]? = some false ∧
      (excuseAll cs r).1[3]? = some false ∧ (play [.excuse .mandatory, .suppress true] r).reset.tolerance = ⟨1, true⟩ := by
  intro r cs
  obtain ⟨-, hmandatory, hoptional, -, -, -, -, hreset⟩ := budget_spent_exactly r rfl cs
  refine ⟨rfl, hmandatory [.optional] [.mandatory, .optional] rfl, hmandatory [.optional, .mandatory] [.optional] rfl,
    hoptional [.optional, .mandatory, .mandatory] [] rfl, ?_⟩
  rw [hreset]
  rfl

end Recorder

end DriveHealth
