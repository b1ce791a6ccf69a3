import DriveHealth.Proofs.Bookkeeping
set_option autoImplicit false

namespace DriveHealth

open Procedure Ledger

theorem Scsi.Exceptions.statusText_eq_ok (x : Scsi.Exceptions) : x.statusText = "OK" ↔ x.asc = 0 := by
  have hne (s : String) : "FAILURE PREDICTION (asc=0x" ++ s ≠ "OK" := fun h => by
    simpa using congrArg (fun t : String => t.toList.head?) h
  rw [statusText]
  split
  · simp [*]
  · rename_i hasc
    split
    · simp [hasc]
    split
    · simp [hasc]
    split
    · simp [hasc]
    · simpa [hasc, String.append_assoc] using hne _

theorem Scsi.Exceptions.verdict?_statusText (x : Scsi.Exceptions) :
    verdict? s!"SMART Health Status: {x.statusText}\n" = some x.passed := by
  have hok : s!"SMART Health Status: {x.statusText}\n" = "SMART Health Status: OK\n" ↔
      x.statusText = "OK" := by
    have hsplit : "SMART Health Status: OK\n" = "SMART Health Status: " ++ "OK" ++ "\n" := by simp
    rw [hsplit, toString_text, toString_text, toString_text, String.append_left_inj,
      String.append_right_inj]
  rw [verdict?_status (opens_append (opens_append (by simp [opens, Opening.text]) _) _), passed,
    Option.some.injEq, Bool.eq_iff_iff, beq_iff_eq, beq_iff_eq, hok, statusText_eq_ok]

namespace Scsi.Exam

variable {α : Type} {d : Bool}

theorem watched_read {c : Command} {decode : List UInt8 → Except Fault α} {l : Ledger}
    {Q : Ledger → Except Fault α → Prop} (h : ∀ x, Q l x) :
    (read c decode).watched (monitor []) l Q := by
  rw [read, watched_bind, Ledger.watched_send]
  exact fun reply => h _

@[simp] theorem settles_capacity : capacity.Settles [] := fun d => by
  rw [capacity, watched_bind]
  refine watched_read fun x => ?_
  cases x <;> simp

@[simp] theorem settles_driveInfo (i : Inquiry) : (driveInfo i).Settles [] := fun d => by
  simp [driveInfo]

@[simp] theorem settles_caches (s : Sections) : (caches s).Settles [] := fun d => by
  rw [caches, watched_bind]
  refine watched_read fun x => ?_
  cases x <;> simp

@[simp] theorem settles_health (requests : Nat) : (health requests).Settles [] := fun d => by
  rw [health, watched_bind]
  refine watched_read fun x => ?_
  cases x with
  | error e => simp
  | ok x =>
    simp only []
    rw [watched_bind, watched_print_unheaded (by simp), watched_bind,
      watched_verdict x.verdict?_statusText]
    cases x.temperature <;> simp

theorem settles_unavailable (s : Sections) :
    (forM ((unavailable s).filter (·.1)) fun u => unsupported u.2 : Exam Unit).Settles [] := fun d => by
  have h : ∀ u ∈ unavailable s, Unheaded u.2 := by simp [unavailable]
  exact (watched_forM fun u hu => settles_unsupported (h u (List.mem_filter.1 hu).1) d).2 rfl

theorem watched_inquiry? {Q : Ledger → Option Inquiry → Prop} (h : ∀ i, Q ⟨[], d, false⟩ i) :
    inquiry?.watched (monitor []) ⟨[], d, false⟩ Q := by
  rw [inquiry?, watched_bind]
  refine watched_read fun x => ?_
  cases x <;> simp [h]

theorem watched_all (s : Sections) : (all s).watched (monitor []) {} fun l _ => l.owed = [] := by
  rw [all, watched_bind]
  refine watched_inquiry? fun i => ?_
  cases i <;> simp [settles_unavailable]

end Scsi.Exam

namespace Nvme.Exam

variable {α : Type} {d : Bool}

theorem watched_read {c : Command} {decode : List UInt8 → Except Fault α} {l : Ledger}
    {Q : Ledger → Except Fault α → Prop} (h : ∀ x, Q l x) :
    (read c decode).watched (monitor []) l Q :=
  fun _ => ⟨trivial, h _⟩

@[simp] theorem settles_driveInfo (c : Controller) : (driveInfo c).Settles [] := fun d => by
  simp [driveInfo]

@[simp] theorem settles_capabilities (c : Controller) : (capabilities c).Settles [] := fun d => by
  simp [capabilities]

@[simp] theorem settles_verdict (h : Health) : (verdict h).Settles [] := fun d => by
  have passed : verdict? "SMART overall-health self-assessment test result: PASSED\n" = some true := by
    simp [verdict?, opens]
  have failed : verdict? "SMART overall-health self-assessment test result: FAILED!\n" = some false := by
    simp [verdict?, opens]
  cases hp : h.passed <;> simp [verdict, hp, watched_verdict passed, watched_verdict failed]

@[simp] theorem settles_healthLog (h : Health) : (healthLog h).Settles [] := fun d => by
  simp [healthLog]

@[simp] theorem settles_health (s : Sections) : (health s).Settles [] := fun d => by
  rw [health, watched_bind]
  refine watched_read fun x => ?_
  cases x <;> simp

@[simp] theorem unheaded_errorLine (i : Nat) (e : ErrorEntry) : Unheaded (errorLine i e) := by
  simp [errorLine]

@[simp] theorem unheaded_selfTestLine (i : Nat) (t : SelfTest) : Unheaded (selfTestLine i t) := by
  simp [selfTestLine]

@[simp] theorem settles_errorLog (wanted : Nat) (c : Option Controller) : (errorLog wanted c).Settles [] := fun d => by
  simp only [errorLog]
  rw [watched_bind, Ledger.watched_send]
  intro reply
  cases reply <;> simp [showErrors, errorTitles, noErrors, errorKey]

@[simp] theorem settles_selfTestLog (c : Option Controller) : (selfTestLog c).Settles [] := fun d => by
  rw [selfTestLog, watched_ite]
  split
  · simp
  · rw [watched_bind]
    refine watched_read fun x => ?_
    cases x <;> simp

@[simp] theorem settles_identitySections (s : Sections) (c : Controller) :
    (identitySections s c).Settles [] := fun d => by
  simp [identitySections]

theorem watched_controller? {Q : Ledger → Option Controller → Prop} (h : ∀ c, Q ⟨[], d, false⟩ c) :
    controller?.watched (monitor []) ⟨[], d, false⟩ Q := by
  rw [controller?, watched_bind]
  refine watched_read fun x => ?_
  cases x <;> simp [h]

theorem watched_all (s : Sections) : (all s).watched (monitor []) {} fun l _ => l.owed = [] := by
  simp only [all, watched_ite]
  split
  · rw [watched_bind]
    refine watched_controller? fun c => ?_
    cases c <;> simp
  · simp

end Nvme.Exam

end DriveHealth
