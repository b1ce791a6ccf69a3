import DriveHealth.Proofs.Ledger
set_option autoImplicit false

/-!
Every section of an examination leaves its ledger as it found it, with nothing owed. The two log
directories are the one exception: they are announced one by one and delivered together.
-/

namespace DriveHealth

open Procedure

@[simp] theorem unheaded_append_append (s t u : String) :
    Unheaded (s ++ t ++ u) ↔ Unheaded (s ++ (t ++ u)) := by
  rw [String.append_assoc]

@[simp] theorem unheaded_column (width n : Nat) : Unheaded (Text.column width n) :=
  (beginsLow_column width n).unheaded

@[simp] theorem unheaded_grouped (n : Nat) : Unheaded (Text.grouped n) :=
  (beginsLow_grouped n).unheaded

@[simp] theorem unheaded_ite (c : Prop) [Decidable c] (s t : String) :
    Unheaded (if c then s else t) ↔ if c then Unheaded s else Unheaded t := by
  split <;> rfl

theorem isTrace_heading {p : Place} {text : String} (h : opens p.heading text = true) :
    isTrace text = false :=
  Opening.opens_unique (.place p) .trace h (by simp)

theorem isUnread_heading {p : Place} {text : String} (h : opens p.heading text = true) :
    isUnread text = false :=
  Opening.opens_unique (.place p) .unread h (by simp)

theorem opens_eq_false_of_verdict (o : Opening) {text : String} {passed : Bool}
    (h : verdict? text = some passed) (ho : o ≠ .overall) (hs : o ≠ .status) :
    opens o.text text = false := by
  cases ht : opens o.text text with
  | false => rfl
  | true =>
    have hv : verdict? text = none :=
      verdict?_eq_none (Opening.opens_unique o .overall ht (Ne.symm ho))
        (Opening.opens_unique o .status ht (Ne.symm hs))
    simp [hv] at h

namespace Ledger

variable {Cmd Reply : Type} {ps : List Place} {l : Ledger} {d u : Bool} {text key field : String}
  {value : Datum} {Q : Ledger → Unit → Prop}

theorem ignores_unheaded (ps : List Place) (l : Ledger) (kind : EventKind) (h : Unheaded text) :
    (monitor ps : Monitor Cmd Reply Ledger).Ignores l (.said kind text) where
  allowed := h.opens .trace
  unmoved := by
    have hu : isUnread text = false := h.opens .unread
    simp [monitor, next, notices_unheaded ps h, hu]

@[simp ↓] theorem watched_print_unheaded (h : Unheaded text) :
    (print text : Procedure Cmd Reply Unit).watched (monitor ps) l Q ↔ Q l () := by
  obtain ⟨ha, hl⟩ : (monitor ps : Monitor Cmd Reply Ledger).Ignores l (.said .plain text) :=
    ignores_unheaded ps l .plain h
  rw [watched_print, hl]
  exact and_iff_right ha

@[simp] theorem watched_forM_map {ι : Type} {is : List ι} {line : ι → String}
    (h : ∀ i, Unheaded (line i)) :
    (forM (is.map line) print : Procedure Cmd Reply Unit).watched (monitor ps) l Q ↔ Q l () := by
  refine watched_forM_print fun text htext => ?_
  obtain ⟨i, -, rfl⟩ := List.mem_map.1 htext
  exact ignores_unheaded ps l .plain (h i)

@[simp] theorem watched_forM_mapIdx {ι : Type} {is : List ι} {line : Nat → ι → String}
    (h : ∀ n i, Unheaded (line n i)) :
    (forM (is.mapIdx line) print : Procedure Cmd Reply Unit).watched (monitor ps) l Q ↔ Q l () := by
  refine watched_forM_print fun text htext => ?_
  obtain ⟨n, hn, rfl⟩ := List.mem_mapIdx.1 htext
  exact ignores_unheaded ps l .plain (h n _)

@[simp] theorem watched_info_unheaded (h : Unheaded text) :
    (info text : Procedure Cmd Reply Unit).watched (monitor ps) l Q ↔ Q l () := by
  obtain ⟨ha, hl⟩ : (monitor ps : Monitor Cmd Reply Ledger).Ignores l (.said .info text) :=
    ignores_unheaded ps l .info h
  rw [watched_info, hl]
  exact and_iff_right ha

@[simp] theorem watched_warn_unheaded (h : Unheaded text) :
    (warn text : Procedure Cmd Reply Unit).watched (monitor ps) l Q ↔ Q l () := by
  obtain ⟨ha, hl⟩ : (monitor ps : Monitor Cmd Reply Ledger).Ignores l (.said .warning text) :=
    ignores_unheaded ps l .warning h
  rw [watched_warn, hl]
  exact and_iff_right ha

@[simp] theorem watched_forM_warn {ι : Type} {is : List ι} {line : ι → String}
    (h : ∀ i, Unheaded (line i)) :
    (forM is fun i => warn (line i) : Procedure Cmd Reply Unit).watched (monitor ps) l Q ↔ Q l () :=
  watched_forM fun i _ => (watched_warn_unheaded (h i)).2 rfl

@[simp] theorem watched_fail_unheaded {c : FailureClass} (h : Unheaded text) :
    (fail c text : Procedure Cmd Reply Unit).watched (monitor ps) ⟨[], d, u⟩ Q ↔
      Q ⟨[], d, false⟩ () := by
  obtain ⟨ha, hl⟩ : (monitor ps : Monitor Cmd Reply Ledger).Ignores ⟨[], d, u⟩ (.said .error text) :=
    ignores_unheaded ps _ .error h
  rw [watched_fail, hl]
  exact ⟨fun hQ => hQ.2.2.2, fun hQ => ⟨ha, .inl rfl, trivial, hQ⟩⟩

@[simp] theorem watched_send {c : Cmd} {Q : Ledger → Except Fault Reply → Prop} :
    (send c : Procedure Cmd Reply _).watched (monitor ps) l Q ↔ ∀ reply, Q l reply := by
  rw [Procedure.watched_send]
  exact forall_congr' fun reply => and_iff_right trivial

/-- The SMART log directory may be given up before the other one is written. -/
theorem watched_fail_unread (h : isUnread text = true)
    (hl : l.owed = [] ∨ l.owed = [.place .gpDirectory]) :
    (fail .optional text : Procedure Cmd Reply Unit).watched (monitor ps) l Q ↔
      Q ⟨l.owed, l.directory, false⟩ () := by
  have ht : isTrace text = false := Opening.opens_unique .unread .trace h (by simp)
  have hnext : next ps l (.said .error text : Act Cmd Reply) = ⟨l.owed, l.directory, true⟩ := by
    simp [next, notices_opening ps (o := .unread) h (.inr rfl), h]
  have hstop : MayStop ⟨l.owed, l.directory, true⟩ .optional := hl.imp id fun he => ⟨he, rfl, rfl⟩
  rw [watched_fail]
  show isTrace text = false ∧ MayStop (next ps l (.said .error text : Act Cmd Reply)) .optional ∧ True ∧
    Q (next ps (next ps l (.said .error text : Act Cmd Reply)) (.forgiven .optional : Act Cmd Reply)) () ↔ _
  rw [hnext]
  exact ⟨fun hQ => hQ.2.2.2, fun hQ => ⟨ht, hstop, trivial, hQ⟩⟩

theorem watched_further_heading (p : Place) (h : opens p.heading text = true) :
    (print text : Procedure Cmd Reply Unit).watched (monitor Place.all) l Q ↔
      Q ⟨l.owed ++ [.place p], l.directory, l.unread⟩ () := by
  have hl : next Place.all l (.said .plain text : Act Cmd Reply) =
      ⟨l.owed ++ [.place p], l.directory, l.unread⟩ := by
    simp [next, notices_heading h, isUnread_heading h]
  rw [watched_print]
  show isTrace text = false ∧ Q (next Place.all l (.said .plain text : Act Cmd Reply)) () ↔ _
  rw [hl]
  exact and_iff_right (isTrace_heading h)

theorem watched_heading (p : Place) (h : opens p.heading text = true) :
    (print text : Procedure Cmd Reply Unit).watched (monitor Place.all) ⟨[], d, u⟩ Q ↔
      Q ⟨[.place p], d, u⟩ () :=
  watched_further_heading p h

theorem watched_verdict {passed : Bool} (h : verdict? text = some passed) :
    (print text : Procedure Cmd Reply Unit).watched (monitor ps) ⟨[], d, u⟩ Q ↔
      Q ⟨[.verdict passed], d, u⟩ () := by
  have ht : isTrace text = false := opens_eq_false_of_verdict .trace h (by simp) (by simp)
  have hu : isUnread text = false := opens_eq_false_of_verdict .unread h (by simp) (by simp)
  have hl : next ps ⟨[], d, u⟩ (.said .plain text : Act Cmd Reply) = ⟨[.verdict passed], d, u⟩ := by
    simp [next, notices_verdict ps h, hu]
  rw [watched_print]
  show isTrace text = false ∧ Q (next ps ⟨[], d, u⟩ (.said .plain text : Act Cmd Reply)) () ↔ _
  rw [hl]
  exact and_iff_right ht

/-- A write pays what is owed first, and takes nothing away. -/
theorem watched_record {w : Report.Write} {rest : List Notice} (hk : l.Keeps w)
    (he : l.owed = w.entries ps ++ rest) (hd : w.key ≠ "ata_log_directory") :
    (Procedure.record w (.done ()) : Procedure Cmd Reply Unit).watched (monitor ps) l Q ↔
      Q ⟨rest, l.directory, l.unread⟩ () := by
  have hl : next ps l (.wrote w : Act Cmd Reply) = ⟨rest, l.directory, l.unread⟩ := by
    simp [next, he, hd]
  show (w.entries ps <+: l.owed ∧ l.Keeps w) ∧ Q (next ps l (.wrote w : Act Cmd Reply)) () ↔ _
  rw [hl, he]
  exact and_iff_right ⟨List.prefix_append _ _, hk⟩

theorem watched_set_directory (hl : l.directory = false)
    (he : l.owed = (Report.Write.set "ata_log_directory" value).entries ps) :
    (set "ata_log_directory" value : Procedure Cmd Reply Unit).watched (monitor ps) l Q ↔
      Q ⟨[], true, l.unread⟩ () := by
  have hnext : next ps l (.wrote (.set "ata_log_directory" value) : Act Cmd Reply) =
      ⟨[], true, l.unread⟩ := by
    simp [next, he, Report.Write.key]
  rw [watched_set]
  show ((Report.Write.set "ata_log_directory" value).entries ps <+: l.owed ∧ _) ∧
    Q (next ps l (.wrote (.set "ata_log_directory" value) : Act Cmd Reply)) () ↔ _
  rw [hnext, he]
  exact and_iff_right ⟨List.prefix_refl _, fun _ => ⟨rfl, hl⟩⟩

theorem keeps_set_of_not_mem (h : key ∉ usedKeys) : l.Keeps (.set key value) := fun hs => by
  have : ∀ k ∈ sharedKeys, k ∈ usedKeys := by decide
  exact absurd (this key hs) h

@[simp] theorem watched_set_unused (h : key ∉ usedKeys) :
    (set key value : Procedure Cmd Reply Unit).watched (monitor ps) l Q ↔ Q l () := by
  have hp (p : Place) : p.key ≠ key := fun he =>
    h (List.mem_append_left _ (he ▸ List.mem_map_of_mem p.mem_all))
  have hd : key ≠ "ata_log_directory" := fun he => hp .gpDirectory he.symm
  exact watched_record (keeps_set_of_not_mem h)
    (by simp [Report.Write.entries, Report.Write.places, Report.Write.rating?, hp]) hd

theorem watched_set_place (p : Place) (key : String) (hk : p.key = key) (hf : p.field? = none) :
    (set key value : Procedure Cmd Reply Unit).watched (monitor Place.all) ⟨[.place p], d, u⟩ Q ↔
      Q ⟨[], d, u⟩ () := by
  subst hk
  have hp : (Report.Write.set p.key value).places Place.all = [p] := by
    cases p <;> first | rfl | cases hf
  have hk : p.key ∉ sharedKeys := by cases p <;> first | decide | cases hf
  have hd : p.key ≠ "ata_log_directory" := fun he => hk (by simp [he, sharedKeys])
  exact watched_record (fun hs => absurd hs hk) (by simp [Report.Write.entries, hp, Report.Write.rating?]) hd

theorem watched_setIn_place (p : Place) (key field : String) (hk : p.key = key)
    (hf : p.field? = some field) (hd : key ≠ "ata_log_directory") :
    (setIn key field value : Procedure Cmd Reply Unit).watched (monitor Place.all)
      ⟨[.place p], d, u⟩ Q ↔ Q ⟨[], d, u⟩ () := by
  subst hk
  have hp : (Report.Write.setIn p.key field value).places Place.all = [p] := by
    cases p <;> cases hf <;> rfl
  have hs : p.key ≠ "smart_status" := by cases p <;> decide
  refine watched_record ⟨hd, fun h => absurd h hs⟩ ?_ hd
  cases value <;> simp [Report.Write.entries, hp, Report.Write.rating?, hs]

@[simp] theorem watched_setIn_verdict {passed : Bool} (hps : ∀ p ∈ ps, p.key ≠ "smart_status") :
    (setIn "smart_status" "passed" (.bool passed) : Procedure Cmd Reply Unit).watched (monitor ps)
      ⟨[.verdict passed], d, u⟩ Q ↔ Q ⟨[], d, u⟩ () := by
  have hp : (Report.Write.setIn "smart_status" "passed" (.bool passed)).places ps = [] := by
    simp only [Report.Write.places, List.filter_eq_nil_iff]
    intro p hp
    simp [hps p hp]
  exact watched_record ⟨by decide, fun _ _ => ⟨passed, rfl⟩⟩
    (by simp [Report.Write.entries, hp, Report.Write.rating?]) (by simp [Report.Write.key])

@[simp] theorem watched_setIn_unused (hd : key ≠ "ata_log_directory")
    (hv : key = "smart_status" → field ≠ "passed") :
    (setIn key field value : Procedure Cmd Reply Unit).watched (monitor []) l Q ↔ Q l () := by
  refine watched_record ⟨hd, fun hk hf => absurd hf (hv hk)⟩ ?_ hd
  cases value <;> simp [Report.Write.entries, Report.Write.places, Report.Write.rating?]
  exact fun hk => hv hk

end Ledger

/-- The procedure leaves its ledger as it found it. -/
def Procedure.Settles {Cmd Reply : Type} (ps : List Place) (p : Procedure Cmd Reply Unit) : Prop :=
  ∀ d, p.watched (Ledger.monitor ps) ⟨[], d, false⟩ fun l _ => l = ⟨[], d, false⟩

@[simp ↓] theorem Procedure.Settles.watched_iff {Cmd Reply : Type} {ps : List Place}
    {p : Procedure Cmd Reply Unit} {d : Bool} {Q : Ledger → Unit → Prop} (h : p.Settles ps) :
    p.watched (Ledger.monitor ps) ⟨[], d, false⟩ Q ↔ Q ⟨[], d, false⟩ () :=
  Procedure.watched_iff (h d)

@[simp] theorem Procedure.settles_unsupported {Cmd Reply : Type} {ps : List Place} {what : String}
    (h : Unheaded what) : (unsupported what : Procedure Cmd Reply Unit).Settles ps := fun _ =>
  (Ledger.watched_info_unheaded (h.append _)).2 rfl

end DriveHealth
