import DriveHealth.Proofs.Heading
import DriveHealth.Proofs.Monitor
set_option autoImplicit false

/-!
A ledger of what the text has announced and the report has not got yet. As long as every entry is for
the oldest announcement, the text and the report hold the same things in the same order, up to what is
still owed.
-/

namespace DriveHealth

inductive Notice where
  | place (p : Place)
  | verdict (passed : Bool)
  deriving DecidableEq, Repr

/-- What a text announces to a reader who looks out for some places and for verdicts. -/
def notices (ps : List Place) (text : String) : List Notice :=
  (ps.filter fun p => opens p.heading text).map .place ++ ((verdict? text).map .verdict).toList

theorem notices_unheaded (ps : List Place) {text : String} (h : Unheaded text) :
    notices ps text = [] := by
  have hp (p : Place) : opens p.heading text = false := h.opens (.place p)
  simp [notices, hp, verdict?_eq_none (h.opens .overall) (h.opens .status)]

theorem notices_heading {p : Place} {text : String} (h : opens p.heading text = true) :
    notices Place.all text = [.place p] := by
  have hp (q : Place) : opens q.heading text = decide (q = p) := by
    by_cases hq : q = p
    · simp [hq, h]
    · rw [decide_eq_false hq]
      exact Opening.opens_unique (.place p) (.place q) h (by simp [hq])
  have hv : verdict? text = none :=
    verdict?_eq_none (Opening.opens_unique (.place p) .overall h (by simp))
      (Opening.opens_unique (.place p) .status h (by simp))
  simp [notices, hp, hv, Place.filter_all_eq]

theorem notices_verdict (ps : List Place) {text : String} {passed : Bool}
    (h : verdict? text = some passed) : notices ps text = [.verdict passed] := by
  have hp (p : Place) : opens p.heading text = false := by
    cases ho : opens p.heading text with
    | false => rfl
    | true =>
      have hv : verdict? text = none :=
        verdict?_eq_none (Opening.opens_unique (.place p) .overall ho (by simp))
          (Opening.opens_unique (.place p) .status ho (by simp))
      simp [hv] at h
  simp [notices, hp, h]

theorem notices_empty (ps : List Place) : notices ps "" = [] := by
  have hp (p : Place) : opens p.heading "" = false := Opening.opens_empty (.place p)
  simp [notices, hp, verdict?_eq_none (Opening.opens_empty .overall) (Opening.opens_empty .status)]

theorem notices_opening (ps : List Place) {o : Opening} {text : String} (h : opens o.text text = true)
    (ho : o = .trace ∨ o = .unread) : notices ps text = [] := by
  have hne (other : Opening) (hother : other ≠ .trace ∧ other ≠ .unread) : opens other.text text = false :=
    o.opens_unique other h fun he => ho.elim (fun ht => hother.1 (he.trans ht)) fun hu =>
      hother.2 (he.trans hu)
  have hp (p : Place) : opens p.heading text = false := hne (.place p) (by simp)
  simp [notices, hp, verdict?_eq_none (hne .overall (by simp)) (hne .status (by simp))]

/-- The verdict that a write brings into the report. -/
def Report.Write.rating? : Report.Write → Option Bool
  | .setIn key field (.bool passed) =>
    if key = "smart_status" ∧ field = "passed" then some passed else none
  | _ => none

/-- The places that a write brings into the report. -/
def Report.Write.places (ps : List Place) : Report.Write → List Place
  | .set key value => ps.filter fun p =>
    p.key = key && p.field?.all fun field => (value.fields.get? field).isSome
  | .setIn key field _ => ps.filter fun p => p.key = key && p.field?.all (· = field)

def Report.Write.entries (ps : List Place) (w : Report.Write) : List Notice :=
  (w.places ps).map .place ++ (w.rating?.map .verdict).toList

/-- The keys of more than one entry. -/
def sharedKeys : List String :=
  ["ata_log_directory", "ata_smart_error_log", "ata_smart_self_test_log", "smart_status"]

def usedKeys : List String := Place.all.map Place.key ++ ["smart_status"]

@[simp] theorem usedKeys_eq : usedKeys = ["ata_log_directory", "ata_log_directory", "ata_smart_error_log",
    "ata_smart_error_log", "ata_smart_self_test_log", "ata_smart_self_test_log", "ata_smart_attributes",
    "ata_smart_data", "ata_smart_selective_self_test_log", "temperature", "ata_device_statistics",
    "ata_pending_defects_log", "sata_phy_event_counters", "smart_status"] := rfl

structure Ledger where
  /-- What the report has not got yet, oldest first. -/
  owed : List Notice := []
  /-- The report has got its log directory. -/
  directory : Bool := false
  /-- The text tells that the SMART log directory is lost. -/
  unread : Bool := false
  deriving DecidableEq, Repr

namespace Ledger

/-- A write that takes nothing away. The log directory is the only entry of a shared key that is
written as a whole, and only once. -/
def Keeps (l : Ledger) : Report.Write → Prop
  | .set key _ => key ∈ sharedKeys → key = "ata_log_directory" ∧ l.directory = false
  | .setIn key field value =>
    key ≠ "ata_log_directory" ∧
      (key = "smart_status" → field = "passed" → ∃ passed, value = .bool passed)

/-- Whether a call may be ended here. Between the two log directories it may, although the first one is
still owed. -/
def MayStop (l : Ledger) (c : FailureClass) : Prop :=
  l.owed = [] ∨ l.owed = [.place .gpDirectory] ∧ l.unread = true ∧ c = .optional

variable {Cmd Reply : Type}

def Allows (ps : List Place) (l : Ledger) : Act Cmd Reply → Prop
  | .said _ text => isTrace text = false
  | .wrote w => w.entries ps <+: l.owed ∧ l.Keeps w
  | .refused c => l.MayStop c
  | _ => True

def next (ps : List Place) (l : Ledger) : Act Cmd Reply → Ledger
  | .said _ text =>
    { l with owed := l.owed ++ notices ps text, unread := l.unread || isUnread text }
  | .wrote w =>
    { l with
      owed := l.owed.drop (w.entries ps).length
      directory := l.directory || w.key == "ata_log_directory" }
  | .forgiven _ => { l with unread := false }
  | _ => l

def monitor (ps : List Place) : Monitor Cmd Reply Ledger where
  allows := Allows ps
  after := next ps

end Ledger

namespace Act

variable {Cmd Reply : Type}

def announced (ps : List Place) : Act Cmd Reply → List Notice
  | .said _ text => notices ps text
  | _ => []

def delivered (ps : List Place) : Act Cmd Reply → List Notice
  | .wrote w => w.entries ps
  | _ => []

end Act

namespace Ledger

variable {Cmd Reply : Type} {ps : List Place} {l : Ledger} {acts : List (Act Cmd Reply)}

/-- All that was announced has been delivered in this order, or is owed. -/
theorem announced_eq (h : (monitor ps).Accepts l acts) :
    l.owed ++ acts.flatMap (Act.announced ps) =
      acts.flatMap (Act.delivered ps) ++ ((monitor ps).final l acts).owed := by
  induction acts generalizing l with
  | nil => simp
  | cons a acts ih =>
    have hrest := ih h.2
    simp only [List.flatMap_cons, Monitor.final_cons]
    cases a with
    | said kind text => simpa [Act.announced, Act.delivered, monitor, next] using hrest
    | wrote w =>
      obtain ⟨rest, hrest'⟩ := h.1.1
      have hdrop : l.owed.drop (w.entries ps).length = rest := by simp [← hrest']
      simp only [monitor, next, hdrop] at hrest
      simp only [Act.announced, Act.delivered, List.nil_append, ← hrest', List.append_assoc, hrest]
      simp [monitor, next, hdrop]
    | _ => simpa [Act.announced, Act.delivered, monitor, next] using hrest

theorem unread_final (h : ((monitor ps).final l acts).unread = true) :
    l.unread = true ∨ ∃ kind text, .said kind text ∈ acts ∧ isUnread text = true := by
  induction acts generalizing l with
  | nil => exact .inl h
  | cons a acts ih =>
    obtain hl | ⟨kind, text, hmem, ht⟩ := ih h
    · cases a with
      | said kind text =>
        obtain hl | ht := Bool.or_eq_true_iff.1 hl
        · exact .inl hl
        · exact .inr ⟨kind, text, by simp, ht⟩
      | forgiven c => cases hl
      | _ => exact .inl hl
    · exact .inr ⟨kind, text, by simp [hmem], ht⟩

end Ledger

/-!
What writes do to the places of a report and to its verdict.
-/

namespace Report

theorem sectionFields_set_self (r : Report) (key : String) (value : Datum) :
    (r.set key value).sectionFields key = value.fields := by
  rw [sectionFields, get?_set_self, Option.getD_some]

theorem sectionFields_setIn_self (r : Report) (key field : String) (value : Datum) :
    (r.setIn key field value).sectionFields key = (r.sectionFields key).insert field value :=
  sectionFields_set_self _ _ _

theorem sectionFields_apply_of_ne (r : Report) (w : Write) {other : String} (h : other ≠ w.key) :
    (r.apply w).sectionFields other = r.sectionFields other := by
  rw [sectionFields, get?_apply_of_ne r w h, sectionFields]

theorem has_apply_of_ne (r : Report) (w : Write) {p : Place} (h : p.key ≠ w.key) :
    (r.apply w).has p = r.has p := by
  rw [has, has, get?_apply_of_ne r w h, sectionFields_apply_of_ne r w h]

def passed? (r : Report) : Option Datum := (r.sectionFields "smart_status").get? "passed"

end Report

theorem Place.key_mem_sharedKeys {p : Place} {field : String} (h : p.field? = some field) :
    p.key ∈ sharedKeys := by
  cases p <;> first | decide | cases h

namespace Ledger

variable {Cmd Reply : Type} {ps : List Place} {l : Ledger} {acts : List (Act Cmd Reply)} {r : Report}
  {w : Report.Write} {p : Place}

theorem has_apply (hp : p ∈ ps) (hw : l.Keeps w)
    (hd : l.directory = false → r.get? "ata_log_directory" = none) :
    (r.apply w).has p = true ↔ r.has p = true ∨ p ∈ w.places ps := by
  by_cases hk : p.key = w.key
  · cases w with
    | set key value =>
      have hk : p.key = key := hk
      subst hk
      cases hf : p.field? with
      | none => simp [Report.apply, Report.has, Report.Write.places, hf, hp]
      | some field =>
        -- nothing can be lost, as the log directory is written for the first time
        obtain ⟨hkey, hfirst⟩ := hw (Place.key_mem_sharedKeys hf)
        have hnone : r.has p = false := by
          simp [Report.has, hf, Report.sectionFields, hkey, hd hfirst, Datum.fields, Fields.get?]
        rw [hnone]
        simp [Report.apply, Report.has, Report.Write.places, hf, hp, Report.sectionFields_set_self]
    | setIn key field value =>
      have hk : p.key = key := hk
      subst hk
      cases hf : p.field? with
      | none => simp [Report.apply, Report.setIn, Report.has, Report.Write.places, hf, hp]
      | some field' =>
        by_cases he : field' = field
        · subst he
          simp [Report.apply, Report.has, Report.Write.places, hf, hp,
            Report.sectionFields_setIn_self]
        · simp [Report.apply, Report.has, Report.Write.places, hf, he,
            Report.sectionFields_setIn_self, Fields.get?_insert_of_ne he]
  · have hnot : p ∉ w.places ps := by
      cases w <;> simp [Report.Write.places] <;> exact fun _ h => absurd h hk
    rw [Report.has_apply_of_ne r w hk]
    simp [hnot]

/-- The report of an accepted run has a place if it had it before or the run delivered it. -/
theorem has_foldl (hp : p ∈ ps) (h : (monitor ps).Accepts l acts)
    (hd : l.directory = false → r.get? "ata_log_directory" = none) :
    ((acts.flatMap Act.writes).foldl Report.apply r).has p = true ↔
      r.has p = true ∨ .place p ∈ acts.flatMap (Act.delivered ps) := by
  induction acts generalizing l r with
  | nil => simp
  | cons a acts ih =>
    cases a with
    | wrote w =>
      obtain ⟨⟨-, hw⟩, h⟩ := h
      have hd' : (next ps l (.wrote w : Act Cmd Reply)).directory = false →
          (r.apply w).get? "ata_log_directory" = none := by
        intro hfalse
        obtain ⟨hl, hne⟩ := Bool.or_eq_false_iff.1 hfalse
        rw [Report.get?_apply_of_ne r w fun he => by simp [he] at hne]
        exact hd hl
      have hmem : Notice.place p ∈ w.entries ps ↔ p ∈ w.places ps := by simp [Report.Write.entries]
      simp only [List.flatMap_cons, List.foldl_append, List.mem_append, Act.writes, Act.delivered,
        List.foldl_cons, List.foldl_nil, hmem]
      rw [ih h hd', has_apply hp hw hd, or_assoc]
    | _ => exact ih h.2 hd

theorem passed?_apply (hw : l.Keeps w) :
    (r.apply w).passed? = (w.rating?.map Datum.bool).or r.passed? := by
  by_cases hk : w.key = "smart_status"
  · cases w with
    | set key value =>
      have hk : key = "smart_status" := hk
      subst hk
      exact absurd (hw (by decide)).1 (by decide)
    | setIn key field value =>
      have hk : key = "smart_status" := hk
      subst hk
      rw [Report.apply, Report.passed?, Report.sectionFields_setIn_self]
      by_cases hf : field = "passed"
      · subst hf
        obtain ⟨passed, rfl⟩ := hw.2 rfl rfl
        simp [Report.Write.rating?]
      · rw [Fields.get?_insert_of_ne (Ne.symm hf)]
        cases value <;> simp [Report.Write.rating?, hf, Report.passed?]
  · have hnone : w.rating? = none := by
      cases w with
      | set key value => rfl
      | setIn key field value =>
        have hne : key ≠ "smart_status" := hk
        cases value <;> simp [Report.Write.rating?, hne]
    rw [Report.passed?, Report.sectionFields_apply_of_ne r w (Ne.symm hk), hnone]
    rfl

end Ledger

def Notice.verdict? : Notice → Option Bool
  | .verdict passed => some passed
  | .place _ => none

@[simp] theorem Notice.filterMap_verdict?_places (ps : List Place) :
    (ps.map Notice.place).filterMap Notice.verdict? = [] := by
  simp [List.filterMap_map, Function.comp_def, Notice.verdict?]

@[simp] theorem Notice.filterMap_verdict?_verdicts (v : Option Bool) :
    (v.map Notice.verdict).toList.filterMap Notice.verdict? = v.toList := by
  cases v <;> rfl

namespace Ledger

variable {Cmd Reply : Type} {ps : List Place} {l : Ledger} {acts : List (Act Cmd Reply)} {r : Report}

theorem passed?_foldl (h : (monitor ps).Accepts l acts) :
    ((acts.flatMap Act.writes).foldl Report.apply r).passed? =
      (((acts.flatMap (Act.delivered ps)).filterMap Notice.verdict?).getLast?.map Datum.bool).or
        r.passed? := by
  induction acts generalizing l r with
  | nil => rfl
  | cons a acts ih =>
    cases a with
    | wrote w =>
      have hlast : (w.rating?.toList.getLast?) = w.rating? := by cases w.rating? <;> rfl
      simp only [List.flatMap_cons, Act.writes, Act.delivered, List.foldl_append, List.foldl_cons,
        List.foldl_nil, Report.Write.entries, List.filterMap_append, Notice.filterMap_verdict?_places,
        Notice.filterMap_verdict?_verdicts, List.nil_append, List.getLast?_append, hlast]
      rw [ih h.2, passed?_apply h.1.2, ← Option.or_assoc, Option.map_or]
    | _ => exact ih h.2

end Ledger

end DriveHealth
