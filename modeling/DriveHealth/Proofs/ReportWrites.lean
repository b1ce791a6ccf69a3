import DriveHealth.Proofs.Leaves
import Mathlib.Data.List.Basic
set_option autoImplicit false

/-!
Writes to a report, in any order and over whatever the report holds already. A write goes down a path: it opens the
records and the list on its way, in place of values that are none, and leaves all that stands beside the path. The
last theorem says this of whole sequences of writes, and that the steps of each are all possible.
-/

namespace DriveHealth

namespace Fields

def keys (fs : Fields) : List String := fs.map Prod.fst

/-- `new` is `old` with a value under a key, which it has once if `old` has each key once. -/
structure Wrote (key : String) (value : Datum) (old new : Fields) : Prop where
  self : new.get? key = some value
  others : ∀ other, other ≠ key → new.get? other = old.get? other
  keys : ∀ k, k ∈ new.keys ↔ k = key ∨ k ∈ old.keys
  once : old.keys.Nodup → new.keys.Nodup

theorem keys_cons (k : String) (v : Datum) (fs : Fields) : keys ((k, v) :: fs) = k :: keys fs := rfl

theorem mem_keys_insert (key : String) (value : Datum) (fs : Fields) (k : String) :
    k ∈ (fs.insert key value).keys ↔ k = key ∨ k ∈ fs.keys := by
  induction fs with
  | nil => simp [insert, keys]
  | cons f fs ih =>
    obtain ⟨k', v⟩ := f
    by_cases hk : k' = key
    · simp [insert, keys_cons, hk]
    · rw [insert, if_neg hk, keys_cons, keys_cons, List.mem_cons, List.mem_cons, ih, or_left_comm]

theorem nodup_keys_insert (key : String) (value : Datum) {fs : Fields} (h : fs.keys.Nodup) :
    (fs.insert key value).keys.Nodup := by
  induction fs with
  | nil => simp [insert, keys]
  | cons f fs ih =>
    obtain ⟨k, v⟩ := f
    obtain ⟨hnew, hrest⟩ := List.nodup_cons.1 h
    by_cases hk : k = key
    · rwa [insert, if_pos hk]
    · rw [insert, if_neg hk, keys_cons, List.nodup_cons, mem_keys_insert]
      exact ⟨fun hmem => hmem.elim hk hnew, ih hrest⟩

theorem wrote_insert (key : String) (value : Datum) (fs : Fields) : Wrote key value fs (fs.insert key value) where
  self := get?_insert_self key value fs
  others _ h := get?_insert_of_ne h value fs
  keys := mem_keys_insert key value fs
  once := nodup_keys_insert key value

end Fields

namespace Datum

/-- Puts a value at the end of a path, and what the path leads through where there is nothing of the kind. -/
def put (value : Datum) : List Step → Datum → Datum
  | [], _ => value
  | .field key :: path, d => .record (d.fields.insert key (put value path ((d.fields.get? key).getD .null)))
  | .item index :: path, d =>
    .list ((d.items.rightpad (index + 1) (.record [])).set index (put value path (d.items[index]?.getD .null)))

/-- Two paths go one way for a while, and then to two fields of a record or to two items of a list. -/
def Part : List Step → List Step → Prop
  | .field key :: p, .field other :: q => key = other → Part p q
  | .item index :: p, .item other :: q => index = other → Part p q
  | _, _ => False

theorem getElem?_rightpad {ds : List Datum} {count i : Nat} :
    (ds.rightpad count (.record []))[i]? =
      if i < ds.length then ds[i]? else if i < count then some (.record []) else none := by
  rw [List.rightpad]
  split
  · rw [List.getElem?_append_left (by assumption)]
  · rw [List.getElem?_append_right (by omega), List.getElem?_replicate]
    exact if_congr (by omega) rfl rfl

theorem at?_put_self (value : Datum) (path : List Step) (d : Datum) : (put value path d).at? path = some value := by
  induction path generalizing d with
  | nil => rfl
  | cons step path ih =>
    cases step with
    | field key => simp [put, at?, ih]
    | item index =>
      have hindex : index < (d.items.rightpad (index + 1) (.record [])).length := by
        rw [List.length_rightpad]
        omega
      simp only [put, at?, List.getElem?_set_self hindex, Option.bind_some, ih]

theorem at?_put_of_part {value v : Datum} {p q : List Step} {d : Datum} (h : Part p q) (hv : d.at? q = some v) :
    (put value p d).at? q = some v := by
  induction p generalizing q d with
  | nil => exact False.elim h
  | cons step p ih =>
    match step, q, d with
    | .field key, .field other :: q, .record fs =>
      rw [at?] at hv
      by_cases hk : other = key
      · subst hk
        obtain ⟨inner, hinner, hv⟩ := Option.bind_eq_some_iff.1 hv
        simpa [put, at?, fields, hinner] using ih (h rfl) hv
      · simpa [put, at?, fields, Fields.get?_insert_of_ne hk] using hv
    | .item index, .item other :: q, .list ds =>
      rw [at?] at hv
      obtain ⟨inner, hinner, hrest⟩ := Option.bind_eq_some_iff.1 hv
      have hlt : other < ds.length := (List.getElem?_eq_some_iff.1 hinner).1
      by_cases hi : index = other
      · subst hi
        have hset : index < (ds.rightpad (index + 1) (.record [])).length := by
          rw [List.length_rightpad]
          omega
        simpa only [put, at?, items, List.getElem?_set_self hset, hinner, Option.getD_some, Option.bind_some] using
          ih (h rfl) hrest
      · simp only [put, at?, items, List.getElem?_set_ne hi, getElem?_rightpad, if_pos hlt, hinner,
          Option.bind_some]
        exact hrest
    | .field _, [], _ | .item _, [], _ => exact False.elim h
    | .field _, .item _ :: _, _ => exact False.elim h
    | .item _, .field _ :: _, _ => exact False.elim h
    | .field _, .field _ :: _, .list _ => cases hv
    | .item _, .item _ :: _, .record _ => cases hv

/-- A record that is there is gone on with. In place of anything else there is an empty one. -/
inductive OpensAs : Option Datum → Fields → Prop where
  | record (fs : Fields) : OpensAs (some (.record fs)) fs
  | other {d : Option Datum} (h : ∀ fs, d ≠ some (.record fs)) : OpensAs d []

inductive ListsAs : Option Datum → List Datum → Prop where
  | list (ds : List Datum) : ListsAs (some (.list ds)) ds
  | other {d : Option Datum} (h : ∀ ds, d ≠ some (.list ds)) : ListsAs d []

theorem opensAs_fields (d : Option Datum) : OpensAs d (d.getD .null).fields := by
  match d with
  | some (.record fs) => exact .record fs
  | none | some .null | some (.bool _) | some (.int _) | some (.decimal _ _) | some (.text _) | some (.list _) =>
    exact .other fun fs h => by cases h

theorem listsAs_items (d : Option Datum) : ListsAs d (d.getD .null).items := by
  match d with
  | some (.list ds) => exact .list ds
  | none | some .null | some (.bool _) | some (.int _) | some (.decimal _ _) | some (.text _) | some (.record _) =>
    exact .other fun ds h => by cases h

def FieldWritten (field : String) (value : Datum) (old : Option Datum) (new : Datum) : Prop :=
  ∃ fs fs', OpensAs old fs ∧ new = .record fs' ∧ Fields.Wrote field value fs fs'

/-- A list as long as it was, or just long enough for an index. At the index it has a record with a field written,
everywhere else what it had, and where it had nothing an empty record. -/
def RecordWritten (index : Nat) (field : String) (value : Datum) (old : Option Datum) (new : Datum) : Prop :=
  ∃ ds ds', ListsAs old ds ∧ new = .list ds' ∧ ds'.length = max ds.length (index + 1) ∧
    (∀ i, i ≠ index → i < ds.length → ds'[i]? = ds[i]?) ∧
    (∀ i, i ≠ index → ds.length ≤ i → i < ds'.length → ds'[i]? = some (.record [])) ∧
    ∃ record, ds'[index]? = some record ∧ FieldWritten field value ds[index]? record

theorem fieldWritten_put (field : String) (value : Datum) (old : Option Datum) :
    FieldWritten field value old (put value [.field field] (old.getD .null)) :=
  ⟨_, _, opensAs_fields old, rfl, Fields.wrote_insert field value _⟩

theorem recordWritten_put (index : Nat) (field : String) (value : Datum) (old : Option Datum) :
    RecordWritten index field value old (put value [.item index, .field field] (old.getD .null)) := by
  generalize hds : (old.getD .null).items = ds
  have hlength : (ds.rightpad (index + 1) (.record [])).length = max ds.length (index + 1) := by
    rw [List.length_rightpad, Nat.max_comm]
  refine ⟨ds, _, hds ▸ listsAs_items old, by rw [put, hds], ?_, fun i hi hlt => ?_, fun i hi hle hlt => ?_, _, ?_,
    fieldWritten_put field value ds[index]?⟩
  · rw [List.length_set, hlength]
  · rw [List.getElem?_set_ne hi.symm, getElem?_rightpad, if_pos hlt]
  · rw [List.length_set, hlength] at hlt
    rw [List.getElem?_set_ne hi.symm, getElem?_rightpad, if_neg (by omega), if_pos (by omega)]
  · rw [List.getElem?_set_self (by omega)]

end Datum

namespace Report

/-- The value at the end of a path that begins with a field of the report. -/
def at? (r : Report) (key : String) (path : List Datum.Step) : Option Datum := (r.get? key).bind (Datum.at? path)

/-- One write to a report, which may also go to the record of a device. -/
inductive Use where
  | write (w : Write)
  | setDevice (index : Nat) (field : String) (value : Datum)

namespace Use

def perform : Use → Report → Report
  | .write w, r => r.apply w
  | .setDevice index field value, r => r.setDevice index field value

def key : Use → String
  | .write w => w.key
  | .setDevice _ _ _ => "devices"

def path : Use → List Datum.Step
  | .write (.set _ _) => []
  | .write (.setIn _ field _) => [.field field]
  | .setDevice index field _ => [.item index, .field field]

def value : Use → Datum
  | .write (.set _ value) => value
  | .write (.setIn _ _ value) => value
  | .setDevice _ _ value => value

/-- What a use makes of the value under its key. -/
def Makes : Use → Option Datum → Datum → Prop
  | .write (.set _ value), _, new => new = value
  | .write (.setIn _ field value), old, new => Datum.FieldWritten field value old new
  | .setDevice index field value, old, new => Datum.RecordWritten index field value old new

/-- Whether a use leaves alone what another one wrote. -/
def Spares (w u : Use) : Prop := w.key = u.key → Datum.Part w.path u.path

/-- Where there is no way on. -/
inductive Impasse where
  | notRecord
  | notList
  | noItem
  deriving DecidableEq, Repr

def openRecord (d : Datum) : Except Impasse Fields :=
  let d : Datum := match d with
    | .record fs => .record fs
    | _ => .record []
  match d with
  | .record fs => .ok fs
  | _ => .error .notRecord

def openList (d : Datum) : Except Impasse (List Datum) :=
  let d : Datum := match d with
    | .list ds => .list ds
    | _ => .list []
  match d with
  | .list ds => .ok ds
  | _ => .error .notList

/-- Adds empty records one by one until the list has an item at the index. -/
def grow (index : Nat) (ds : List Datum) : List Datum :=
  if ds.length ≤ index then grow index (ds ++ [.record []]) else ds
termination_by index + 1 - ds.length
decreasing_by
  rw [List.length_append, List.length_singleton]
  omega

/-- A use, step by step: with an impasse wherever a value could be of the wrong kind, or an item missing. -/
def performStepwise : Use → Report → Except Impasse Report
  | .write (.set key value), r => return r.set key value
  | .write (.setIn key field value), r => do
    let fs ← openRecord ((r.get? key).getD (.record []))
    return r.set key (.record (fs.insert field value))
  | .setDevice index field value, r => do
    let ds ← openList ((r.get? "devices").getD (.list []))
    let ds := grow index ds
    match ds[index]? with
    | none => .error .noItem
    | some record =>
      let fs ← openRecord record
      return r.set "devices" (.list (ds.set index (.record (fs.insert field value))))

theorem openRecord_eq (d : Datum) : openRecord d = .ok d.fields := by cases d <;> rfl

theorem openList_eq (d : Datum) : openList d = .ok d.items := by cases d <;> rfl

theorem grow_eq (index : Nat) (ds : List Datum) : grow index ds = ds.rightpad (index + 1) (.record []) := by
  fun_induction grow index ds with
  | case1 ds h ih =>
    have hcount : index + 1 - ds.length = (index + 1 - (ds ++ [Datum.record []]).length) + 1 := by
      rw [List.length_append, List.length_singleton]
      omega
    rw [ih, List.rightpad, List.rightpad, hcount, List.replicate_succ, List.append_assoc, List.singleton_append]
  | case2 ds h =>
    have hcount : index + 1 - ds.length = 0 := by omega
    rw [List.rightpad, hcount, List.replicate_zero, List.append_nil]

theorem performStepwise_eq (u : Use) (r : Report) : u.performStepwise r = .ok (u.perform r) := by
  match u with
  | .write (.set key value) => rfl
  | .write (.setIn key field value) =>
    have hfields : ((r.get? key).getD (.record [])).fields = r.sectionFields key := by
      rw [sectionFields]
      cases r.get? key <;> rfl
    rw [performStepwise, openRecord_eq, hfields]
    rfl
  | .setDevice index field value =>
    have hitems : ((r.get? "devices").getD (.list [])).items = r.devices := by
      rw [devices]
      cases r.get? "devices" <;> rfl
    obtain ⟨record, hrecord, hfields⟩ : ∃ record, (grow index r.devices)[index]? = some record ∧
        record.fields = r.deviceFields index := by
      rw [grow_eq, Datum.getElem?_rightpad, deviceFields]
      by_cases h : index < r.devices.length
      · exact ⟨r.devices[index], by simp [h], by simp [h]⟩
      · exact ⟨.record [], by simp [h], by simp [h, Datum.fields]⟩
    rw [performStepwise, openList_eq, hitems]
    simp only [bind, Except.bind, hrecord, openRecord_eq, hfields]
    rw [grow_eq]
    rfl

variable (u : Use) (r : Report)

theorem perform_eq : u.perform r = r.set u.key (.put u.value u.path ((r.get? u.key).getD .null)) := by
  match u with
  | .write (.set _ _) | .write (.setIn _ _ _) | .setDevice _ _ _ => rfl

theorem get?_perform_self :
    (u.perform r).get? u.key = some (.put u.value u.path ((r.get? u.key).getD .null)) := by
  rw [perform_eq, get?_set_self]

theorem get?_perform_of_ne {key : String} (h : key ≠ u.key) : (u.perform r).get? key = r.get? key := by
  rw [perform_eq, get?_set_of_ne r h]

theorem wrote_perform :
    Fields.Wrote u.key (.put u.value u.path ((r.get? u.key).getD .null)) r.fields (u.perform r).fields := by
  rw [perform_eq]
  exact Fields.wrote_insert u.key _ r.fields

theorem makes_put (old : Option Datum) : u.Makes old (.put u.value u.path (old.getD .null)) := by
  match u with
  | .write (.set _ _) => rfl
  | .write (.setIn _ field value) => exact Datum.fieldWritten_put field value old
  | .setDevice index field value => exact Datum.recordWritten_put index field value old

theorem at?_perform_self : (u.perform r).at? u.key u.path = some u.value := by
  rw [at?, get?_perform_self, Option.bind_some, Datum.at?_put_self]

theorem at?_perform_of_spares {w : Use} (h : w.Spares u) {r : Report} {value : Datum}
    (hvalue : r.at? u.key u.path = some value) : (w.perform r).at? u.key u.path = some value := by
  by_cases hk : u.key = w.key
  · obtain ⟨d, hd, hvalue⟩ := Option.bind_eq_some_iff.1 hvalue
    rw [at?, hk, get?_perform_self, ← hk, hd, Option.getD_some, Option.bind_some]
    exact Datum.at?_put_of_part (h hk.symm) hvalue
  · rwa [at?, get?_perform_of_ne w r hk]

end Use

def play (us : List Use) (r : Report) : Report := us.foldl (fun r u => u.perform r) r

def playStepwise (us : List Use) (r : Report) : Except Use.Impasse Report :=
  us.foldlM (fun r u => u.performStepwise r) r

theorem playStepwise_eq (us : List Use) (r : Report) : playStepwise us r = .ok (play us r) := by
  induction us generalizing r with
  | nil => rfl
  | cons u us ih =>
    rw [playStepwise, List.foldlM_cons, Use.performStepwise_eq]
    exact ih (u.perform r)

theorem play_append (us vs : List Use) (r : Report) : play (us ++ vs) r = play vs (play us r) :=
  List.foldl_append

theorem get?_play_congr (us : List Use) {r r' : Report} {key : String} (h : r.get? key = r'.get? key) :
    (play us r).get? key = (play (us.filter (·.key = key)) r').get? key := by
  induction us generalizing r r' with
  | nil => exact h
  | cons u us ih =>
    by_cases hk : u.key = key
    · subst hk
      rw [List.filter_cons_of_pos (by simp)]
      exact ih (by rw [Use.get?_perform_self, Use.get?_perform_self, h])
    · rw [List.filter_cons_of_neg (by simpa using hk)]
      exact ih (by rw [Use.get?_perform_of_ne u r (Ne.symm hk), h])

theorem at?_play_of_spares {us : List Use} {u : Use} (h : ∀ w ∈ us, w.Spares u) {r : Report} {value : Datum}
    (hvalue : r.at? u.key u.path = some value) : (play us r).at? u.key u.path = some value := by
  induction us generalizing r with
  | nil => exact hvalue
  | cons w us ih =>
    obtain ⟨hw, hus⟩ := List.forall_mem_cons.1 h
    exact ih hus (u.at?_perform_of_spares hw hvalue)

/-- Writes to a report touch only what they are meant for. Whatever the report holds, each step of each write is
possible. A field of the report depends on its own writes alone. Each write changes the value under its own key and
no other, and adds no other key; there it sets the value, or a field of a record, which keeps all its other fields
and takes the place of anything that is no record, or a field of the record at an index of a list, which grows just
as far as it must. And what was written is read back, until a write takes its place. -/
theorem writes_touch_only_their_target (r : Report) (us : List Use) :
    playStepwise us r = .ok (play us r) ∧
    (∀ key, (play us r).get? key = (play (us.filter (·.key = key)) r).get? key) ∧
    ∀ before u after, us = before ++ u :: after →
      (∃ new, Fields.Wrote u.key new (play before r).fields (play (before ++ [u]) r).fields ∧
        u.Makes ((play before r).get? u.key) new) ∧
      ∀ later, later <+: after → (∀ w ∈ later, w.Spares u) →
        (play (before ++ u :: later) r).at? u.key u.path = some u.value := by
  refine ⟨playStepwise_eq us r, fun key => get?_play_congr us rfl, fun before u after _ => ⟨?_, ?_⟩⟩
  · rw [play_append]
    exact ⟨_, u.wrote_perform (play before r), u.makes_put _⟩
  · intro later _ hlater
    rw [play_append]
    exact at?_play_of_spares hlater (u.at?_perform_self (play before r))

theorem writes_touch_only_their_target_backwards :
    let second : Use := .setDevice 1 "name" (.text "/dev/sdb")
    let rest : List Use := [.write (.setIn "smart_status" "passed" (.bool true)), .setDevice 0 "name" (.text "/dev/sda"),
      .setDevice 1 "type" (.text "sat")]
    let us := [.write (.set "devices" (.text "none"))] ++ second :: rest
    (∀ w ∈ rest, w.Spares second) ∧ (play us {}).at? "devices" [.item 1, .field "name"] = some (.text "/dev/sdb") := by
  intro second rest us
  have hspares : ∀ w ∈ rest, w.Spares second := by
    simp [rest, second, Use.Spares, Use.key, Write.key, Use.path, Datum.Part]
  obtain ⟨-, -, huses⟩ := writes_touch_only_their_target {} us
  exact ⟨hspares, (huses _ second rest rfl).2 rest (List.prefix_refl rest) hspares⟩

end Report

end DriveHealth
