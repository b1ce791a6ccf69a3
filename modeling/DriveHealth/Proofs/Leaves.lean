import DriveHealth.Report
set_option autoImplicit false

namespace DriveHealth

namespace Datum

inductive Step where
  | field (key : String)
  | item (index : Nat)
  deriving DecidableEq, Repr

/-- The value at the end of a path. -/
def at? : List Step → Datum → Option Datum
  | [], d => some d
  | .field key :: path, .record fs => (Fields.get? fs key).bind (at? path)
  | .item index :: path, .list ds => ds[index]?.bind (at? path)
  | _ :: _, _ => none

/-- A value with nothing inside. -/
def IsLeaf : Datum → Prop
  | .list items => items = []
  | .record fields => fields = []
  | _ => True

inductive LeafAt : Datum → List Step → Datum → Prop where
  | here {leaf : Datum} (h : leaf.IsLeaf) : LeafAt leaf [] leaf
  | field {fs : Fields} {key : String} {d leaf : Datum} {path : List Step} (hd : fs.get? key = some d)
    (h : LeafAt d path leaf) : LeafAt (.record fs) (.field key :: path) leaf
  | item {ds : List Datum} {index : Nat} {d leaf : Datum} {path : List Step} (hd : ds[index]? = some d)
    (h : LeafAt d path leaf) : LeafAt (.list ds) (.item index :: path) leaf

theorem LeafAt.record_inv {fs : Fields} {path : List Step} {leaf : Datum}
    (h : LeafAt (.record fs) path leaf) :
    fs = [] ∨ ∃ key d rest, path = .field key :: rest ∧ fs.get? key = some d ∧ d.LeafAt rest leaf := by
  cases h with
  | here h => exact .inl h
  | field hd h => exact .inr ⟨_, _, _, rfl, hd, h⟩

theorem LeafAt.field_inv {d leaf : Datum} {key : String} {path : List Step}
    (h : d.LeafAt (.field key :: path) leaf) :
    ∃ d', d.fields.get? key = some d' ∧ d'.LeafAt path leaf := by
  cases h with
  | field hd h => exact ⟨_, hd, h⟩

end Datum

theorem Fields.insert_ne_nil (key : String) (value : Datum) (fs : Fields) : fs.insert key value ≠ [] := by
  cases fs with
  | nil => simp [Fields.insert]
  | cons f fs =>
    rw [Fields.insert]
    split <;> simp

theorem Fields.mem_of_get? {fs : Fields} {key : String} {value : Datum} (h : fs.get? key = some value) :
    (key, value) ∈ fs := by
  obtain ⟨before, after, rfl, -⟩ := List.lookup_eq_some_iff.1 h
  simp

theorem Fields.exists_get? {fs : Fields} (h : fs ≠ []) : ∃ key value, fs.get? key = some value := by
  cases fs with
  | nil => exact absurd rfl h
  | cons f fs =>
    obtain ⟨key, value⟩ := f
    exact ⟨key, value, by simp [Fields.get?]⟩

theorem Fields.get?_append_mono {fs fs' gs gs' : Fields} (hf : fs = [] ∨ fs = fs') (hg : gs = [] ∨ gs = gs')
    (hne : ∀ key value, gs'.get? key = some value → fs'.get? key = none) {key : String} {value : Datum}
    (h : Fields.get? (fs ++ gs) key = some value) : Fields.get? (fs' ++ gs') key = some value := by
  simp only [Fields.get?, List.lookup_append, Option.or_eq_some_iff] at h hne ⊢
  obtain h | ⟨-, h⟩ := h
  · obtain rfl | rfl := hf
    · simp at h
    · exact .inl h
  · obtain rfl | rfl := hg
    · simp at h
    · exact .inr ⟨hne key value h, h⟩

namespace Report

/-- The way to a leaf of a report, from the key of one of its fields. -/
def LeafAt (r : Report) (key : String) (path : List Datum.Step) (leaf : Datum) : Prop :=
  ∃ d, r.get? key = some d ∧ d.LeafAt path leaf

inductive Write.LeafAt : Write → String → List Datum.Step → Datum → Prop where
  | set {key : String} {value leaf : Datum} {path : List Datum.Step} (h : value.LeafAt path leaf) :
    LeafAt (.set key value) key path leaf
  | setIn {key field : String} {value leaf : Datum} {path : List Datum.Step} (h : value.LeafAt path leaf) :
    LeafAt (.setIn key field value) key (.field field :: path) leaf

/-- Where a write goes: a field of the report, or a field of a section. -/
def Write.target : Write → String × Option String
  | .set key _ => (key, none)
  | .setIn key field _ => (key, some field)

/-- No write to the one place undoes a write to the other. -/
def Apart (t u : String × Option String) : Prop := t.1 = u.1 → t.2.isSome ∧ u.2.isSome ∧ t.2 ≠ u.2

instance : DecidableRel Apart := fun _ _ => inferInstanceAs (Decidable (_ → _ ∧ _))

variable {r : Report} {w w' : Write} {key : String} {path : List Datum.Step} {leaf : Datum}

theorem leafAt_of_write (h : w.LeafAt key path leaf) : (r.apply w).LeafAt key path leaf := by
  cases h with
  | set h => exact ⟨_, get?_set_self _ _ _, h⟩
  | setIn h => exact ⟨_, get?_set_self _ _ _, .field (Fields.get?_insert_self _ _ _) h⟩

theorem get?_of_sectionFields {field : String} {value : Datum}
    (h : (r.sectionFields key).get? field = some value) :
    r.get? key = some (.record (r.sectionFields key)) := by
  cases hr : r.get? key with
  | none => simp [sectionFields, hr, Datum.fields, Fields.get?] at h
  | some v =>
    cases v with
    | record fs => simp [sectionFields, hr, Datum.fields]
    | _ => simp [sectionFields, hr, Datum.fields, Fields.get?] at h

/-- All leaves of a report were there before the last write or come from it. -/
theorem leafAt_apply (h : (r.apply w).LeafAt key path leaf) :
    w.LeafAt key path leaf ∨ r.LeafAt key path leaf := by
  obtain ⟨d, hd, h⟩ := h
  by_cases hk : key = w.key
  · subst hk
    cases w with
    | set key value =>
      have hvalue : value = d := by simpa [apply, Write.key] using hd
      exact .inl (.set (hvalue ▸ h))
    | setIn key field value =>
      have hvalue : .record ((r.sectionFields key).insert field value) = d := by
        simpa [apply, setIn, Write.key] using hd
      subst hvalue
      obtain hnil | ⟨key', d, rest, rfl, hget, h⟩ := h.record_inv
      · exact absurd hnil (Fields.insert_ne_nil _ _ _)
      · by_cases hf : key' = field
        · subst hf
          rw [Fields.get?_insert_self] at hget
          cases hget
          exact .inl (.setIn h)
        · rw [Fields.get?_insert_of_ne hf] at hget
          exact .inr ⟨_, get?_of_sectionFields hget, .field hget h⟩
  · rw [get?_apply_of_ne r w hk] at hd
    exact .inr ⟨d, hd, h⟩

theorem leafAt_apply_of_apart (hw : w.LeafAt key path leaf) (ha : Apart w.target w'.target)
    (h : r.LeafAt key path leaf) : (r.apply w').LeafAt key path leaf := by
  obtain ⟨d, hd, h⟩ := h
  by_cases hk : key = w'.key
  · -- the places are in one section then, and are two fields of it
    cases hw with
    | set hv =>
      obtain ⟨hsome, -⟩ := ha (by cases w' <;> exact hk)
      exact absurd hsome (by simp [Write.target])
    | setIn hv =>
      obtain ⟨-, hsome, hne⟩ := ha (by cases w' <;> exact hk)
      cases w' with
      | set key' value' => exact absurd hsome (by simp [Write.target])
      | setIn key' field' value' =>
        obtain rfl : key = key' := hk
        obtain ⟨d', hd', h⟩ := h.field_inv
        refine ⟨_, get?_set_self _ _ _, .field ?_ h⟩
        rw [Fields.get?_insert_of_ne (by simpa [Write.target] using hne)]
        simpa [sectionFields, hd] using hd'
  · exact ⟨d, by rw [get?_apply_of_ne r w' hk, hd], h⟩

theorem leafAt_foldl (ws : List Write) (h : (ws.foldl apply r).LeafAt key path leaf) :
    (∃ w ∈ ws, w.LeafAt key path leaf) ∨ r.LeafAt key path leaf := by
  induction ws generalizing r with
  | nil => exact .inr h
  | cons w ws ih =>
    obtain ⟨w', hmem, hw'⟩ | h := ih h
    · exact .inl ⟨w', List.mem_cons_of_mem _ hmem, hw'⟩
    · exact (leafAt_apply h).imp (fun hw => ⟨w, List.mem_cons_self, hw⟩) id

theorem not_leafAt_empty : ¬ ({} : Report).LeafAt key path leaf := by
  rintro ⟨d, hd, -⟩
  simp [get?, Fields.get?] at hd

theorem leafAt_foldl_of_apart (hw : w.LeafAt key path leaf) {ws : List Write}
    (ha : ∀ w' ∈ ws, Apart w.target w'.target) (h : r.LeafAt key path leaf) :
    (ws.foldl apply r).LeafAt key path leaf := by
  induction ws generalizing r with
  | nil => exact h
  | cons w' ws ih =>
    obtain ⟨hw', hws⟩ := List.forall_mem_cons.1 ha
    exact ih hws (leafAt_apply_of_apart hw hw' h)

theorem leafAt_foldl_of_pairwise {ws : List Write} (ha : (ws.map Write.target).Pairwise Apart) (hmem : w ∈ ws)
    (hw : w.LeafAt key path leaf) : (ws.foldl apply r).LeafAt key path leaf := by
  induction ws generalizing r with
  | nil => simp at hmem
  | cons w' ws ih =>
    rw [List.map_cons, List.pairwise_cons] at ha
    rw [List.foldl_cons]
    obtain rfl | hmem := List.mem_cons.1 hmem
    · exact leafAt_foldl_of_apart hw (fun w' hw' => ha.1 _ (List.mem_map_of_mem hw')) (leafAt_of_write hw)
    · exact ih ha.2 hmem

end Report

end DriveHealth
