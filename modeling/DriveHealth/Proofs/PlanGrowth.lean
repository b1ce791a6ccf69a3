import DriveHealth.Config.Sections
import Mathlib.Algebra.Group.Nat.Defs
set_option autoImplicit false

namespace DriveHealth

open Config (Codec RecordField)
open Toml (Value)

namespace Plan

/-- A setting of a plan: the part that it belongs to, its key there, and how a document writes it. -/
structure Entry where
  part : String
  key : String
  value : Plan → Value

def Entry.ofFields {S : Type} (part : String) (fields : List (RecordField S)) (get : Plan → S) : List Entry :=
  fields.map fun f => ⟨part, f.key, fun p => f.write (get p)⟩

def entries : List Entry :=
  Entry.ofFields "ata" Ata.Sections.fields (·.ata) ++
    (Entry.ofFields "ata.output_format" Ata.TableFormat.fields (·.ata.format) ++
      (Entry.ofFields "scsi" Scsi.Sections.fields (·.scsi) ++ Entry.ofFields "nvme" Nvme.Sections.fields (·.nvme)))

namespace Entry

variable (e : Entry)

/-- Whether a flag is on; what is no flag never is. -/
def isOn (p : Plan) : Bool :=
  match e.value p with
  | .bool on => on
  | _ => false

/-- The levels of the identity dump are no limits: below zero they mean nothing at all. -/
def isLevel : Bool := e.key == "identify_word_level" || e.key == "identify_bit_level"

def isPresets : Bool := e.part == "ata" && e.key == "ignore_presets"

def isAdded (group : SettingsGroup) : Bool := e.isOn (({} : Plan).settings group)

end Entry

def raised (on : Bool) : Value → Value
  | .bool b => .bool (on || b)
  | v => v

/-- What may become of a value: a flag that is on stays on, and a number other than zero does not become zero. -/
structure Grows (v v' : Value) : Prop where
  flag : v = .bool true → v' = .bool true
  number : ∀ n : Int, v = .int n → n ≠ 0 → ∃ m, v' = .int m ∧ m ≠ 0

theorem Grows.refl (v : Value) : Grows v v := ⟨id, fun n h hn => ⟨n, h, hn⟩⟩

@[simp] theorem grows_bool (b b' : Bool) : Grows (.bool b) (.bool b') ↔ (b = true → b' = true) := by
  constructor
  · intro h hb
    exact Value.bool.inj (h.flag (congrArg Value.bool hb))
  · intro h
    constructor
    · intro hb
      rw [h (Value.bool.inj hb)]
    · intro n hn
      cases hn

@[simp] theorem grows_int (n n' : Int) : Grows (.int n) (.int n') ↔ (n ≠ 0 → n' ≠ 0) := by
  constructor
  · intro h hn
    obtain ⟨m, hm, hne⟩ := h.number n rfl hn
    rwa [Value.int.inj hm]
  · intro h
    constructor
    · intro hb
      cases hb
    · intro m hm hne
      exact ⟨n', rfl, h (by rwa [Value.int.inj hm])⟩

@[simp] theorem grows_ofEntries (es : List (String × Value)) (v : Value) : Grows (.ofEntries es) v := by
  constructor
  · intro h
    cases h
  · intro n h
    cases h

@[simp] theorem write_of {S α : Type} (key : String) (c : Codec α) (get : S → α) (set : S → α → S) (s : S) :
    (RecordField.of key c get set).write s = c.write (get s) := rfl

@[simp] theorem key_of {S α : Type} (key : String) (c : Codec α) (get : S → α) (set : S → α → S) :
    (RecordField.of key c get set).key = key := rfl

@[simp] theorem write_bool (b : Bool) : Codec.bool.write b = .bool b := rfl

@[simp] theorem write_nat (bits n : Nat) : (Codec.nat bits).write n = .int n := rfl

@[simp] theorem write_level (n : Int) : Config.level.write n = .int n := rfl

@[simp] theorem write_record {S : Type} (fields : List (RecordField S)) (start s : S) :
    (Codec.record fields start).write s = .ofEntries (fields.map fun f => (f.key, f.write s)) := rfl

theorem forall_entries {P : Entry → Prop} : (∀ e ∈ entries, P e) ↔
    (∀ f ∈ Ata.Sections.fields, P ⟨"ata", f.key, fun p => f.write p.ata⟩) ∧
    (∀ f ∈ Ata.TableFormat.fields, P ⟨"ata.output_format", f.key, fun p => f.write p.ata.format⟩) ∧
    (∀ f ∈ Scsi.Sections.fields, P ⟨"scsi", f.key, fun p => f.write p.scsi⟩) ∧
    ∀ f ∈ Nvme.Sections.fields, P ⟨"nvme", f.key, fun p => f.write p.nvme⟩ := by
  simp [entries, Entry.ofFields, or_imp, forall_and]

theorem tableFormat_ext {s t : Ata.TableFormat} (h : ∀ f ∈ Ata.TableFormat.fields, f.write s = f.write t) :
    s = t := by
  cases s
  cases t
  simpa [Ata.TableFormat.fields] using h

theorem ataSections_ext {s t : Ata.Sections} (h : ∀ f ∈ Ata.Sections.fields, f.write s = f.write t)
    (hformat : s.format = t.format) : s = t := by
  cases s
  cases t
  simp only [Ata.Sections.fields, List.forall_mem_cons, write_of, write_bool, write_nat, write_level, Value.bool.injEq,
    Value.int.injEq, Int.natCast_inj] at h
  simp only [h, Ata.Sections.mk.injEq, true_and]
  exact hformat

theorem scsiSections_ext {s t : Scsi.Sections} (h : ∀ f ∈ Scsi.Sections.fields, f.write s = f.write t) : s = t := by
  cases s
  cases t
  simpa [Scsi.Sections.fields, Int.natCast_inj] using h

theorem nvmeSections_ext {s t : Nvme.Sections} (h : ∀ f ∈ Nvme.Sections.fields, f.write s = f.write t) : s = t := by
  cases s
  cases t
  simpa [Nvme.Sections.fields, Int.natCast_inj] using h

/-- The entries are all there is to a plan, apart from the protocols. -/
theorem ext_entries {p p' : Plan} (h : ∀ e ∈ entries, e.value p = e.value p') (hprotocols : p.protocols = p'.protocols) :
    p = p' := by
  obtain ⟨hata, hformat, hscsi, hnvme⟩ := forall_entries.1 h
  cases p
  cases p'
  rw [mk.injEq]
  exact ⟨ataSections_ext hata (tableFormat_ext hformat), scsiSections_ext hscsi, nvmeSections_ext hnvme, hprotocols⟩

theorem value_settings (group : SettingsGroup) (p : Plan) : ∀ e ∈ entries,
    e.value (p.settings group) = raised (e.isAdded group) (e.value p) := by
  rw [forall_entries]
  refine ⟨?_, ?_, ?_, ?_⟩ <;> cases group <;>
  · repeat refine List.forall_mem_cons.2 ⟨rfl, ?_⟩
    exact List.forall_mem_nil _

def groups : List SettingsGroup := [.aam, .apm, .dsn, .lookahead, .security, .writeCache, .readCache]

@[simp] theorem raised_false (v : Value) : raised false v = v := by
  cases v <;> simp [raised]

theorem raised_raised (on on' : Bool) (v : Value) : raised on' (raised on v) = raised (on || on') v := by
  cases v <;> simp [raised, Bool.or_comm on, Bool.or_assoc]

theorem value_foldl_settings (gs : List SettingsGroup) (p : Plan) {e : Entry} (he : e ∈ entries) :
    e.value (gs.foldl (fun p g => p.settings g) p) = raised (gs.any e.isAdded) (e.value p) := by
  induction gs generalizing p with
  | nil => simp
  | cons g gs ih => rw [List.foldl_cons, ih, value_settings g p e he, raised_raised, List.any_cons]

theorem any_isAdded : ∀ e ∈ entries, groups.any e.isAdded = e.isAdded .every := by
  decide

theorem protocols_foldl_settings (gs : List SettingsGroup) (p : Plan) :
    (gs.foldl (fun p g => p.settings g) p).protocols = p.protocols := by
  induction gs generalizing p with
  | nil => rfl
  | cons g gs ih => exact ih (p.settings g)

theorem foldl_settings_eq (p : Plan) {gs : List SettingsGroup} (h : ∀ g, g ∈ gs ↔ g ∈ groups) :
    gs.foldl (fun p g => p.settings g) p = p.settings .every := by
  apply ext_entries
  · intro e he
    have hany : gs.any e.isAdded = e.isAdded .every := by
      rw [← any_isAdded e he, Bool.eq_iff_iff]
      simp only [List.any_eq_true, h]
    rw [value_foldl_settings gs p he, value_settings .every p e he, hany]
  · exact protocols_foldl_settings gs p

theorem isOn_settings (g : SettingsGroup) (p : Plan) {e : Entry} (he : e ∈ entries) {on : Bool}
    (hon : e.value p = .bool on) : e.isOn (p.settings g) = (e.isAdded g || on) := by
  rw [Entry.isOn, value_settings g p e he, hon]
  rfl

theorem grows_raised (on : Bool) (v : Value) : Grows v (raised on v) := by
  cases v with
  | bool b =>
    rw [raised, grows_bool, Bool.or_eq_true]
    exact .inr
  | _ => exact .refl _

theorem grows_settings (g : SettingsGroup) (p : Plan) {e : Entry} (he : e ∈ entries) :
    Grows (e.value p) (e.value (p.settings g)) := by
  rw [value_settings g p e he]
  exact grows_raised _ _

theorem health_eq_ok {p p' : Plan} (h : p.health = .ok p') : p.scsi.healthRequests + 1 < 1 <<< 32 ∧ p' = {
    ata := { p.ata with status := true }
    scsi := { p.scsi with status := true, mediaLog := true, healthRequests := p.scsi.healthRequests + 1 }
    nvme := { p.nvme with status := true }
    protocols := p.protocols } := by
  by_cases hfits : p.scsi.healthRequests + 1 < 1 <<< 32
  · rw [health, Checked.add_ok hfits] at h
    exact ⟨hfits, (Except.ok.inj h).symm⟩
  · rw [health, Checked.add, Checked.fit, if_neg hfits] at h
    cases h

theorem grows_plan {b : Baseline} {q : Query} {p : Plan} (h : q.plan b = .ok p) : ∀ e ∈ entries, e.isLevel = false →
    (q = .identity → e.isPresets = false) → Grows (e.value (ofBaseline b)) (e.value p) := by
  cases q with
  | settings g =>
    obtain rfl := Except.ok.inj h
    intro e he _ _
    exact grows_settings g (ofBaseline b) he
  | identity =>
    obtain rfl := Except.ok.inj h
    rw [forall_entries]
    simp [Ata.Sections.fields, Ata.TableFormat.fields, Scsi.Sections.fields, Nvme.Sections.fields,
      identity, ofBaseline, Entry.isLevel, Entry.isPresets]
  | identify mode =>
    obtain rfl := Except.ok.inj h
    rw [forall_entries]
    simp [Ata.Sections.fields, Ata.TableFormat.fields, Scsi.Sections.fields, Nvme.Sections.fields,
      identify, ofBaseline, Entry.isLevel]
  | smartInfo =>
    obtain rfl := Except.ok.inj h
    rw [forall_entries]
    simp [Ata.Sections.fields, Ata.TableFormat.fields, Scsi.Sections.fields, Nvme.Sections.fields,
      smartInfo, nvmeAll, ofBaseline]
  | info =>
    obtain rfl := Except.ok.inj h
    rw [forall_entries]
    simp [Ata.Sections.fields, Ata.TableFormat.fields, Scsi.Sections.fields, Nvme.Sections.fields,
      info, nvmeAll, ofBaseline]
    exact fun _ => .inr
  | health =>
    obtain ⟨-, rfl⟩ := health_eq_ok h
    rw [forall_entries]
    simp [Ata.Sections.fields, Ata.TableFormat.fields, Scsi.Sections.fields, Nvme.Sections.fields, ofBaseline]
    omega

/-- A plan for a query holds all that is always asked for. What else may change is named here. -/
structure OnlyAdds (b : Baseline) (q : Query) (p : Plan) : Prop where
  kept : ∀ e ∈ entries, e.isLevel = false → (q = .identity → e.isPresets = false) →
    Grows (e.value (ofBaseline b)) (e.value p)
  presets : q = .identity → p.ata.ignorePresets = false
  levels : (∀ mode, q ≠ .identify mode) → p.ata.wordLevel = b.ata.wordLevel ∧ p.ata.bitLevel = b.ata.bitLevel
  format : p.ata.format ≠ b.ata.format → q = .info ∧ b.formatChosen = false
  healthRequests : p.scsi.healthRequests = b.scsi.healthRequests + if q = .health then 1 else 0
  fits : p.scsi.healthRequests < 2 ^ 32
  nvme : (∃ mode, q = .identify mode) ∨ (∃ group, q = .settings group) → p.nvme = b.nvme

/-- Each flag of the plan is on if the plan of one of the groups turns it on or leaves it on. The rest is the
baseline's. -/
structure IsUnionOfGroups (b : Baseline) (p : Plan) : Prop where
  flags : ∀ e ∈ entries, ∀ on, e.value (ofBaseline b) = .bool on →
    e.value p = .bool (groups.any fun g => ((Query.settings g).plan b).toOption.any e.isOn)
  rest : ∀ e ∈ entries, (∀ on, e.value (ofBaseline b) ≠ .bool on) → e.value p = e.value (ofBaseline b)
  protocols : p.protocols = (ofBaseline b).protocols

theorem healthRequests_plan {b : Baseline} {q : Query} {p : Plan} (h : q.plan b = .ok p) :
    p.scsi.healthRequests = b.scsi.healthRequests + if q = .health then 1 else 0 := by
  cases q with
  | settings g =>
    obtain rfl := Except.ok.inj h
    cases g <;> rfl
  | health =>
    obtain ⟨-, rfl⟩ := health_eq_ok h
    rfl
  | _ =>
    obtain rfl := Except.ok.inj h
    rfl

theorem format_plan {b : Baseline} {q : Query} {p : Plan} (h : q.plan b = .ok p) (hne : p.ata.format ≠ b.ata.format) :
    q = .info ∧ b.formatChosen = false := by
  cases q with
  | settings g =>
    obtain rfl := Except.ok.inj h
    cases g <;> exact absurd rfl hne
  | info =>
    obtain rfl := Except.ok.inj h
    refine ⟨rfl, ?_⟩
    cases hchosen : b.formatChosen with
    | false => rfl
    | true =>
      exfalso
      apply hne
      simp [info, ofBaseline, hchosen]
  | health =>
    obtain ⟨-, rfl⟩ := health_eq_ok h
    exact absurd rfl hne
  | _ =>
    obtain rfl := Except.ok.inj h
    exact absurd rfl hne

theorem levels_plan {b : Baseline} {q : Query} {p : Plan} (h : q.plan b = .ok p) (hmode : ∀ mode, q ≠ .identify mode) :
    p.ata.wordLevel = b.ata.wordLevel ∧ p.ata.bitLevel = b.ata.bitLevel := by
  cases q with
  | identify mode => exact absurd rfl (hmode mode)
  | settings g =>
    obtain rfl := Except.ok.inj h
    cases g <;> exact ⟨rfl, rfl⟩
  | health =>
    obtain ⟨-, rfl⟩ := health_eq_ok h
    exact ⟨rfl, rfl⟩
  | _ =>
    obtain rfl := Except.ok.inj h
    exact ⟨rfl, rfl⟩

theorem onlyAdds_plan {b : Baseline} (hcount : b.scsi.healthRequests < 2 ^ 32 - 1) {q : Query} {p : Plan}
    (h : q.plan b = .ok p) : OnlyAdds b q p where
  kept := grows_plan h
  presets := by
    rintro rfl
    obtain rfl := Except.ok.inj h
    rfl
  levels := levels_plan h
  format := format_plan h
  healthRequests := healthRequests_plan h
  fits := by
    rw [healthRequests_plan h]
    split <;> omega
  nvme := by
    rintro (⟨mode, rfl⟩ | ⟨g, rfl⟩) <;>
    · obtain rfl := Except.ok.inj h
      rfl

theorem isUnionOfGroups_every (b : Baseline) : IsUnionOfGroups b ((ofBaseline b).settings .every) where
  flags := by
    intro e he on hon
    have hgroup (g : SettingsGroup) : ((Query.settings g).plan b).toOption.any e.isOn = (e.isAdded g || on) :=
      isOn_settings g (ofBaseline b) he hon
    have hany : (groups.any fun g => e.isAdded g || on) = (groups.any e.isAdded || on) := by
      cases on <;> simp [groups]
    rw [value_settings .every _ e he, hon, raised]
    simp only [hgroup, hany, any_isAdded e he]
  rest := by
    intro e he hoff
    rw [value_settings .every _ e he]
    cases hv : e.value (ofBaseline b) with
    | bool on => exact absurd hv (hoff on)
    | _ => rfl
  protocols := rfl

end Plan

/-- A query keeps every section that is always asked for, the presets of an identity query and the levels of a dump
apart. To ask for all settings is to ask for each of the groups, together or one after another in any order. -/
theorem Query.plan_only_adds (b : Baseline) :
    (b.scsi.healthRequests < 2 ^ 32 - 1 → ∀ q : Query, ∃ p, q.plan b = .ok p ∧ Plan.OnlyAdds b q p) ∧
    ∃ all, (Query.settings .every).plan b = .ok all ∧ Plan.IsUnionOfGroups b all ∧
      ∀ gs : List SettingsGroup, (∀ g, g ∈ gs ↔ g ∈ Plan.groups) →
        gs.foldl (fun p g => p.settings g) (Plan.ofBaseline b) = all := by
  refine ⟨fun hcount q => ?_, _, rfl, Plan.isUnionOfGroups_every b, fun _ h => Plan.foldl_settings_eq (Plan.ofBaseline b) h⟩
  have hfits : ¬ q.Overflows b := fun hover => by
    have hle : 2 ^ 32 ≤ b.scsi.healthRequests + 1 := hover.2
    omega
  obtain ⟨p, hp⟩ := exists_plan hfits
  exact ⟨p, hp, Plan.onlyAdds_plan hcount hp⟩

theorem Query.plan_only_adds_backwards :
    let b : Baseline := { ata := { aam := true, extErrorLog := 3 }, scsi := { healthRequests := 7 } }
    (∃ p, Query.health.plan b = .ok p ∧ p.scsi.healthRequests = 8) ∧
    (Plan.entries[25].key = "get_aam" ∧ ∃ p, Query.smartInfo.plan b = .ok p ∧
      Plan.Grows (Plan.entries[25].value (Plan.ofBaseline b)) (Plan.entries[25].value p)) ∧
    (Query.settings .every).plan b =
      .ok (Plan.groups.reverse.foldl (fun p g => p.settings g) (Plan.ofBaseline b)) := by
  intro b
  obtain ⟨hadds, all, hall, -, hgroups⟩ := Query.plan_only_adds b
  obtain ⟨health, hhealth, hcounted⟩ := hadds (by decide) .health
  obtain ⟨smart, hsmart, hgrown⟩ := hadds (by decide) .smartInfo
  refine ⟨⟨health, hhealth, hcounted.healthRequests⟩, ⟨rfl, smart, hsmart, ?_⟩, ?_⟩
  · exact hgrown.kept _ (List.getElem_mem _) (by decide) (by decide)
  · rw [hall, hgroups]
    intro g
    cases g <;> decide

end DriveHealth
