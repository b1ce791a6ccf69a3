import DriveHealth.Config
import DriveHealth.Proofs.Listing
import Mathlib.Data.List.Forall2
import Mathlib.Data.Nat.Digits.Defs
set_option autoImplicit false

/-!
What the environment may say about a configuration, and what it makes of one. Each variable has a form of its
own: the name of a mode with blanks around it, a word for yes, a list with commas, a decimal number. A
variable that is not set, or names no mode or no level, leaves its setting alone. A list of scan types is
taken over whatever it says, so a configuration that could be used may become one that cannot: that is so
when an entry has a blank inside.
-/

namespace DriveHealth

open Text

def ToleranceMode.IsNamedBy (m : ToleranceMode) (s : String) : Prop :=
  ∃ w, Trimmed w s.toList ∧ w.map Char.toLower = m.name.toList

theorem ToleranceMode.ofName?_eq_some_iff {s : String} {m : ToleranceMode} : ofName? s = some m ↔ m.name = s := by
  constructor
  · intro h
    simpa using List.find?_some h
  · rintro rfl
    exact ofName?_name m

theorem ToleranceMode.parse?_eq_some_iff {s : String} {m : ToleranceMode} : parse? s = some m ↔ m.IsNamedBy s := by
  rw [parse?, ofName?_eq_some_iff, trim, String.toList_ofList]
  constructor
  · intro h
    exact ⟨_, trimmed_stripped s.toList, by rw [h, String.toList_ofList]⟩
  · rintro ⟨w, hw, hname⟩
    rw [stripped_eq hw, hname, String.ofList_toList]

namespace Config

def IsLevel (n : Nat) (s : String) : Prop :=
  n < 256 ∧ ∃ sign digits, s.toList = sign ++ digits ∧ (sign = [] ∨ sign = ['+']) ∧ digits ≠ [] ∧
    (∀ c ∈ digits, c.isDigit = true) ∧
    Nat.ofDigits 10 (digits.reverse.map fun c => c.toNat - '0'.toNat) = n

theorem foldl_min (digits : List Char) (a : Nat) :
    digits.foldl (fun n c => min 256 (10 * n + (c.toNat - '0'.toNat))) (min 256 a) =
      min 256 (digits.foldl (fun n c => 10 * n + (c.toNat - '0'.toNat)) a) := by
  induction digits generalizing a with
  | nil => rfl
  | cons c digits ih =>
    have hstep : min 256 (10 * min 256 a + (c.toNat - '0'.toNat)) = min 256 (10 * a + (c.toNat - '0'.toNat)) := by
      omega
    rw [List.foldl_cons, List.foldl_cons, hstep, ih]

theorem foldl_eq_ofDigits (digits : List Char) :
    digits.foldl (fun n c => 10 * n + (c.toNat - '0'.toNat)) 0 =
      Nat.ofDigits 10 (digits.reverse.map fun c => c.toNat - '0'.toNat) := by
  rw [Nat.ofDigits_eq_foldr, List.foldr_map, List.foldr_reverse]
  simp only [Nat.cast_id, Nat.add_comm]

theorem level_of_digits_eq_some_iff {digits : List Char} {n : Nat} :
    (if digits.isEmpty || !digits.all Char.isDigit then none
      else
        let n := digits.foldl (fun n c => min 256 (10 * n + (c.toNat - '0'.toNat))) 0
        if n < 256 then some n else none) = some n ↔
      n < 256 ∧ digits ≠ [] ∧ (∀ c ∈ digits, c.isDigit = true) ∧
        Nat.ofDigits 10 (digits.reverse.map fun c => c.toNat - '0'.toNat) = n := by
  have hvalue := foldl_min digits 0
  rw [Nat.min_zero, foldl_eq_ofDigits] at hvalue
  rw [hvalue]
  by_cases hform : digits ≠ [] ∧ ∀ c ∈ digits, c.isDigit = true
  · have htest : (digits.isEmpty || !digits.all Char.isDigit) = false := by simpa using hform
    rw [htest]
    simp only [Bool.false_eq_true, if_false, Option.ite_none_right_eq_some, Option.some.injEq]
    constructor
    · rintro ⟨hlt, heq⟩
      exact ⟨by omega, hform.1, hform.2, by omega⟩
    · rintro ⟨hlt, -, -, heq⟩
      omega
  · have htest : (digits.isEmpty || !digits.all Char.isDigit) = true := by
      by_contra hnot
      exact hform (by simpa using hnot)
    rw [htest]
    simp only [if_true, reduceCtorEq, false_iff]
    exact fun ⟨_, hne, hall, _⟩ => hform ⟨hne, hall⟩

theorem debugLevel?_eq_some_iff {s : String} {n : Nat} : debugLevel? s = some n ↔ IsLevel n s := by
  rw [debugLevel?]
  split
  next digits hs =>
    refine level_of_digits_eq_some_iff.trans ⟨?_, ?_⟩
    · rintro ⟨hlt, hne, hall, heq⟩
      exact ⟨hlt, ['+'], digits, hs, .inr rfl, hne, hall, heq⟩
    · rintro ⟨hlt, sign, digits', hs', rfl | rfl, hne, hall, heq⟩
      · -- a plus sign is no digit
        obtain rfl : '+' :: digits = digits' := hs.symm.trans hs'
        have hplus := hall '+' (by simp)
        contradiction
      · obtain rfl : digits = digits' := by simpa [hs] using hs'
        exact ⟨hlt, hne, hall, heq⟩
  next hplus =>
    refine level_of_digits_eq_some_iff.trans ⟨?_, ?_⟩
    · rintro ⟨hlt, hne, hall, heq⟩
      exact ⟨hlt, [], s.toList, rfl, .inl rfl, hne, hall, heq⟩
    · rintro ⟨hlt, sign, digits', hs', rfl | rfl, hne, hall, heq⟩
      · obtain rfl : s.toList = digits' := hs'
        exact ⟨hlt, hne, hall, heq⟩
      · exact absurd hs' (hplus digits')

/-- A list with commas: what stands between them, without the blanks around it, where that leaves
something. -/
def ListsTypes (ts : List String) (s : String) : Prop :=
  ∃ pieces ws, [','].intercalate pieces = s.toList ∧ pieces ≠ [] ∧ (∀ p ∈ pieces, ',' ∉ p) ∧
    List.Forall₂ Trimmed ws pieces ∧ ts.map String.toList = ws.filter (!·.isEmpty)

theorem map_toList_scanTypeList (s : String) :
    (scanTypeList s).map String.toList = ((s.toList.splitOn ',').map (stripped isBlank)).filter (!·.isEmpty) := by
  have hempty (cs : List Char) : (String.ofList cs).isEmpty = cs.isEmpty := by
    rw [Bool.eq_iff_iff, String.isEmpty_iff, List.isEmpty_iff, ← String.toList_eq_nil_iff, String.toList_ofList]
  rw [scanTypeList, List.filter_map, List.filter_map, List.map_map]
  simp [Function.comp_def, hempty]

theorem forall₂_trimmed_iff {ws pieces : List (List Char)} :
    List.Forall₂ Trimmed ws pieces ↔ ws = pieces.map (stripped isBlank) := by
  induction pieces generalizing ws with
  | nil => simp [List.forall₂_nil_right_iff]
  | cons p pieces ih =>
    cases ws with
    | nil => simp
    | cons w ws => rw [List.forall₂_cons, ih, ← stripped_eq_iff, List.map_cons, List.cons.injEq, eq_comm]

theorem scanTypeList_eq_iff {s : String} {ts : List String} : scanTypeList s = ts ↔ ListsTypes ts s := by
  constructor
  · rintro rfl
    exact ⟨_, _, List.intercalate_splitOn ',', List.splitOn_ne_nil _ _, fun _ => notMem_of_mem_splitOn,
      forall₂_trimmed_iff.2 rfl, map_toList_scanTypeList s⟩
  · rintro ⟨pieces, ws, hs, hne, hcomma, hws, hts⟩
    apply List.map_injective_iff.2 fun _ _ => String.toList_injective
    rw [map_toList_scanTypeList, hts, forall₂_trimmed_iff.1 hws, ← hs, List.splitOn_intercalate ',' hcomma hne]

/-- The variables that are set, and what they leave alone. Each setting follows its own variable. -/
structure Overridden (c : Config) (env : Environment) (c' : Config) : Prop where
  tolerance_named (m : ToleranceMode) : (∃ s ∈ env.tolerance, m.IsNamedBy s) → c'.tolerance = m
  tolerance_kept : (∀ s ∈ env.tolerance, ∀ m : ToleranceMode, ¬ m.IsNamedBy s) → c'.tolerance = c.tolerance
  database_set : ∀ s ∈ env.useDefaultDatabase, (c'.useDefaultDatabase = true ↔ s = "true" ∨ s = "1")
  database_kept : env.useDefaultDatabase = none → c'.useDefaultDatabase = c.useDefaultDatabase
  scanTypes_listed : ∀ s ∈ env.scanTypes, ListsTypes c'.scanTypes s
  scanTypes_kept : env.scanTypes = none → c'.scanTypes = c.scanTypes
  debug_level (n : Nat) : (∃ s ∈ env.debug, IsLevel n s) → c'.debug = ⟨n, n, n⟩
  debug_kept : (∀ s ∈ env.debug, ∀ n, ¬ IsLevel n s) → c'.debug = c.debug
  baseline_kept : c'.baseline = c.baseline

theorem overridden (c : Config) (env : Environment) : Overridden c env (c.override env) where
  tolerance_named := by
    rintro m ⟨s, hs, hm⟩
    simp [override, Option.mem_def.1 hs, ToleranceMode.parse?_eq_some_iff.2 hm]
  tolerance_kept h := by
    have hnone : env.tolerance.bind ToleranceMode.parse? = none := by
      rw [Option.bind_eq_none_iff]
      intro s hs
      exact Option.eq_none_iff_forall_ne_some.2 fun m hm => h s hs m (ToleranceMode.parse?_eq_some_iff.1 hm)
    simp [override, hnone]
  database_set := by
    intro s hs
    simp [override, Option.mem_def.1 hs]
  database_kept h := by simp [override, h]
  scanTypes_listed := by
    intro s hs
    rw [← scanTypeList_eq_iff]
    simp [override, Option.mem_def.1 hs]
  scanTypes_kept h := by simp [override, h]
  debug_level := by
    rintro n ⟨s, hs, hn⟩
    simp [override, Option.mem_def.1 hs, debugLevel?_eq_some_iff.2 hn]
  debug_kept h := by
    have hnone : env.debug.bind debugLevel? = none := by
      rw [Option.bind_eq_none_iff]
      intro s hs
      exact Option.eq_none_iff_forall_ne_some.2 fun n hn => h s hs n (debugLevel?_eq_some_iff.1 hn)
    simp [override, hnone]
  baseline_kept := rfl

/-- What is left between commas is no word only for a blank inside. -/
theorem isWord_of_mem_scanTypeList {s t : String} (h : t ∈ scanTypeList s) :
    isWord t = true ↔ ∀ ch ∈ t.toList, isBlank ch = false := by
  have hne : t.isEmpty = false := by
    rw [scanTypeList] at h
    simpa using (List.mem_filter.1 h).2
  simp [isWord, hne]

theorem check_override {c : Config} (hc : c.check = .ok ()) (env : Environment) :
    ((c.override env).check = .ok () ↔
      ∀ s ∈ env.scanTypes, ∀ t ∈ (c.override env).scanTypes, ∀ ch ∈ t.toList, isBlank ch = false) ∧
    ((c.override env).check ≠ .ok () → ∃ front t back, (c.override env).scanTypes = front ++ t :: back ∧
      (∀ u ∈ front, ∀ ch ∈ u.toList, isBlank ch = false) ∧ (∃ ch ∈ t.toList, isBlank ch = true) ∧
      (c.override env).check = .error (.invalidConfig (.scanType t))) := by
  obtain ⟨hwords, hlevels⟩ := check_eq_ok_iff.1 hc
  have hlevels' : levelsInRange (c.override env).baseline.ata = true := hlevels
  cases hs : env.scanTypes with
  | none =>
    have hok : (c.override env).check = .ok () :=
      check_eq_ok_iff.2 ⟨by rwa [(overridden c env).scanTypes_kept hs], hlevels'⟩
    exact ⟨by simp [hok], fun h => absurd hok h⟩
  | some s =>
    have htypes : (c.override env).scanTypes = scanTypeList s := by simp [override, hs]
    have hword (t : String) (ht : t ∈ (c.override env).scanTypes) :
        isWord t = true ↔ ∀ ch ∈ t.toList, isBlank ch = false :=
      isWord_of_mem_scanTypeList (htypes ▸ ht)
    constructor
    · rw [check_eq_ok_iff, and_iff_left hlevels']
      simp only [Option.mem_some_iff, forall_eq']
      exact forall₂_congr hword
    · intro hbad
      rw [check] at hbad ⊢
      cases hfind : (c.override env).scanTypes.find? (!isWord ·) with
      | none => simp [hfind, hlevels'] at hbad
      | some t =>
        obtain ⟨ht, front, back, hsplit, hfront⟩ := List.find?_eq_some_iff_append.1 hfind
        have hblank : ¬ ∀ ch ∈ t.toList, isBlank ch = false := by
          rw [← hword t (by simp [hsplit])]
          simpa using ht
        refine ⟨front, t, back, hsplit, fun u hu => ?_, by simpa using hblank, rfl⟩
        exact (hword u (by simp [hsplit, hu])).1 (by simpa using hfront u hu)

/-- What the environment makes of a configuration that can be used: each setting follows its own variable
and is kept when that is not set or says nothing of use, except that a list of scan types is taken as it is.
The outcome can be used unless an entry of that list has a blank inside. -/
theorem override_usable {c : Config} (hc : c.check = .ok ()) (env : Environment) :
    Overridden c env (c.override env) ∧
    ((c.override env).check = .ok () ↔
      ∀ s ∈ env.scanTypes, ∀ t ∈ (c.override env).scanTypes, ∀ ch ∈ t.toList, isBlank ch = false) ∧
    ((c.override env).check ≠ .ok () → ∃ front t back, (c.override env).scanTypes = front ++ t :: back ∧
      (∀ u ∈ front, ∀ ch ∈ u.toList, isBlank ch = false) ∧ (∃ ch ∈ t.toList, isBlank ch = true) ∧
      (c.override env).check = .error (.invalidConfig (.scanType t))) :=
  ⟨overridden c env, check_override hc env⟩

def mixedEnvironment : Environment where
  tolerance := some " Permissive\t"
  useDefaultDatabase := some "yes"
  scanTypes := some "nvme, , sat auto"
  debug := some "+007"

/-- A mode, a level and two types are taken over, and a word that is no yes turns a setting off. The second
type has a blank inside. -/
theorem override_usable_mixed :
    let c := override {} mixedEnvironment
    ({} : Config).check = .ok () ∧ c.tolerance = .permissive ∧ c.useDefaultDatabase = false ∧
      c.debug = ⟨7, 7, 7⟩ ∧ ListsTypes c.scanTypes "nvme, , sat auto" ∧ c.scanTypes = ["nvme", "sat auto"] ∧
      c.check ≠ .ok () ∧ c.check = .error (.invalidConfig (.scanType "sat auto")) := by
  intro c
  have hdefault : ({} : Config).check = .ok () := by decide
  obtain ⟨hset, husable, -⟩ := override_usable hdefault mixedEnvironment
  have hmode : ToleranceMode.permissive.IsNamedBy " Permissive\t" := ToleranceMode.parse?_eq_some_iff.1 (by decide)
  have hlevel : IsLevel 7 "+007" := debugLevel?_eq_some_iff.1 (by decide)
  have htypes : c.scanTypes = ["nvme", "sat auto"] := by decide
  refine ⟨hdefault, hset.tolerance_named _ ⟨_, rfl, hmode⟩, ?_, hset.debug_level 7 ⟨_, rfl, hlevel⟩,
    hset.scanTypes_listed _ rfl, htypes, fun hok => ?_, by decide⟩
  · simpa using hset.database_set "yes" rfl
  · have hmem : "sat auto" ∈ c.scanTypes := by simp [htypes]
    exact absurd (husable.1 hok _ rfl _ hmem ' ' (by decide)) (by decide)

/-- A blank in place of a comma makes the defaults unusable. -/
theorem override_check_blankForComma :
    ({} : Config).check = .ok () ∧
    (override {} { scanTypes := some "sat auto" }).scanTypes = ["sat auto"] ∧
    (override {} { scanTypes := some "sat auto" }).check = .error (.invalidConfig (.scanType "sat auto")) := by
  decide

end Config

end DriveHealth
