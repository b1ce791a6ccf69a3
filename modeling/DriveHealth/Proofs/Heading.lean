import DriveHealth.Proofs.Always
set_option autoImplicit false

namespace DriveHealth

def opens (beginning text : String) : Bool := beginning.toList.isPrefixOf text.toList

theorem opens_iff {beginning text : String} :
    opens beginning text = true ↔ beginning.toList <+: text.toList := List.isPrefixOf_iff_prefix

theorem opens_trans {s t text : String} (hs : opens s t = true) (ht : opens t text = true) :
    opens s text = true :=
  opens_iff.2 ((opens_iff.1 hs).trans (opens_iff.1 ht))

theorem opens_append {beginning text : String} (h : opens beginning text = true) (rest : String) :
    opens beginning (text ++ rest) = true := by
  rw [opens_iff, String.toList_append]
  exact (opens_iff.1 h).trans (List.prefix_append _ _)

/-- A part of an ATA examination that has a heading in the text and an entry in the report. -/
inductive Place where
  | gpDirectory
  | smartDirectory
  | extErrors
  | summaryErrors
  | extSelfTests
  | selfTests
  | attributes
  | generalValues
  | selective
  | sctTemperatures
  | statistics
  | pendingDefects
  | phyCounters
  deriving DecidableEq, Repr

namespace Place

def all : List Place := [.gpDirectory, .smartDirectory, .extErrors, .summaryErrors, .extSelfTests,
  .selfTests, .attributes, .generalValues, .selective, .sctTemperatures, .statistics, .pendingDefects,
  .phyCounters]

def heading : Place → String
  | .gpDirectory => "General Purpose Log Directory Version"
  | .smartDirectory => "SMART Log Directory Version"
  | .extErrors => "SMART Extended Comprehensive Error Log Version"
  | .summaryErrors => "SMART Error Log Version"
  | .extSelfTests => "SMART Extended Self-test Log Version"
  | .selfTests => "SMART Self-test log structure"
  | .attributes => "SMART Attributes Data Structure revision number"
  | .generalValues => "General SMART Values:"
  | .selective => "SMART Selective self-test log data structure revision number"
  | .sctTemperatures => "SCT Status Version:"
  | .statistics => "Device Statistics (GP Log 0x04)"
  | .pendingDefects => "Pending Defects log (GP Log 0x0c)"
  | .phyCounters => "SATA Phy Event Counters (GP Log 0x11)"

def key : Place → String
  | .gpDirectory => "ata_log_directory"
  | .smartDirectory => "ata_log_directory"
  | .extErrors => "ata_smart_error_log"
  | .summaryErrors => "ata_smart_error_log"
  | .extSelfTests => "ata_smart_self_test_log"
  | .selfTests => "ata_smart_self_test_log"
  | .attributes => "ata_smart_attributes"
  | .generalValues => "ata_smart_data"
  | .selective => "ata_smart_selective_self_test_log"
  | .sctTemperatures => "temperature"
  | .statistics => "ata_device_statistics"
  | .pendingDefects => "ata_pending_defects_log"
  | .phyCounters => "sata_phy_event_counters"

def field? : Place → Option String
  | .gpDirectory => some "gp_table"
  | .smartDirectory => some "smart_table"
  | .extErrors => some "extended"
  | .summaryErrors => some "summary"
  | .extSelfTests => some "extended"
  | .selfTests => some "standard"
  | _ => none

/-- The first letters of the heading, as many as tell it from all other text. -/
def stem : Place → List Char
  | .gpDirectory => ['G', 'e', 'n', 'e', 'r', 'a', 'l', ' ', 'P']
  | .smartDirectory => ['S', 'M', 'A', 'R', 'T', ' ', 'L', 'o', 'g', ' ', 'D']
  | .extErrors => ['S', 'M', 'A', 'R', 'T', ' ', 'E', 'x', 't', 'e', 'n', 'd', 'e', 'd', ' ', 'C']
  | .summaryErrors => ['S', 'M', 'A', 'R', 'T', ' ', 'E', 'r']
  | .extSelfTests => ['S', 'M', 'A', 'R', 'T', ' ', 'E', 'x', 't', 'e', 'n', 'd', 'e', 'd', ' ', 'S']
  | .selfTests => ['S', 'M', 'A', 'R', 'T', ' ', 'S', 'e', 'l', 'f']
  | .attributes => ['S', 'M', 'A', 'R', 'T', ' ', 'A']
  | .generalValues => ['G', 'e', 'n', 'e', 'r', 'a', 'l', ' ', 'S']
  | .selective => ['S', 'M', 'A', 'R', 'T', ' ', 'S', 'e', 'l', 'e']
  | .sctTemperatures => ['S', 'C', 'T', ' ', 'S']
  | .statistics => ['D', 'e', 'v', 'i', 'c', 'e', ' ', 'S']
  | .pendingDefects => ['P', 'e', 'n', 'd', 'i', 'n', 'g', ' ', 'D']
  | .phyCounters => ['S', 'A', 'T']

theorem mem_all (p : Place) : p ∈ all := by cases p <;> decide

theorem filter_all_eq (p : Place) : all.filter (· = p) = [p] := by cases p <;> rfl

end Place

def Report.has (r : Report) (p : Place) : Bool :=
  match p.field? with
  | none => (r.get? p.key).isSome
  | some field => ((r.sectionFields p.key).get? field).isSome

/-- What a text says about the health of the drive, if it is a verdict. -/
def verdict? (text : String) : Option Bool :=
  if opens "SMART overall-health self-assessment test result: PASSED" text then some true
  else if opens "SMART overall-health self-assessment test result: FAILED!" text then some false
  else if opens "SMART Health Status: " text then some (text == "SMART Health Status: OK\n")
  else none

def isTrace (text : String) : Bool := opens "REPORT-IOCTL: " text

def isUnread (text : String) : Bool := opens "Read SMART Log Directory failed: " text

/-- The beginnings that matter. -/
inductive Opening where
  | place (p : Place)
  | overall
  | status
  | trace
  | unread
  deriving DecidableEq

namespace Opening

def all : List Opening := Place.all.map .place ++ [.overall, .status, .trace, .unread]

def text : Opening → String
  | .place p => p.heading
  | .overall => "SMART overall-health self-assessment test result: "
  | .status => "SMART Health Status: "
  | .trace => "REPORT-IOCTL: "
  | .unread => "Read SMART Log Directory failed: "

def stem : Opening → List Char
  | .place p => p.stem
  | .overall => ['S', 'M', 'A', 'R', 'T', ' ', 'o']
  | .status => ['S', 'M', 'A', 'R', 'T', ' ', 'H']
  | .trace => ['R', 'E']
  | .unread => ['R', 'e', 'a', 'd', ' ', 'S', 'M', 'A', 'R', 'T', ' ', 'L']

theorem mem_all (o : Opening) : o ∈ all := by
  cases o with
  | place p => exact List.mem_append_left _ (List.mem_map_of_mem (Place.mem_all p))
  | _ => decide

theorem stem_prefix (o : Opening) : o.stem <+: o.text.toList := by
  have h : all.all (fun o => o.stem.isPrefixOf o.text.toList) = true := by decide
  exact List.isPrefixOf_iff_prefix.1 (List.all_eq_true.1 h o o.mem_all)

end Opening

/-- The second text has another letter where the first one goes on. -/
def departs : List Char → List Char → Bool
  | o :: os, c :: cs => o != c || departs os cs
  | _, _ => false

@[simp] theorem departs_nil_left (cs : List Char) : departs [] cs = false := rfl

@[simp] theorem departs_nil_right (os : List Char) : departs os [] = false := by cases os <;> rfl

@[simp] theorem departs_cons (o c : Char) (os cs : List Char) :
    departs (o :: os) (c :: cs) = (o != c || departs os cs) := rfl

theorem departs_append_right {os cs : List Char} (h : departs os cs = true) (rest : List Char) :
    departs os (cs ++ rest) = true := by
  induction os generalizing cs with
  | nil => cases h
  | cons o os ih =>
    cases cs with
    | nil => cases h
    | cons c cs =>
      simp only [departs_cons, List.cons_append, Bool.or_eq_true] at h ⊢
      exact h.imp_right ih

theorem departs_append_left {os cs : List Char} (h : departs os cs = true) (rest : List Char) :
    departs (os ++ rest) cs = true := by
  induction os generalizing cs with
  | nil => cases h
  | cons o os ih =>
    cases cs with
    | nil => cases h
    | cons c cs =>
      simp only [departs_cons, List.cons_append, Bool.or_eq_true] at h ⊢
      exact h.imp_right ih

theorem not_prefix_of_departs {os cs : List Char} (h : departs os cs = true) : ¬ os <+: cs := by
  rintro ⟨rest, rfl⟩
  induction os with
  | nil => cases h
  | cons o os ih => exact ih (by simpa using h)

theorem Opening.opens_eq_false {o : Opening} {text : String} (h : departs o.stem text.toList = true) :
    opens o.text text = false := by
  obtain ⟨rest, hrest⟩ := o.stem_prefix
  have hd : departs o.text.toList text.toList = true := by
    rw [← hrest]
    exact departs_append_left h rest
  exact Bool.eq_false_iff.2 fun ho => not_prefix_of_departs hd (opens_iff.1 ho)

theorem Opening.opens_empty (o : Opening) : opens o.text "" = false := by
  have hall : ∀ o ∈ Opening.all, o.stem ≠ [] := by decide
  refine Bool.eq_false_iff.2 fun h => hall o o.mem_all ?_
  exact List.prefix_nil.1 (o.stem_prefix.trans (opens_iff.1 h))

theorem Opening.opens_unique (o other : Opening) {text : String} (h : opens o.text text = true)
    (hne : other ≠ o) : opens other.text text = false := by
  have hall : ∀ o ∈ Opening.all, ∀ o' ∈ Opening.all, o' ≠ o → departs o'.stem o.stem = true := by decide
  obtain ⟨rest, hrest⟩ := o.stem_prefix.trans (opens_iff.1 h)
  refine opens_eq_false ?_
  rw [← hrest]
  exact departs_append_right (hall o o.mem_all other other.mem_all hne) rest

theorem verdict?_eq_none {text : String} (ho : opens Opening.overall.text text = false)
    (hs : opens Opening.status.text text = false) : verdict? text = none := by
  have h {t : String} (ht : opens Opening.overall.text t = true) : ¬ opens t text = true := fun h => by
    simp [opens_trans ht h] at ho
  have hs : ¬ opens "SMART Health Status: " text = true := Bool.eq_false_iff.1 hs
  rw [verdict?, if_neg (h (by decide)), if_neg (h (by decide)), if_neg hs]

theorem verdict?_status {text : String} (h : opens Opening.status.text text = true) :
    verdict? text = some (text == "SMART Health Status: OK\n") := by
  have ho : opens Opening.overall.text text = false := Opening.opens_unique .status .overall h (by simp)
  have hne {t : String} (ht : opens Opening.overall.text t = true) : ¬ opens t text = true := fun h => by
    simp [opens_trans ht h] at ho
  have hs : opens "SMART Health Status: " text = true := h
  rw [verdict?, if_neg (hne (by decide)), if_neg (hne (by decide)), if_pos hs]

/-- A text that begins with none of the openings, as its first letters show. -/
def Unheaded (text : String) : Prop := (Opening.all.all fun o => departs o.stem text.toList) = true

theorem Unheaded.opens {text : String} (h : Unheaded text) (o : Opening) : opens o.text text = false :=
  Opening.opens_eq_false (List.all_eq_true.1 h o o.mem_all)

def stems : List (List Char) := Opening.all.map Opening.stem

@[simp] theorem stems_eq : stems = [
    ['G', 'e', 'n', 'e', 'r', 'a', 'l', ' ', 'P'],
    ['S', 'M', 'A', 'R', 'T', ' ', 'L', 'o', 'g', ' ', 'D'],
    ['S', 'M', 'A', 'R', 'T', ' ', 'E', 'x', 't', 'e', 'n', 'd', 'e', 'd', ' ', 'C'],
    ['S', 'M', 'A', 'R', 'T', ' ', 'E', 'r'],
    ['S', 'M', 'A', 'R', 'T', ' ', 'E', 'x', 't', 'e', 'n', 'd', 'e', 'd', ' ', 'S'],
    ['S', 'M', 'A', 'R', 'T', ' ', 'S', 'e', 'l', 'f'],
    ['S', 'M', 'A', 'R', 'T', ' ', 'A'],
    ['G', 'e', 'n', 'e', 'r', 'a', 'l', ' ', 'S'],
    ['S', 'M', 'A', 'R', 'T', ' ', 'S', 'e', 'l', 'e'],
    ['S', 'C', 'T', ' ', 'S'],
    ['D', 'e', 'v', 'i', 'c', 'e', ' ', 'S'],
    ['P', 'e', 'n', 'd', 'i', 'n', 'g', ' ', 'D'],
    ['S', 'A', 'T'],
    ['S', 'M', 'A', 'R', 'T', ' ', 'o'],
    ['S', 'M', 'A', 'R', 'T', ' ', 'H'],
    ['R', 'E'],
    ['R', 'e', 'a', 'd', ' ', 'S', 'M', 'A', 'R', 'T', ' ', 'L']] := rfl

@[simp low] theorem unheaded_of_departs {text : String}
    (h : (stems.all fun stem => departs stem text.toList) = true) : Unheaded text := by
  rw [stems, List.all_map] at h
  exact h

/-- A text that begins with a blank, a digit or a sign that comes before the letters. -/
def BeginsLow (text : String) : Prop := ∃ c ∈ text.toList.head?, c.toNat < 'A'.toNat

theorem BeginsLow.unheaded {text : String} (h : BeginsLow text) : Unheaded text := by
  obtain ⟨c, hc, hlow⟩ := h
  obtain ⟨cs, hcs⟩ := List.head?_eq_some_iff.1 hc
  have hall : (Opening.all.all fun o => o.stem.head?.any fun first => 'A'.toNat ≤ first.toNat) = true := by
    decide
  refine List.all_eq_true.2 fun o ho => ?_
  obtain ⟨first, hfirst, hhigh⟩ := (Option.any_eq_true _ _).1 (List.all_eq_true.1 hall o ho)
  obtain ⟨rest, hrest⟩ := List.head?_eq_some_iff.1 hfirst
  have hne : first ≠ c := by
    rintro rfl
    have : 'A'.toNat ≤ first.toNat := by simpa using hhigh
    omega
  simp [hcs, hrest, hne]

theorem BeginsLow.append {s : String} (h : BeginsLow s) (t : String) : BeginsLow (s ++ t) := by
  obtain ⟨c, hc, hlow⟩ := h
  refine ⟨c, ?_, hlow⟩
  rw [String.toList_append, List.head?_append, hc, Option.some_or]
  rfl

theorem beginsLow_toString (n : Nat) : BeginsLow (toString n) := by
  have hne : Nat.toDigits 10 n ≠ [] := Nat.toDigits_ne_nil
  obtain ⟨c, cs, hcs⟩ := List.exists_cons_of_ne_nil hne
  have hmem : c ∈ Nat.toDigits 10 n := by simp [hcs]
  have hdigit : c.isDigit = true := Nat.isDigit_of_mem_toDigits (by decide) (by decide) hmem
  refine ⟨c, ?_, ?_⟩
  · simp [hcs]
  · simp only [Char.isDigit, Bool.and_eq_true, decide_eq_true_eq] at hdigit
    have hle : c.toNat ≤ 57 := hdigit.2
    have hA : 'A'.toNat = 65 := rfl
    omega

theorem BeginsLow.alignRight {s : String} (h : BeginsLow s) (width : Nat) :
    BeginsLow (Text.alignRight width s) := by
  obtain ⟨c, hc, hlow⟩ := h
  rw [BeginsLow, Text.alignRight, String.toList_ofList, List.leftpad, List.head?_append]
  cases hk : width - s.toList.length with
  | zero => exact ⟨c, by simpa using hc, hlow⟩
  | succ k => exact ⟨' ', by simp [List.replicate_succ], by decide⟩

theorem beginsLow_column (width n : Nat) : BeginsLow (Text.column width n) :=
  (beginsLow_toString n).alignRight width

theorem beginsLow_grouped (n : Nat) : BeginsLow (Text.grouped n) := by
  obtain ⟨c, hc, hlow⟩ := beginsLow_toString n
  refine ⟨c, ?_, hlow⟩
  simpa [Text.grouped, Text.head?_groupDigits, Nat.toString_eq_ofList_toDigits] using hc

@[simp] theorem Unheaded.append {s : String} (h : Unheaded s) (t : String) : Unheaded (s ++ t) := by
  simp only [Unheaded, List.all_eq_true, String.toList_append] at h ⊢
  exact fun o ho => departs_append_right (h o ho) _

end DriveHealth
