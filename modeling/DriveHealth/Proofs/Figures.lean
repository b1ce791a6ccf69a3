import DriveHealth.Ata.Exam
import DriveHealth.Nvme.Exam
import DriveHealth.Proofs.Checked
import Mathlib.Data.Nat.Digits.Defs
set_option autoImplicit false

namespace DriveHealth.Checked

/-- A comma goes before each digit with a multiple of three digits from it on, but never first. -/
def grouped (n : Nat) : Checked String := do
  let digits := Nat.toDigits 10 n
  let _ ← add 64 digits.length (digits.length / 3)
  let pieces ← digits.zipIdx.mapM fun (c, i) => do
    if 0 < i then
      if (← rem (← sub digits.length i) 3) = 0 then return [',', c] else return [c]
    else return [c]
  return String.ofList pieces.flatten

def unitNames : List String := ["B", "KB", "MB", "GB", "TB", "PB", "EB"]

def scaleStep (s : Text.Binary64 × Nat) : Checked ((Text.Binary64 × Nat) ⊕ (Text.Binary64 × Nat)) := do
  if s.1.ge 1000 ∧ (← add 64 s.2 1) < unitNames.length then
    return .inl (s.1.divNat 1000, ← add 64 s.2 1)
  else return .inr s

def siSize (bytes : Nat) : Checked String := do
  let (x, i) ← loop scaleStep unitNames.length (.ofNat bytes, 0)
  let unit ← index unitNames i
  let places := if i = 0 || x.ge 100 then 0 else if x.ge 10 then 1 else 2
  return s!"{x.fixed places} {unit}"

def capacity (bytes : Nat) : Checked String := do
  let digits ← grouped bytes
  let size ← siSize bytes
  return s!"{digits} bytes [{size}]"

theorem groupDigits_eq (cs : List Char) (k total : Nat) (hk : 0 < k) (ht : total = k + cs.length) :
    ((cs.zipIdx k).map fun (c, i) => if 0 < i ∧ (total - i) % 3 = 0 then [',', c] else [c]).flatten =
      if cs.length % 3 = 0 ∧ cs ≠ [] then ',' :: Text.groupDigits cs else Text.groupDigits cs := by
  induction cs generalizing k with
  | nil => simp [Text.groupDigits]
  | cons c cs ih =>
    have hrest := ih (k + 1) (by omega) (by simp at ht; omega)
    have hleft : total - k = (c :: cs).length := by omega
    have hsome : c :: cs ≠ [] := List.cons_ne_nil c cs
    rw [List.zipIdx_cons, List.map_cons, List.flatten_cons, hrest, Text.groupDigits_cons]
    simp only [hk, hleft, hsome, true_and, ne_eq, not_false_eq_true, and_true]
    split <;> rfl

theorem length_digits_le {n : Nat} (h : n < 1 <<< 128) : (Nat.toDigits 10 n).length ≤ 39 :=
  Nat.toDigits_length 10 n 39 (by omega) (Nat.lt_of_lt_of_le h (by decide))

theorem grouped_eq {n : Nat} (h : n < 1 <<< 128) : grouped n = .ok (Text.grouped n) := by
  have hlen := length_digits_le h
  have hcapacity : add 64 (Nat.toDigits 10 n).length ((Nat.toDigits 10 n).length / 3) = .ok _ :=
    add_ok (by omega)
  have hpiece : ∀ p ∈ (Nat.toDigits 10 n).zipIdx, (do
      if 0 < p.2 then
        if (← rem (← sub (Nat.toDigits 10 n).length p.2) 3) = 0 then return [',', p.1] else return [p.1]
      else return [p.1]) =
      .ok (if 0 < p.2 ∧ ((Nat.toDigits 10 n).length - p.2) % 3 = 0 then [',', p.1] else [p.1]) := by
    intro p hp
    have hi : p.2 < (Nat.toDigits 10 n).length := by simpa using List.snd_lt_of_mem_zipIdx hp
    by_cases hpos : 0 < p.2
    · rw [if_pos hpos, sub_ok (by omega), ok_bind, rem_ok (by omega), ok_bind]
      by_cases hthree : ((Nat.toDigits 10 n).length - p.2) % 3 = 0 <;> simp [hpos, hthree]
    · simp [hpos]
  rw [grouped, hcapacity, ok_bind, mapM_ok hpiece, ok_bind, Text.grouped]
  generalize Nat.toDigits 10 n = cs
  cases cs with
  | nil => rfl
  | cons c cs =>
    have hrest := groupDigits_eq cs 1 (c :: cs).length (by omega) (by simp; omega)
    refine congrArg (fun l => Except.ok (String.ofList l)) ?_
    rw [List.zipIdx_cons, List.map_cons, List.flatten_cons, Text.groupDigits_cons]
    exact congrArg _ hrest

theorem unit_of_drop {i : Nat} {unit : String} {rest : List String}
    (h : unitNames.drop i = unit :: rest) : unitNames[i]? = some unit ∧ i + rest.length = 6 := by
  have hlen : 7 - i = rest.length + 1 := by simpa [unitNames] using congrArg List.length h
  have hhere := congrArg (fun l => l[0]?) h
  exact ⟨by simpa using hhere, by omega⟩

theorem loop_scale {rest : List String} {unit : String} {i k : Nat} (x : Text.Binary64)
    (hi : unitNames.drop i = unit :: rest) (hk : rest.length < k) :
    ∃ j, loop scaleStep k (x, i) = .ok ((Text.scaleUnits x unit rest).1, j) ∧
      unitNames[j]? = some (Text.scaleUnits x unit rest).2 := by
  induction rest generalizing x unit i k with
  | nil =>
    obtain ⟨k, rfl⟩ : ∃ j, k = j + 1 := ⟨k - 1, by omega⟩
    obtain ⟨hhere, hlen⟩ := unit_of_drop hi
    have hnext : add 64 i 1 = .ok (i + 1) := add_ok (by omega)
    have hlast : ¬i + 1 < unitNames.length := by simp [unitNames] at hlen ⊢; omega
    exact ⟨i, by simp [loop, scaleStep, hnext, hlast, Text.scaleUnits], hhere⟩
  | cons next rest ih =>
    obtain ⟨k, rfl⟩ : ∃ j, k = j + 1 := ⟨k - 1, by omega⟩
    obtain ⟨hhere, hlen⟩ := unit_of_drop hi
    have hnext : add 64 i 1 = .ok (i + 1) := add_ok (by omega)
    have hroom : i + 1 < unitNames.length := by simp [unitNames] at hlen ⊢; omega
    by_cases hx : x.ge 1000
    · have htail : unitNames.drop (i + 1) = next :: rest := by
        simpa [List.tail_drop] using congrArg List.tail hi
      obtain ⟨j, hloop, hj⟩ := ih (x.divNat 1000) htail (k := k) (by simpa using hk)
      refine ⟨j, ?_, by simpa [Text.scaleUnits, hx] using hj⟩
      simp [loop, scaleStep, hnext, hroom, hx, hloop, Text.scaleUnits]
    · exact ⟨i, by simp [loop, scaleStep, hnext, hx, Text.scaleUnits], by simpa [Text.scaleUnits, hx]⟩

theorem unitNames_eq_B {i : Nat} {unit : String} (h : unitNames[i]? = some unit) :
    unit = "B" ↔ i = 0 := by
  have hi : i < 7 := (List.getElem?_eq_some_iff.1 h).1
  match i, hi with
  | 0, _ | 1, _ | 2, _ | 3, _ | 4, _ | 5, _ | 6, _ =>
    cases Option.some.inj h
    decide

theorem siSize_eq (bytes : Nat) : siSize bytes = .ok (Text.siSize bytes) := by
  have hfirst : unitNames.drop 0 = "B" :: ["KB", "MB", "GB", "TB", "PB", "EB"] := rfl
  obtain ⟨j, hloop, hj⟩ := loop_scale (.ofNat bytes) hfirst (k := unitNames.length) (by decide)
  generalize hscaled : Text.scaleUnits (.ofNat bytes) "B" ["KB", "MB", "GB", "TB", "PB", "EB"] = r at hloop hj
  obtain ⟨x, unit⟩ := r
  have hunit : index unitNames j = .ok unit := by simp [index, hj]
  have hplain := unitNames_eq_B hj
  simp [siSize, hloop, hunit, Text.siSize, hscaled, hplain]

theorem capacity_eq {bytes : Nat} (h : bytes < 1 <<< 128) : capacity bytes = .ok (Text.capacity bytes) := by
  rw [capacity, grouped_eq h, ok_bind, siSize_eq, ok_bind]
  rfl

def bit (width w k : Nat) : Checked Bool := do
  return (w &&& (← shl width 1 k)) != 0

theorem bit_ok {width w k : Nat} (h : k < width) : bit width w k = .ok (w.testBit k) := by
  have hmask : 1 <<< k % (1 <<< width) = 1 <<< k := by
    refine Nat.mod_eq_of_lt ?_
    simp only [Nat.one_shiftLeft]
    exact Nat.pow_lt_pow_right (by omega) h
  rw [bit, shl_ok h, ok_bind, hmask, and_bit]
  rfl

def flagLetters (flags : Nat) : Checked String := do
  let letters ← "POSRCK".toList.zipIdx.mapM fun (c, k) => do
    if ← bit 16 flags k then return c else return '-'
  return String.ofList letters

theorem flagLetters_eq (flags : Nat) : flagLetters flags = .ok (Ata.Attribute.flagLetters flags) := by
  have hletter : ∀ p ∈ "POSRCK".toList.zipIdx, (do if ← bit 16 flags p.2 then return p.1 else return '-') =
      .ok (if flags.testBit p.2 then p.1 else '-') := by
    intro p hp
    have hk : p.2 < "POSRCK".toList.length := by simpa using List.snd_lt_of_mem_zipIdx hp
    have hsix : "POSRCK".toList.length = 6 := by simp
    rw [bit_ok (by omega), ok_bind]
    cases flags.testBit p.2 <;> rfl
  rw [flagLetters, mapM_ok hletter, ok_bind, Ata.Attribute.flagLetters, List.mapIdx_eq_zipIdx_map]
  rfl

def bitNames (width n : Nat) (names : List String) : Checked (List String) :=
  collect (fun name => bit width n name.2) (fun name => return name.1) names.zipIdx

theorem bitNames_eq {width : Nat} {names : List String} (n : Nat) (h : names.length ≤ width) :
    bitNames width n names = .ok (Nvme.Exam.bitNames n names) := by
  refine collect_ok (fun name hname => bit_ok ?_) fun _ _ => rfl
  have hk : name.2 < names.length := by simpa using List.snd_lt_of_mem_zipIdx hname
  omega

def outcome (status : Nat) : Checked Nat := shr 8 status 4

theorem outcome_eq (status : Nat) : outcome status = .ok (status / 16) := by
  rw [outcome, shr_ok (by omega), Nat.shiftRight_eq_div_pow]

def remaining (status : Nat) : Checked Nat := mul 8 (status &&& 0x0f) 10

theorem remaining_eq (status : Nat) : remaining status = .ok (Ata.SelfTest.remaining status) := by
  have hlow : status &&& 15 = status % 16 := Nat.and_two_pow_sub_one_eq_mod status 4
  rw [remaining, hlow, mul_ok (by omega), Ata.SelfTest.remaining]

def threshold (kelvin : Nat) : Checked String := do
  if kelvin = 0 then return "-"
  else
    let celsius ← subSigned 32 kelvin 273
    return s!"{celsius} Celsius"

theorem threshold_eq {kelvin : Nat} (h : kelvin < 1 <<< 16) :
    threshold kelvin = .ok (Nvme.Exam.threshold kelvin) := by
  rw [threshold, Nvme.Exam.threshold]
  split
  · rfl
  · rw [subSigned_ok (by omega) (by omega)]
    rfl

def celsius (kelvin : Nat) : Checked Int := subSigned 64 kelvin 273

theorem celsius_eq {h : Nvme.Health} (hk : h.kelvin < 1 <<< 16) : celsius h.kelvin = .ok h.celsius := by
  rw [celsius, subSigned_ok (by omega) (by omega)]
  rfl

def versionText (version : Nat) : Checked String := do
  if version = 0 then return "<1.2"
  else
    let major ← shr 32 version 16
    let minor := (← shr 32 version 8) &&& 0xff
    let tertiary := version &&& 0xff
    return if tertiary = 0 then s!"{major}.{minor}" else s!"{major}.{minor}.{tertiary}"

theorem versionText_eq (c : Nvme.Controller) : versionText c.version = .ok c.versionText := by
  have hlow (n : Nat) : n &&& 255 = n % 256 := Nat.and_two_pow_sub_one_eq_mod n 8
  have hmajor : c.version >>> 16 = c.version / 65536 := Nat.shiftRight_eq_div_pow _ 16
  have hminor : c.version >>> 8 = c.version / 256 := Nat.shiftRight_eq_div_pow _ 8
  rw [versionText, Nvme.Controller.versionText]
  by_cases hzero : c.version = 0
  · simp [hzero]
  · simp [hzero, shr_ok, hlow, hmajor, hminor]

/-- The product saturates instead of trapping. -/
def dataUnits (units : Nat) : Checked String := do
  let digits ← grouped units
  let size ← siSize (Nvme.Exam.unitBytes units)
  return s!"{digits} [{size}]"

theorem dataUnits_eq {units : Nat} (h : units < 1 <<< 128) :
    dataUnits units = .ok (Nvme.Exam.dataUnits units) := by
  rw [dataUnits, grouped_eq h, ok_bind, siSize_eq, ok_bind]
  rfl

def rowNumbers (count : Nat) : Checked (List Nat) := (List.range count).mapM fun i => add 64 i 1

theorem rowNumbers_eq {count : Nat} (h : count < 1 <<< 64) :
    rowNumbers count = .ok ((List.range count).map (· + 1)) := by
  refine mapM_ok fun i hi => ?_
  have hi : i < count := List.mem_range.1 hi
  exact add_ok (by omega)

/-- Writes a field if it has a value, which works only in a record. -/
def setField (key : String) (value : Option Datum) (row : Datum) : Checked Datum :=
  match value, row with
  | none, row => .ok row
  | some d, .record fs => .ok (.record (Fields.insert key d fs))
  | some _, _ => .error .outOfBounds

theorem insert_new {key : String} {fs : Fields} (h : ∀ f ∈ fs, f.1 ≠ key) (d : Datum) :
    Fields.insert key d fs = fs ++ [(key, d)] := by
  induction fs with
  | nil => rfl
  | cons f fs ih =>
    have hf := h f (by simp)
    have hfs := ih fun g hg => h g (by simp [hg])
    simp [Fields.insert, hf, hfs]

theorem setField_record {key : String} {fs : Fields} (h : ∀ f ∈ fs, f.1 ≠ key) (value : Option Datum) :
    setField key value (.record fs) = .ok (.record (fs ++ (value.map fun d => (key, d)).toList)) := by
  cases value with
  | none => simp [setField]
  | some d => simp [setField, insert_new h]

def ataRow (t : Ata.SelfTest) : Checked Datum :=
  setField "lba" (t.failingLba.map .nat) (Ata.Exam.selfTestDatum { t with failingLba := none })

theorem ataRow_eq (t : Ata.SelfTest) : ataRow t = .ok (Ata.Exam.selfTestDatum t) := by
  rw [ataRow, Ata.Exam.selfTestDatum, setField_record (by simp), Ata.Exam.selfTestDatum]
  cases t.failingLba <;> rfl

def nvmeRow (t : Nvme.SelfTest) : Checked Datum :=
  setField "lba" (t.failingLba.map .nat) (Nvme.Exam.selfTestDatum { t with failingLba := none })

theorem nvmeRow_eq (t : Nvme.SelfTest) : nvmeRow t = .ok (Nvme.Exam.selfTestDatum t) := by
  rw [nvmeRow, Nvme.Exam.selfTestDatum, setField_record (by simp), Nvme.Exam.selfTestDatum]
  cases t.failingLba <;> rfl

section

variable (ws : List Nat)

def wordBit (i k : Nat) : Checked Bool := do bit 16 (← index ws i) k

def twoWords (i j : Nat) : Checked Nat := do
  return (← index ws i) ||| (← shl 64 (← index ws j) 16)

def wordText (start stop : Nat) : Checked String := do return Ata.Identity.textOf (← slice ws start stop)

def sectors : Checked Nat := do
  if ← wordBit ws 83 10 then littleFold ((← slice ws 100 104).flatMap (littleOctets 2))
  else twoWords ws 60 61

def logicalSectorSize : Checked Nat := do
  let w ← index ws 106
  if w &&& 0xc000 ≠ 0x4000 then return 512
  else if w &&& (← shl 16 1 12) = 0 then return 512
  else
    let size ← mul 64 (← twoWords ws 117 118) 2
    return if 512 ≤ size ∧ size ≤ 65536 ∧ size % 512 = 0 then size else 512

def capacityBytes : Checked Nat := do
  return min 0xffffffffffffffff ((← sectors ws) * (← logicalSectorSize ws))

def rotationRate? : Checked (Option Nat) := do
  let w ← index ws 217
  return if w = 1 then some 0 else if 0x401 ≤ w ∧ w ≤ 0xfffe then some w else none

/-- The sum of all octets wraps instead of trapping. -/
def checksumOk? : Checked (Option Bool) := do
  let last ← index ws 255
  return if last &&& 0xff ≠ 0xa5 then none
    else some ((ws.flatMap fun w => [w % 256, w / 256 % 256]).foldl (fun n b => (n + b) % 256) 0 == 0)

end

variable {id : Ata.Identity}

theorem index_words {i : Nat} (h : i < 256) : index id.words i = .ok (id.word i (blt_of_lt h)) := by
  have hi : i < id.words.length := by
    rw [id.length_words]
    exact h
  rw [index_ok hi]
  rfl

theorem wordBit_eq {i k : Nat} (hi : i < 256) (hk : k < 16) :
    wordBit id.words i k = .ok (id.bit i k (blt_of_lt hi)) := by
  rw [wordBit, index_words hi, ok_bind, bit_ok hk]
  rfl

theorem wordText_eq {start stop : Nat} (h : start ≤ stop) (hs : stop ≤ 256) :
    wordText id.words start stop = .ok (Ata.Identity.textOf (id.range start stop)) := by
  rw [wordText, slice_ok h (by rw [id.length_words]; exact hs), ok_bind]
  rfl

theorem twoWords_eq (hw : ∀ w ∈ id.words, w < 1 <<< 16) {i : Nat} (hi : i + 1 < 256) :
    twoWords id.words i (i + 1) = .ok (Ata.Identity.number (id.range i (i + 2))) ∧
      Ata.Identity.number (id.range i (i + 2)) < 1 <<< 32 := by
  have hl := id.length_words
  have hlow := hw _ (List.getElem_mem (show i < id.words.length by omega))
  have hhigh := hw _ (List.getElem_mem (show i + 1 < id.words.length by omega))
  have hwords : id.range i (i + 2) = [id.words[i], id.words[i + 1]] := by
    rw [Ata.Identity.range, Nat.add_sub_cancel_left, List.drop_eq_getElem_cons (by omega),
      List.drop_eq_getElem_cons (show i + 1 < _ by omega)]
    rfl
  have hnumber : Ata.Identity.number (id.range i (i + 2)) = id.words[i + 1] * 65536 + id.words[i] := by
    rw [hwords]
    simp only [Ata.Identity.number, List.foldr_cons, List.foldr_nil]
    omega
  have hshift : id.words[i + 1] <<< 16 % (1 <<< 64) = id.words[i + 1] <<< 16 := by
    simp only [Nat.shiftLeft_eq, Nat.reducePow]
    omega
  constructor
  · rw [twoWords, index_ok (by omega), ok_bind, index_ok (by omega), ok_bind, shl_ok (by omega), ok_bind,
      hshift, Nat.or_comm, ← Nat.shiftLeft_add_eq_or_of_lt (i := 16) hlow, hnumber, Nat.shiftLeft_eq]
    rfl
  · omega

theorem littleEndian_words {ws : List Nat} (hw : ∀ w ∈ ws, w < 1 <<< 16) :
    littleEndian (ws.flatMap (littleOctets 2)) = Ata.Identity.number ws := by
  induction ws with
  | nil => rfl
  | cons w ws ih =>
    have hfirst := hw w (by simp)
    have hrest := ih fun v hv => hw v (by simp [hv])
    have hnumber : Ata.Identity.number (w :: ws) = w + 65536 * Ata.Identity.number ws := rfl
    rw [List.flatMap_cons, hnumber]
    show littleEndian (UInt8.ofNat w :: UInt8.ofNat (w / 256) :: ws.flatMap (littleOctets 2)) = _
    rw [littleEndian, littleEndian, hrest, UInt8.toNat_ofNat', UInt8.toNat_ofNat']
    omega

theorem length_flatMap_words (ws : List Nat) : (ws.flatMap (littleOctets 2)).length = 2 * ws.length := by
  induction ws with
  | nil => rfl
  | cons w ws ih =>
    rw [List.flatMap_cons, List.length_append, length_littleOctets, ih, List.length_cons]
    omega

theorem sectors_eq (hw : ∀ w ∈ id.words, w < 1 <<< 16) : sectors id.words = .ok id.sectors := by
  have hl := id.length_words
  rw [sectors, wordBit_eq (by omega) (by omega), ok_bind, Ata.Identity.sectors, Ata.Identity.hasLba48]
  by_cases hlba : id.bit 83 10
  · have hslice : slice id.words 100 104 = .ok (id.range 100 104) := slice_ok (by omega) (by omega)
    have hrange : ∀ w ∈ id.range 100 104, w < 1 <<< 16 :=
      fun w hm => hw w (List.mem_of_mem_drop (List.mem_of_mem_take hm))
    have hlen : ((id.range 100 104).flatMap (littleOctets 2)).length ≤ 8 := by
      rw [length_flatMap_words, Ata.Identity.range, List.length_take]
      omega
    rw [if_pos hlba, if_pos hlba, hslice, ok_bind, littleFold_ok hlen, littleEndian_words hrange]
  · rw [if_neg hlba, if_neg hlba, (twoWords_eq hw (by omega)).1]

theorem testBit_masks {i : Nat} (h14 : i ≠ 14) (h15 : i ≠ 15) :
    Nat.testBit 0xc000 i = false ∧ Nat.testBit 0x4000 i = false := by
  by_cases hi : i < 16
  · have hlow : ∀ j < 16, j ≠ 14 → j ≠ 15 → Nat.testBit 0xc000 j = false ∧ Nat.testBit 0x4000 j = false := by
      decide
    exact hlow i hi h14 h15
  · have hpow : 1 <<< 16 ≤ 1 <<< i := by
      rw [Nat.one_shiftLeft, Nat.one_shiftLeft]
      exact Nat.pow_le_pow_right (by omega) (by omega)
    constructor <;>
    · refine Nat.testBit_lt_two_pow ?_
      rw [← Nat.one_shiftLeft]
      omega

theorem and_top_bits (w : Nat) : w &&& 0xc000 = 0x4000 ↔ w.testBit 14 = true ∧ w.testBit 15 = false := by
  have hmask14 : Nat.testBit 0xc000 14 = true := rfl
  have hmask15 : Nat.testBit 0xc000 15 = true := rfl
  have hbit14 : Nat.testBit 0x4000 14 = true := rfl
  have hbit15 : Nat.testBit 0x4000 15 = false := rfl
  constructor
  · intro h
    have hlow := congrArg (Nat.testBit · 14) h
    have hhigh := congrArg (Nat.testBit · 15) h
    simp only [Nat.testBit_and, hmask14, hmask15, hbit14, hbit15, Bool.and_true] at hlow hhigh
    exact ⟨hlow, hhigh⟩
  · intro ⟨hlow, hhigh⟩
    refine Nat.eq_of_testBit_eq fun i => ?_
    rw [Nat.testBit_and]
    by_cases h14 : i = 14
    · rw [h14, hlow, hmask14, hbit14, Bool.and_true]
    · by_cases h15 : i = 15
      · rw [h15, hhigh, hbit15, Bool.false_and]
      · obtain ⟨hmask, hbit⟩ := testBit_masks h14 h15
        rw [hmask, hbit, Bool.and_false]

theorem logicalSectorSize_eq (hw : ∀ w ∈ id.words, w < 1 <<< 16) :
    logicalSectorSize id.words = .ok id.logicalSectorSize := by
  obtain ⟨hwords, hlt⟩ : twoWords id.words 117 118 = .ok (Ata.Identity.number (id.range 117 119)) ∧
      Ata.Identity.number (id.range 117 119) < 1 <<< 32 := twoWords_eq hw (by omega)
  have hsize : mul 64 (Ata.Identity.number (id.range 117 119)) 2 =
      .ok (2 * Ata.Identity.number (id.range 117 119)) := by
    rw [mul_ok (by omega), Nat.mul_comm]
  have hmask : shl 16 1 12 = .ok (1 <<< 12) := rfl
  have hbit := and_bit (id.word 106) 12
  have htop := and_top_bits (id.word 106)
  rw [logicalSectorSize, index_words (by omega), ok_bind]
  by_cases hvalid : (id.word 106).testBit 14 = true ∧ (id.word 106).testBit 15 = false
  · rw [if_neg (not_not_intro (htop.2 hvalid)), hmask, ok_bind]
    by_cases hlong : (id.word 106).testBit 12
    · have hset : id.word 106 &&& (1 <<< 12) ≠ 0 := by simpa [hlong] using hbit
      rw [if_neg hset, hwords, ok_bind, hsize, ok_bind]
      simp [Ata.Identity.logicalSectorSize, Ata.Identity.bit, hvalid, hlong, and_assoc]
    · have hclear : id.word 106 &&& (1 <<< 12) = 0 := by simpa [hlong] using hbit
      rw [if_pos hclear]
      simp [Ata.Identity.logicalSectorSize, Ata.Identity.bit, hlong]
  · rw [if_pos (mt htop.1 hvalid)]
    have hplain : (id.bit 106 14 && !id.bit 106 15) = false := by
      simpa [Ata.Identity.bit] using fun h14 h15 => hvalid ⟨h14, h15⟩
    simp [Ata.Identity.logicalSectorSize, hplain]

theorem capacityBytes_eq (hw : ∀ w ∈ id.words, w < 1 <<< 16) :
    capacityBytes id.words = .ok id.capacityBytes := by
  rw [capacityBytes, sectors_eq hw, ok_bind, logicalSectorSize_eq hw, ok_bind]
  rfl

theorem rotationRate?_eq : rotationRate? id.words = .ok id.rotationRate? := by
  rw [rotationRate?, index_words (by omega), ok_bind]
  rfl

theorem foldl_wrap (ws : List Nat) (n : Nat) :
    (ws.flatMap fun w => [w % 256, w / 256 % 256]).foldl (fun n b => (n + b) % 256) (n % 256) =
      (ws.flatMap Ata.Identity.wordOctets).foldl (· + ·) n % 256 := by
  induction ws generalizing n with
  | nil => rfl
  | cons w ws ih =>
    have hsum : ((n % 256 + w % 256) % 256 + w / 256 % 256) % 256 = (n + w / 256 % 256 + w % 256) % 256 := by
      omega
    simp only [List.flatMap_cons, Ata.Identity.wordOctets, List.cons_append, List.nil_append, List.foldl_cons,
      hsum, ih]

theorem checksumOk?_eq : checksumOk? id.words = .ok id.checksumOk? := by
  have hlow (n : Nat) : n &&& 255 = n % 256 := Nat.and_two_pow_sub_one_eq_mod n 8
  have hsum := foldl_wrap id.words 0
  rw [Nat.zero_mod] at hsum
  rw [checksumOk?, index_words (by omega), ok_bind, hlow, hsum, Ata.Identity.checksumOk?]
  by_cases h : id.word 255 % 256 = 0xa5 <;> simp [h]

end DriveHealth.Checked
