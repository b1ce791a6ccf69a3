import DriveHealth.Linux.Host
import DriveHealth.Proofs.CheckedScsi
set_option autoImplicit false

namespace DriveHealth

theorem Block.getElem?_octets {n : Nat} (b : Block n) (i : Nat) (h : i.blt n) : b.octets[i]? = some (b.octet i h) :=
  List.getElem?_eq_getElem _

theorem Block.octets_of_ofOctets? {n : Nat} {bs : List UInt8} {b : Block n} (h : ofOctets? n bs = some b) :
    b.octets = bs := by
  rw [ofOctets?] at h
  split at h
  · cases h
    rfl
  · cases h

namespace Scsi.Sense

/-- What sense data says: half an octet of key and two codes, each at its place in the format that the response
code names. A reader gets to them only if the last of them is there. -/
inductive Says (bs : List UInt8) : Sense → Prop where
  | fixed {code key asc ascq : UInt8} (hcode : bs[0]? = some code)
      (hformat : code &&& 0x7f = 0x70 ∨ code &&& 0x7f = 0x71)
      (hkey : bs[2]? = some key) (hasc : bs[12]? = some asc) (hascq : bs[13]? = some ascq) :
      Says bs ⟨key.toNat % 16, asc.toNat, ascq.toNat⟩
  | descriptor {code key asc ascq : UInt8} (hcode : bs[0]? = some code)
      (hformat : code &&& 0x7f = 0x72 ∨ code &&& 0x7f = 0x73)
      (hkey : bs[1]? = some key) (hasc : bs[2]? = some asc) (hascq : bs[3]? = some ascq) :
      Says bs ⟨key.toNat % 16, asc.toNat, ascq.toNat⟩

theorem senseFormat?_eq_fixed_iff {bs : List UInt8} : senseFormat? bs = some .fixed ↔
    ∃ code, bs[0]? = some code ∧ (code &&& 0x7f = 0x70 ∨ code &&& 0x7f = 0x71) := by
  cases bs with
  | nil => simp [senseFormat?]
  | cons code bs =>
    simp only [senseFormat?, List.getElem?_cons_zero, Option.some.injEq, exists_eq_left']
    split <;> simp [*]

theorem senseFormat?_eq_descriptor_iff {bs : List UInt8} : senseFormat? bs = some .descriptor ↔
    ∃ code, bs[0]? = some code ∧ (code &&& 0x7f = 0x72 ∨ code &&& 0x7f = 0x73) := by
  cases bs with
  | nil => simp [senseFormat?]
  | cons code bs =>
    simp only [senseFormat?, List.getElem?_cons_zero, Option.some.injEq, exists_eq_left']
    split
    case isTrue hfixed => simpa using fun hdescriptor => not_fixed_of_descriptor hdescriptor hfixed
    case isFalse => split <;> simp [*]

theorem ofOctets?_of_says {bs : List UInt8} {s : Sense} (h : Says bs s) : ofOctets? bs = some s := by
  cases h with
  | fixed hcode hformat hkey hasc hascq =>
    have hform : senseFormat? bs = some .fixed := senseFormat?_eq_fixed_iff.2 ⟨_, hcode, hformat⟩
    obtain ⟨b, rfl⟩ := Checked.exists_block (n := 14) (List.getElem?_eq_some_iff.1 hascq).1
    rw [b.getElem?_octets _ rfl, Option.some.injEq] at hkey hasc hascq
    simp [ofOctets?, hform, Checked.ofOctets?_octets, Block.byte, hkey, hasc, hascq]
  | descriptor hcode hformat hkey hasc hascq =>
    have hform : senseFormat? bs = some .descriptor := senseFormat?_eq_descriptor_iff.2 ⟨_, hcode, hformat⟩
    obtain ⟨b, rfl⟩ := Checked.exists_block (n := 4) (List.getElem?_eq_some_iff.1 hascq).1
    rw [b.getElem?_octets _ rfl, Option.some.injEq] at hkey hasc hascq
    simp [ofOctets?, hform, Checked.ofOctets?_octets, Block.byte, hkey, hasc, hascq]

theorem says_of_ofOctets? {bs : List UInt8} {s : Sense} (h : ofOctets? bs = some s) : Says bs s := by
  obtain ⟨format, hform, hread⟩ := Option.bind_eq_some_iff.1 h
  cases format with
  | fixed =>
    obtain ⟨code, hcode, hformat⟩ := senseFormat?_eq_fixed_iff.1 hform
    obtain ⟨b, hb, hs⟩ := Option.bind_eq_some_iff.1 hread
    obtain rfl := Block.octets_of_ofOctets? hb
    cases hs
    exact .fixed hcode hformat (b.getElem?_octets 2 rfl) (b.getElem?_octets 12 rfl) (b.getElem?_octets 13 rfl)
  | descriptor =>
    obtain ⟨code, hcode, hformat⟩ := senseFormat?_eq_descriptor_iff.1 hform
    obtain ⟨b, hb, hs⟩ := Option.bind_eq_some_iff.1 hread
    obtain rfl := Block.octets_of_ofOctets? hb
    cases hs
    exact .descriptor hcode hformat (b.getElem?_octets 1 rfl) (b.getElem?_octets 2 rfl) (b.getElem?_octets 3 rfl)

theorem ofOctets?_eq_some_iff {bs : List UInt8} {s : Sense} : ofOctets? bs = some s ↔ Says bs s :=
  ⟨says_of_ofOctets?, ofOctets?_of_says⟩

theorem carriesAta_iff (s : Sense) : s.carriesAta = true ↔ s.key = 1 ∨ s.key = 0 ∧ s.asc = 0 ∧ s.ascq = 0x1d := by
  simp [carriesAta, and_assoc]

end Scsi.Sense

namespace Linux.Completion

variable (c : Completion) (wantsRegisters : Bool)

theorem driverOk_iff : c.driverOk = true ↔ c.driverStatus % 16 = 0 ∨ c.driverStatus % 16 = 8 := by
  rw [driverOk, Bool.or_eq_true, beq_iff_eq, beq_iff_eq]

theorem check_eq_ok_iff : c.check wantsRegisters = .ok () ↔
    c.hostStatus = 0 ∧ (c.driverStatus % 16 = 0 ∨ c.driverStatus % 16 = 8) ∧
      (c.status = 0 ∨ wantsRegisters = true ∧
        ∃ s, Scsi.Sense.Says c.sense s ∧ (s.key = 1 ∨ s.key = 0 ∧ s.asc = 0 ∧ s.ascq = 0x1d)) := by
  have hsense : (Scsi.Sense.ofOctets? c.sense).any Scsi.Sense.carriesAta = true ↔
      ∃ s, Scsi.Sense.Says c.sense s ∧ (s.key = 1 ∨ s.key = 0 ∧ s.asc = 0 ∧ s.ascq = 0x1d) := by
    simp only [Option.any_eq_true, Scsi.Sense.ofOctets?_eq_some_iff, Scsi.Sense.carriesAta_iff]
  rw [check, ← driverOk_iff, ← hsense]
  by_cases hhost : c.hostStatus = 0
  · by_cases hdriver : c.driverOk = true
    · by_cases hstatus : c.status = 0
      · simp [hhost, hdriver, hstatus]
      · simp [hhost, hdriver, hstatus]
    · simp [hhost, hdriver]
  · simp [hhost]

theorem exists_reason (h : c.check wantsRegisters ≠ .ok ()) : ∃ reason, c.check wantsRegisters = .error reason := by
  cases hcheck : c.check wantsRegisters with
  | ok => exact absurd hcheck h
  | error reason => exact ⟨reason, rfl⟩

theorem check_congr {buffer : List UInt8} (h : ∀ i < c.senseLength, buffer[i]? = c.senseBuffer[i]?) :
    { c with senseBuffer := buffer }.check wantsRegisters = c.check wantsRegisters := by
  have hsense : { c with senseBuffer := buffer }.sense = c.sense := by
    refine List.ext_getElem? fun i => ?_
    simp only [sense, List.getElem?_take]
    by_cases hi : i < c.senseLength
    · rw [if_pos hi, if_pos hi, h i hi]
    · rw [if_neg hi, if_neg hi]
  rw [check, hsense]
  rfl

/-- A bad status of the device is forgiven only where registers were asked for and the sense data that was written
says that they came back. Nothing makes up for a bad host or driver status. -/
theorem bad_status_needs_registers (full : c.senseBuffer.length = 32) :
    (c.check false = .ok () → c.check true = .ok ()) ∧
    (c.hostStatus ≠ 0 ∨ c.driverStatus % 16 ≠ 0 ∧ c.driverStatus % 16 ≠ 8 →
      ∀ wantsRegisters, ∃ reason, c.check wantsRegisters = .error reason) ∧
    (c.hostStatus = 0 → c.driverStatus % 16 = 0 ∨ c.driverStatus % 16 = 8 → ∀ wantsRegisters,
      (c.status = 0 → c.check wantsRegisters = .ok ()) ∧
      (c.status ≠ 0 → (c.check wantsRegisters = .ok () ↔ wantsRegisters = true ∧
        ∃ s, Scsi.Sense.Says (c.senseBuffer.take (min c.senseLength 32)) s ∧
          (s.key = 1 ∨ s.key = 0 ∧ s.asc = 0x00 ∧ s.ascq = 0x1d)))) ∧
    ∀ buffer : List UInt8, (∀ i < c.senseLength, buffer[i]? = c.senseBuffer[i]?) → ∀ wantsRegisters,
      { c with senseBuffer := buffer }.check wantsRegisters = c.check wantsRegisters := by
  have hsense : c.senseBuffer.take (min c.senseLength 32) = c.sense := by
    rw [← full, ← List.take_eq_take_min]
    rfl
  refine ⟨fun hplain => ?_, fun hbad wantsRegisters => ?_, fun hhost hdriver wantsRegisters => ⟨fun hgood => ?_,
    fun hstatus => ?_⟩, fun buffer h wantsRegisters => c.check_congr wantsRegisters h⟩
  · obtain ⟨hhost, hdriver, hstatus⟩ := (c.check_eq_ok_iff false).1 hplain
    exact (c.check_eq_ok_iff true).2 ⟨hhost, hdriver, .inl (hstatus.resolve_right fun h => Bool.false_ne_true h.1)⟩
  · refine c.exists_reason wantsRegisters fun hok => ?_
    obtain ⟨hhost, hdriver, -⟩ := (c.check_eq_ok_iff wantsRegisters).1 hok
    omega
  · exact (c.check_eq_ok_iff wantsRegisters).2 ⟨hhost, hdriver, .inl hgood⟩
  · rw [c.check_eq_ok_iff, hsense, and_iff_right hhost, and_iff_right hdriver, or_iff_right hstatus]

/-- A bad status with registers, told of in descriptor format by the octet at 3. With three octets written that one
does not count, whatever the buffer holds there. -/
theorem bad_status_needs_registers_cut :
    let buffer : List UInt8 := [0x72, 0, 0, 0x1d] ++ List.replicate 28 0
    let whole : Completion := { status := 2, driverStatus := 8, senseBuffer := buffer, senseLength := 22 }
    let cut := { whole with senseLength := 3 }
    let lost := { whole with hostStatus := 7 }
    buffer.length = 32 ∧ whole.check true = .ok () ∧ whole.check false ≠ .ok () ∧ cut.check true ≠ .ok () ∧
      { cut with senseBuffer := buffer.set 3 0 }.check true = cut.check true ∧
      ∃ reason, lost.check true = .error reason := by
  intro buffer whole cut lost
  have hfull : buffer.length = 32 := by decide
  obtain ⟨-, -, hwhole, -⟩ := bad_status_needs_registers whole hfull
  obtain ⟨-, -, hcut, hbuffer⟩ := bad_status_needs_registers cut hfull
  obtain ⟨-, hlost, -⟩ := bad_status_needs_registers lost hfull
  have hsays : Scsi.Sense.Says (buffer.take 22) ⟨0, 0, 0x1d⟩ :=
    Scsi.Sense.says_of_ofOctets? (by decide)
  have hshort : ¬∃ s, Scsi.Sense.Says (buffer.take 3) s ∧ (s.key = 1 ∨ s.key = 0 ∧ s.asc = 0 ∧ s.ascq = 0x1d) := by
    rintro ⟨s, hs, -⟩
    have hnone : Scsi.Sense.ofOctets? (buffer.take 3) = none := by decide
    rw [Scsi.Sense.ofOctets?_of_says hs] at hnone
    cases hnone
  refine ⟨hfull, ?_, fun h => ?_, fun h => ?_, hbuffer _ (by decide) true, hlost (.inl (by decide)) true⟩
  · exact ((hwhole rfl (.inr rfl) true).2 (by decide)).2 ⟨rfl, _, hsays, .inr ⟨rfl, rfl, rfl⟩⟩
  · exact Bool.false_ne_true (((hwhole rfl (.inr rfl) false).2 (by decide)).1 h).1
  · exact hshort (((hcut rfl (.inr rfl) true).2 (by decide)).1 h).2

end Linux.Completion

end DriveHealth
