import DriveHealth.Proofs.Checked
import DriveHealth.Scsi.Inquiry
import DriveHealth.Scsi.Page
import DriveHealth.Scsi.Sense
set_option autoImplicit false

namespace DriveHealth.Scsi

open Checked

def Inquiry.parse (bs : List UInt8) : Checked (Except Fault Inquiry) := do
  if bs.length < 36 then return .error (.malformed (.shortInquiry bs.length))
  else return .ok {
    peripheralType := (← index bs 0).toNat &&& 0x1f
    vendor := text (← slice bs 8 16)
    product := text (← slice bs 16 32)
    revision := text (← slice bs 32 36) }

def Capacity.parse (bs : List UInt8) : Checked (Except Fault Capacity) := do
  if bs.length < 8 then return .error (.malformed .shortCapacity)
  else
    let last ← big32 bs 0
    let block ← big32 bs 4
    return .ok ⟨← add 64 last 1, block⟩

def Exceptions.parseTemperature (bs : List UInt8) : Checked (Option Nat) := do
  let length := (← index bs 7).toNat
  if 3 ≤ length ∧ 10 < bs.length then
    let t := (← index bs 10).toNat
    return if t ≠ 0 ∧ t ≠ 0xff then some t else none
  else return none

/-- The page code is looked at only if there are ten octets. -/
def Exceptions.parse (bs : List UInt8) : Checked (Except Fault Exceptions) := do
  if bs.length < 10 then return .error (.malformed .malformedExceptions)
  else if (← index bs 0).toNat &&& 0x3f ≠ 0x2f then return .error (.malformed .malformedExceptions)
  else
    let temperature ← parseTemperature bs
    return .ok ⟨(← index bs 8).toNat, (← index bs 9).toNat, temperature⟩

def rest? (bs : List UInt8) (start : Nat) : Option (List UInt8) :=
  if start ≤ bs.length then some (bs.drop start) else none

def Caching.parsePage (page : List UInt8) : Checked (Except Fault Caching) := do
  if page.length < 3 then return .error (.malformed .noCachingPage)
  else if (← index page 0).toNat &&& 0x3f ≠ 0x08 then return .error (.malformed .noCachingPage)
  else
    return .ok ⟨((← index page 2).toNat &&& (1 <<< 2)) != 0, ((← index page 2).toNat &&& (1 <<< 0)) != 0⟩

def Caching.parse (bs : List UInt8) : Checked (Except Fault Caching) := do
  if bs.length < 8 then return .error (.malformed .shortModeSense)
  else
    match rest? bs (← add 64 8 (← big16 bs 6)) with
    | none => return .error (.malformed .noCachingPage)
    | some page => parsePage page

def responseCode? (sense : List UInt8) : Option UInt8 := sense.head?.map (· &&& 0x7f)

def Sense.parse (sense : List UInt8) : Checked (Option Sense) := do
  match responseCode? sense with
  | none => return none
  | some code =>
    if (code = 0x72 ∨ code = 0x73) ∧ 4 ≤ sense.length then
      return some ⟨(← index sense 1).toNat &&& 0x0f, (← index sense 2).toNat, (← index sense 3).toNat⟩
    else if (code = 0x70 ∨ code = 0x71) ∧ 14 ≤ sense.length then
      return some ⟨(← index sense 2).toNat &&& 0x0f, (← index sense 12).toNat, (← index sense 13).toNat⟩
    else return none

/-- Looks at the descriptor at a position: it holds the registers, or tells where the next one is. -/
def AtaRegisters.step (sense : List UInt8) (stop pos : Nat) :
    Checked (Nat ⊕ Option AtaRegisters) := do
  if (← add 64 pos 2) ≤ stop then
    let length ← add 64 (← index sense (← add 64 pos 1)).toNat 2
    let kind ← index sense pos
    let fits ← (if kind = 0x09 then return decide ((← add 64 pos 12) ≤ stop) else pure false)
    if fits then
      let d ← slice sense pos (← add 64 pos 12)
      return .inr (some ⟨← index d 5, ← index d 9, ← index d 11⟩)
    else return .inl (← add 64 pos length)
  else return .inr none

def AtaRegisters.parse (sense : List UInt8) : Checked (Option AtaRegisters) := do
  match responseCode? sense with
  | none => return none
  | some code =>
    if code = 0x72 ∨ code = 0x73 then
      match sense[7]? with
      | none => return none
      | some extra =>
        let stop := min sense.length (← add 64 8 extra.toNat)
        loop (step sense stop) 512 8
    else if (code = 0x70 ∨ code = 0x71) ∧ 12 ≤ sense.length then
      return some ⟨← index sense 6, ← index sense 10, ← index sense 9⟩
    else return none

theorem Inquiry.parse_eq (bs : List UInt8) : parse bs = .ok (decode bs) := by
  rcases Nat.lt_or_ge bs.length 36 with hn | hn
  · simp [parse, decode, hn, ofOctets?_short hn]
  · obtain ⟨b, rfl⟩ := exists_block hn
    have hvendor : slice b.octets 8 16 = .ok (b.slice 8 8).octets := slice_octets b 8 8
    have hproduct : slice b.octets 16 32 = .ok (b.slice 16 16).octets := slice_octets b 16 16
    have hrevision : slice b.octets 32 36 = .ok (b.slice 32 4).octets := slice_octets b 32 4
    have hlow (n : Nat) : n &&& 31 = n % 32 := Nat.and_two_pow_sub_one_eq_mod n 5
    simp [parse, decode, ofOctets?_octets, Nat.not_lt.2 hn, index_octets, hvendor, hproduct, hrevision,
      hlow, Block.byte]

theorem Capacity.parse_eq (bs : List UInt8) : parse bs = .ok (decode bs) := by
  rcases Nat.lt_or_ge bs.length 8 with hn | hn
  · simp [parse, decode, hn, ofOctets?_short hn]
  · obtain ⟨b, rfl⟩ := exists_block hn
    have hlast := big_lt b 0 4 rfl
    have hblocks : add 64 (b.big 0 4) 1 = .ok (b.big 0 4 + 1) := add_ok (by omega)
    simp [parse, decode, ofOctets?_octets, Nat.not_lt.2 hn, big32_octets, hblocks]

theorem Exceptions.parseTemperature_octets (b : Block 10) :
    parseTemperature b.octets = .ok (do
      let c ← Block.ofOctets? 11 b.octets
      if 3 ≤ c.byte 7 ∧ c.byte 10 ≠ 0 ∧ c.byte 10 ≠ 0xff then some (c.byte 10) else none) := by
  by_cases hlong : 10 < b.octets.length
  · obtain ⟨c, hc⟩ := exists_block (n := 11) hlong
    rw [← hc] at hlong ⊢
    by_cases hthree : 3 ≤ (c.octet 7).toNat <;>
      simp [parseTemperature, index_octets, ofOctets?_octets, hlong, hthree, Block.byte]
  · simp [parseTemperature, index_octets, ofOctets?_short (Nat.lt_succ_of_le (Nat.not_lt.1 hlong)), hlong]

theorem Exceptions.parse_eq (bs : List UInt8) : parse bs = .ok (decode bs) := by
  rcases Nat.lt_or_ge bs.length 10 with hn | hn
  · simp [parse, decode, hn, ofOctets?_short hn]
  · obtain ⟨b, rfl⟩ := exists_block hn
    have hlow (n : Nat) : n &&& 63 = n % 64 := Nat.and_two_pow_sub_one_eq_mod n 6
    have htemperature := parseTemperature_octets b
    by_cases hpage : (b.octet 0).toNat % 64 = 0x2f <;>
      simp [parse, decode, ofOctets?_octets, Nat.not_lt.2 hn, index_octets, hlow, Block.byte, hpage,
        htemperature]

theorem Caching.parsePage_eq (page : List UInt8) :
    parsePage page = .ok (match Block.ofOctets? 3 page with
      | none => .error (.malformed .noCachingPage)
      | some page =>
        if page.byte 0 % 64 = 0x08 then .ok ⟨(page.byte 2).testBit 2, (page.byte 2).testBit 0⟩
        else .error (.malformed .noCachingPage)) := by
  rcases Nat.lt_or_ge page.length 3 with hn | hn
  · simp [parsePage, hn, ofOctets?_short hn]
  · obtain ⟨b, rfl⟩ := exists_block hn
    have hlow (n : Nat) : n &&& 63 = n % 64 := Nat.and_two_pow_sub_one_eq_mod n 6
    by_cases hpage : (b.octet 0).toNat % 64 = 8
    · simp only [parsePage, ofOctets?_octets, Nat.not_lt.2 hn, if_false, index_octets b (show 0 < 3 by omega),
        index_octets b (show 2 < 3 by omega), ok_bind, hlow, hpage, and_bit, Block.byte]
      rfl
    · simp [parsePage, ofOctets?_octets, Nat.not_lt.2 hn, index_octets, hlow, hpage, Block.byte]

theorem Caching.parse_eq (bs : List UInt8) : parse bs = .ok (decode bs) := by
  rcases Nat.lt_or_ge bs.length 8 with hn | hn
  · simp [parse, decode, hn, ofOctets?_short hn]
  · obtain ⟨b, rfl⟩ := exists_block hn
    have hlen := big_lt b 6 2 rfl
    have hstart : add 64 8 (b.big 6 2) = .ok (8 + b.big 6 2) := add_ok (by omega)
    rw [parse, if_neg (Nat.not_lt.2 hn), big16_octets b (by omega) (by omega), ok_bind, hstart, ok_bind,
      decode, ofOctets?_octets]
    by_cases hrest : 8 + b.big 6 2 ≤ b.octets.length
    · rw [rest?, if_pos hrest]
      exact parsePage_eq _
    · have hshort : Block.ofOctets? 3 (b.octets.drop (8 + b.big 6 2)) = none := by
        refine ofOctets?_short ?_
        rw [List.length_drop]
        omega
      rw [rest?, if_neg hrest]
      simp [hshort]

theorem senseFormat?_of_code {bs : List UInt8} {code : UInt8} (h : responseCode? bs = some code) :
    senseFormat? bs = if code = 0x70 ∨ code = 0x71 then some .fixed
      else if code = 0x72 ∨ code = 0x73 then some .descriptor else none := by
  cases bs with
  | nil => simp [responseCode?] at h
  | cons b bs =>
    have hcode : b &&& 0x7f = code := by simpa [responseCode?] using h
    simp [senseFormat?, hcode]

theorem senseFormat?_of_none {bs : List UInt8} (h : responseCode? bs = none) : senseFormat? bs = none := by
  cases bs with
  | nil => rfl
  | cons b bs => simp [responseCode?] at h

theorem not_fixed_of_descriptor {code : UInt8} (h : code = 0x72 ∨ code = 0x73) :
    ¬(code = 0x70 ∨ code = 0x71) := by
  obtain rfl | rfl := h <;> decide

theorem Sense.parse_eq (bs : List UInt8) : parse bs = .ok (ofOctets? bs) := by
  have hlow (n : Nat) : n &&& 15 = n % 16 := Nat.and_two_pow_sub_one_eq_mod n 4
  cases hcode : responseCode? bs with
  | none => simp [parse, ofOctets?, hcode, senseFormat?_of_none hcode]
  | some code =>
    have hformat := senseFormat?_of_code hcode
    by_cases hd : code = 0x72 ∨ code = 0x73
    · have hf := not_fixed_of_descriptor hd
      rw [if_neg hf, if_pos hd] at hformat
      rcases Nat.lt_or_ge bs.length 4 with hn | hn
      · simp [parse, ofOctets?, hcode, hformat, hd, hf, ofOctets?_short hn, Nat.not_le.2 hn]
      · obtain ⟨b, rfl⟩ := exists_block hn
        simp [parse, ofOctets?, hcode, hformat, hd, hn, ofOctets?_octets, index_octets, hlow, Block.byte]
    · by_cases hf : code = 0x70 ∨ code = 0x71
      · rw [if_pos hf] at hformat
        rcases Nat.lt_or_ge bs.length 14 with hn | hn
        · simp [parse, ofOctets?, hcode, hformat, hd, hf, ofOctets?_short hn, Nat.not_le.2 hn]
        · obtain ⟨b, rfl⟩ := exists_block hn
          simp [parse, ofOctets?, hcode, hformat, hd, hf, hn, ofOctets?_octets, index_octets, hlow,
            Block.byte]
      · rw [if_neg hf, if_neg hd] at hformat
        simp [parse, ofOctets?, hcode, hformat, hd, hf]

section

variable {sense : List UInt8} {stop pos : Nat} (hstop : stop ≤ sense.length) (hpos : pos + 2 ≤ stop)

include hstop hpos

theorem AtaRegisters.left_eq : (sense.take stop).drop pos =
    sense[pos] :: sense[pos + 1] :: (sense.take stop).drop (pos + 2) := by
  have hlen : (sense.take stop).length = stop := by
    rw [List.length_take]
    omega
  rw [List.drop_eq_getElem_cons (by omega), List.drop_eq_getElem_cons (show pos + 1 < _ by omega),
    List.getElem_take, List.getElem_take]

theorem AtaRegisters.step_eq (hw : stop < 1 <<< 62) :
    (step sense stop pos = .ok (.inr (inDescriptors ((sense.take stop).drop pos)))) ∨
    (step sense stop pos = .ok (.inl (pos + (sense[pos + 1].toNat + 2))) ∧
      inDescriptors ((sense.take stop).drop pos) =
        inDescriptors ((sense.take stop).drop (pos + (sense[pos + 1].toNat + 2)))) := by
  have hlength := sense[pos + 1].toNat_lt
  have htwo : add 64 pos 2 = .ok (pos + 2) := add_ok (by omega)
  have hone : add 64 pos 1 = .ok (pos + 1) := add_ok (by omega)
  have htwelve : add 64 pos 12 = .ok (pos + 12) := add_ok (by omega)
  have hnext : index sense (pos + 1) = .ok sense[pos + 1] := index_ok (by omega)
  have hkind : index sense pos = .ok sense[pos] := index_ok (by omega)
  have hsum : add 64 sense[pos + 1].toNat 2 = .ok (sense[pos + 1].toNat + 2) := add_ok (by omega)
  have hjump : add 64 pos (sense[pos + 1].toNat + 2) = .ok (pos + (sense[pos + 1].toNat + 2)) :=
    add_ok (by omega)
  have hlen : ((sense.take stop).drop pos).length = stop - pos := by
    rw [List.length_drop, List.length_take]
    omega
  have hleft := left_eq hstop hpos
  by_cases hregisters : sense[pos] = 9 ∧ pos + 12 ≤ stop
  · left
    obtain ⟨c, hc⟩ := exists_block (n := 12) (show 12 ≤ ((sense.take stop).drop pos).length by omega)
    have hslice : slice sense pos (pos + 12) = .ok (c.slice 0 12).octets := by
      have hmin : min 12 (stop - pos) = 12 := Nat.min_eq_left (by omega)
      rw [slice_ok (by omega) (by omega), Nat.add_sub_cancel_left]
      simp [Block.slice, hc, List.drop_take, List.take_take, hmin]
    have hwalk : inDescriptors c.octets = some ⟨c.octet 5, c.octet 9, c.octet 11⟩ := by
      have hl := c.le_length
      rw [hc, hleft] at hl
      rw [hc, hleft, inDescriptors, dif_pos ⟨hregisters.1, hl⟩]
      simp [Block.octet, hc, hleft]
    rw [← hc, hwalk]
    simp [step, htwo, hone, htwelve, hnext, hkind, hsum, hpos, hregisters, hslice, index_octets, octet_head]
  · right
    constructor
    · by_cases hnine : sense[pos] = 9
      · have hfits : ¬pos + 12 ≤ stop := fun h => hregisters ⟨hnine, h⟩
        simp [step, htwo, hone, htwelve, hnext, hkind, hsum, hpos, hnine, hfits, hjump]
      · simp [step, htwo, hone, hnext, hkind, hsum, hpos, hnine, hjump]
    · have hnot : ¬(sense[pos] = 9 ∧ 12 ≤ (sense[pos] :: sense[pos + 1] ::
          (sense.take stop).drop (pos + 2)).length) := by
        rw [← hleft, hlen]
        exact fun h => hregisters ⟨h.1, by omega⟩
      rw [hleft, inDescriptors, dif_neg hnot, List.drop_drop, show pos + 2 + sense[pos + 1].toNat =
        pos + (sense[pos + 1].toNat + 2) by omega]

end

theorem AtaRegisters.inDescriptors_of_short {bs : List UInt8} (h : bs.length < 2) :
    inDescriptors bs = none := by
  match bs, h with
  | [], _ => rw [inDescriptors]; simp
  | [_], _ => rw [inDescriptors]; simp

/-- The walk from any position up to `stop` ends with what the descriptors from there on hold. -/
theorem AtaRegisters.loop_eq {sense : List UInt8} {stop pos : Nat} (hstop : stop ≤ sense.length)
    (hw : stop < 512) (hpos : pos ≤ 1024) :
    loop (step sense stop) 512 pos = .ok (inDescriptors ((sense.take stop).drop pos)) := by
  refine loop_ok (fun pos => pos ≤ 1024) (fun pos => stop - pos)
    (fun pos => inDescriptors ((sense.take stop).drop pos)) (fun pos hs => ?_) hpos (by omega)
  by_cases hroom : pos + 2 ≤ stop
  · have hlength := sense[pos + 1].toNat_lt
    obtain hfound | ⟨hstep, hwalk⟩ := step_eq hstop hroom (by omega)
    · exact .inl hfound
    · exact .inr ⟨_, hstep, by omega, by omega, hwalk.symm⟩
  · have hshort : ((sense.take stop).drop pos).length < 2 := by
      rw [List.length_drop, List.length_take]
      omega
    have htwo : add 64 pos 2 = .ok (pos + 2) := add_ok (by omega)
    left
    simp [step, htwo, hroom, inDescriptors_of_short hshort]

theorem AtaRegisters.parse_eq (bs : List UInt8) : parse bs = .ok (ofSense? bs) := by
  cases hcode : responseCode? bs with
  | none => simp [parse, ofSense?, hcode, senseFormat?_of_none hcode]
  | some code =>
    have hformat := senseFormat?_of_code hcode
    by_cases hd : code = 0x72 ∨ code = 0x73
    · have hf := not_fixed_of_descriptor hd
      rw [if_neg hf, if_pos hd] at hformat
      by_cases hn : 7 < bs.length
      · obtain ⟨b, rfl⟩ := exists_block (n := 8) hn
        have hseven : b.octets[7]? = some (b.octet 7) := List.getElem?_eq_getElem hn
        have hextra := (b.octet 7).toNat_lt
        have hend : add 64 8 (b.octet 7).toNat = .ok (8 + (b.octet 7).toNat) := add_ok (by omega)
        generalize hstop : min b.octets.length (8 + (b.octet 7).toNat) = stop
        have hwalk : loop (step b.octets stop) 512 8 = .ok (inDescriptors ((b.octets.take stop).drop 8)) :=
          loop_eq (by omega) (by omega) (by omega)
        have hleft : (b.octets.take stop).drop 8 =
            (b.octets.drop 8).take (b.octet 7).toNat := by
          rw [List.drop_take, List.take_eq_take_iff, List.length_drop]
          omega
        simp [parse, ofSense?, hcode, hformat, hd, ofOctets?_octets, hseven, hend, hstop, hwalk, hleft,
          Block.byte]
      · have hseven : bs[7]? = none := List.getElem?_eq_none (Nat.not_lt.1 hn)
        simp [parse, ofSense?, hcode, hformat, hd,
          ofOctets?_short (Nat.lt_succ_of_le (Nat.not_lt.1 hn)), hseven]
    · by_cases hf : code = 0x70 ∨ code = 0x71
      · rw [if_pos hf] at hformat
        rcases Nat.lt_or_ge bs.length 12 with hn | hn
        · simp [parse, ofSense?, hcode, hformat, hd, hf, ofOctets?_short hn, Nat.not_le.2 hn]
        · obtain ⟨b, rfl⟩ := exists_block hn
          simp [parse, ofSense?, hcode, hformat, hd, hf, hn, ofOctets?_octets, index_octets]
      · rw [if_neg hf, if_neg hd] at hformat
        simp [parse, ofSense?, hcode, hformat, hd, hf]

end DriveHealth.Scsi
