import DriveHealth.Nvme.Controller
import DriveHealth.Nvme.Log
import DriveHealth.Proofs.Checked
set_option autoImplicit false

namespace DriveHealth.Nvme

open Checked

def Controller.parse (bs : List UInt8) : Checked (Except Fault Controller) :=
  ensure 4096 "IDENTIFY CONTROLLER" bs do
    let oui := (← index bs 73).toNat ||| (← shl 32 (← index bs 74).toNat 8) |||
      (← shl 32 (← index bs 75).toNat 16)
    return {
      vendorId := ← little16 bs 0
      subsystemVendorId := ← little16 bs 2
      serial := text (← slice bs 4 24)
      model := text (← slice bs 24 64)
      firmware := text (← slice bs 64 72)
      ieeeOui := oui
      controllerId := ← little16 bs 78
      version := ← little32 bs 80
      adminCommands := ← little16 bs 256
      errorLogEntries := ← add 16 (← index bs 262).toNat 1
      powerStates := ← add 16 (← index bs 263).toNat 1
      warningKelvin := ← little16 bs 266
      criticalKelvin := ← little16 bs 268
      totalCapacity := ← littleCopy 16 bs 280
      namespaces := ← little32 bs 516
      nvmCommands := ← little16 bs 520
      writeCache := ((← index bs 525).toNat &&& (1 <<< 0)) != 0 }

def Health.parse (bs : List UInt8) : Checked (Except Fault Health) :=
  ensure 512 "SMART/Health log" bs do
    return {
      criticalWarning := (← index bs 0).toNat
      kelvin := ← little16 bs 1
      spare := (← index bs 3).toNat
      spareThreshold := (← index bs 4).toNat
      used := (← index bs 5).toNat
      unitsRead := ← littleCopy 16 bs 32
      unitsWritten := ← littleCopy 16 bs 48
      hostReads := ← littleCopy 16 bs 64
      hostWrites := ← littleCopy 16 bs 80
      busyTime := ← littleCopy 16 bs 96
      powerCycles := ← littleCopy 16 bs 112
      powerOnHours := ← littleCopy 16 bs 128
      unsafeShutdowns := ← littleCopy 16 bs 144
      mediaErrors := ← littleCopy 16 bs 160
      errorLogEntries := ← littleCopy 16 bs 176
      warningMinutes := ← little32 bs 192
      criticalMinutes := ← little32 bs 196 }

def ErrorEntry.parse (raw : List UInt8) : Checked ErrorEntry := do
  return {
    errorCount := ← littleCopy 8 raw 0
    submissionQueue := ← little16 raw 8
    commandId := ← little16 raw 10
    status := ← little16 raw 12
    lba := ← littleCopy 8 raw 16
    nsid := ← little32 raw 24 }

def ErrorEntry.parseAll (bs : List UInt8) : Checked (List ErrorEntry) := do
  return (← (chunks size bs).mapM parse).filter (·.errorCount != 0)

def SelfTest.parse (raw : List UInt8) : Checked SelfTest := do
  let valid := ((← index raw 2).toNat &&& (1 <<< 1)) != 0
  return {
    code := ← shr 8 (← index raw 0).toNat 4
    result := (← index raw 0).toNat &&& 0x0f
    powerOnHours := ← littleCopy 8 raw 4
    failingLba := ← if valid then some <$> littleCopy 8 raw 16 else pure none }

def SelfTestLog.parse (bs : List UInt8) : Checked (Except Fault SelfTestLog) :=
  ensure 564 "self-test log" bs do
    let results ← collect (fun raw => do return ((← index raw 0).toNat &&& 0x0f) != 0x0f) SelfTest.parse
      (chunks 28 (← slice bs 4 564))
    return ⟨(← index bs 0).toNat &&& 0x0f, (← index bs 1).toNat &&& 0x7f, results⟩

theorem or_shifts {a b c : Nat} (ha : a < 256) (hb : b < 256) (hc : c < 256) :
    a ||| (b <<< 8 % (1 <<< 32)) ||| (c <<< 16 % (1 <<< 32)) = a + 256 * (b + 256 * c) := by
  have hmiddle : b <<< 8 % (1 <<< 32) = b <<< 8 := by
    simp only [Nat.shiftLeft_eq, Nat.reducePow]
    omega
  have htop : c <<< 16 % (1 <<< 32) = c <<< 16 := by
    simp only [Nat.shiftLeft_eq, Nat.reducePow]
    omega
  have hlow : b <<< 8 ||| a = b * 256 + a := by
    rw [← Nat.shiftLeft_add_eq_or_of_lt (i := 8) ha, Nat.shiftLeft_eq]
  have hhigh : c <<< 16 ||| (b * 256 + a) = c * 65536 + (b * 256 + a) := by
    rw [← Nat.shiftLeft_add_eq_or_of_lt (i := 16) (by omega), Nat.shiftLeft_eq]
  rw [hmiddle, htop, Nat.or_comm a, hlow, Nat.or_comm, hhigh]
  omega

theorem Controller.parse_eq (bs : List UInt8) : parse bs = .ok (decode bs) := by
  refine ensure_ok fun b hb => ?_
  subst hb
  have hserial : slice b.octets 4 24 = .ok (b.slice 4 20).octets := slice_octets b 4 20
  have hmodel : slice b.octets 24 64 = .ok (b.slice 24 40).octets := slice_octets b 24 40
  have hfirmware : slice b.octets 64 72 = .ok (b.slice 64 8).octets := slice_octets b 64 8
  have hoctets : (b.slice 73 3).octets = [b.octet 73, b.octet 74, b.octet 75] := by
    have h := octetsAt_octets b 73 3 rfl (by omega)
    simpa [octetsAt, List.range_succ, add_ok, index_octets] using h.symm
  have houi : (b.octet 73).toNat ||| ((b.octet 74).toNat <<< 8 % (1 <<< 32)) |||
      ((b.octet 75).toNat <<< 16 % (1 <<< 32)) = b.little 73 3 := by
    rw [or_shifts (b.octet 73).toNat_lt (b.octet 74).toNat_lt (b.octet 75).toNat_lt, Block.little, hoctets]
    rfl
  have hentries : add 16 (b.octet 262).toNat 1 = .ok (b.byte 262 + 1) := by
    have h := b.byte_lt 262 rfl
    exact add_ok (show b.byte 262 + 1 < 1 <<< 16 by omega)
  have hstates : add 16 (b.octet 263).toNat 1 = .ok (b.byte 263 + 1) := by
    have h := b.byte_lt 263 rfl
    exact add_ok (show b.byte 263 + 1 < 1 <<< 16 by omega)
  simp [index_octets, little16_octets, little32_octets, littleCopy_octets, ofBlock, shl_ok, hserial, hmodel,
    hfirmware, hentries, hstates]
  exact ⟨houi, rfl⟩

theorem Health.parse_eq (bs : List UInt8) : parse bs = .ok (decode bs) := by
  refine ensure_ok fun b hb => ?_
  subst hb
  simp [index_octets, little16_octets, little32_octets, littleCopy_octets, ofBlock, Block.byte]

theorem ErrorEntry.parse_octets (b : Block 64) : parse b.octets = .ok (ofBlock b) := by
  simp [parse, ofBlock, little16_octets, little32_octets, littleCopy_octets]

theorem ErrorEntry.parseAll_eq (bs : List UInt8) : parseAll bs = .ok (decodeAll bs) := by
  have hchunks : chunks 64 bs = (Block.records (n := 64 * (bs.length / 64))
      ⟨bs, Nat.mul_div_le bs.length 64⟩ 0 64 (bs.length / 64) (by simp)).map (·.octets) := by
    rw [octets_records, chunks]
    simp
  rw [parseAll, size, hchunks, List.mapM_map, Function.comp_def, mapM_ok fun b _ => parse_octets b]
  rfl

theorem SelfTest.parse_octets (b : Block 28) : parse b.octets = .ok (ofBlock b) := by
  have hvalid := and_bit (b.octet 2).toNat 1
  have hcode : (b.octet 0).toNat >>> 4 = (b.octet 0).toNat / 16 := Nat.shiftRight_eq_div_pow _ 4
  have hlow : (b.octet 0).toNat &&& 15 = (b.octet 0).toNat % 16 := Nat.and_two_pow_sub_one_eq_mod _ 4
  simp only [parse, index_octets b (show 2 < 28 by omega), index_octets b (show 0 < 28 by omega), ok_bind,
    hvalid, shr_ok (show 4 < 8 by omega), hcode, hlow, littleCopy_octets b (show 4 + 8 ≤ 28 by omega) (by omega),
    littleCopy_octets b (show 16 + 8 ≤ 28 by omega) (by omega), map_ok, pure_eq_ok, ofBlock, Block.byte]
  by_cases hbit : (b.octet 2).toNat.testBit 1 <;> simp [hbit]

theorem SelfTestLog.parse_eq (bs : List UInt8) : parse bs = .ok (decode bs) := by
  refine ensure_ok fun b hb => ?_
  subst hb
  have hslice : slice b.octets 4 564 = .ok (b.slice 4 560).octets := slice_octets b 4 560
  have hchunks := chunks_octets b 4 28 20 (by omega)
  have hfour (n : Nat) : n &&& 15 = n % 16 := Nat.and_two_pow_sub_one_eq_mod n 4
  have hseven (n : Nat) : n &&& 127 = n % 128 := Nat.and_two_pow_sub_one_eq_mod n 7
  have hkeep : ∀ d ∈ b.records 4 28 20, (do return ((← index d.octets 0).toNat &&& 15) != 15) =
      .ok (d.byte 0 % 16 != 15) := by
    intro d _
    rw [index_octets d (by omega), ok_bind, hfour]
    rfl
  have hresults := collect_ok hkeep fun d _ => SelfTest.parse_octets d
  rw [hslice, ok_bind, hchunks, collect_map, hresults, ok_bind, index_octets b (by omega), ok_bind, hfour,
    index_octets b (by omega), ok_bind, hseven, List.filter_map]
  rfl

end DriveHealth.Nvme
