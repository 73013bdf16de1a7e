import BceDriver.Audio.Pcm
import BceDriver.Lib.BinaryFloat

/-!
# The sample rate (`audio/description.h`)

The device describes the sample rate of a stream as a double, and
`aaudio_double_to_u64` takes its integer part with shifts.

- `aaudioDoubleToU64_eq`: the function, in terms of the fields of the double.
- `convertsDouble_iff`: the result. Behind `2 ^ 53` the fraction would have to be
  shifted to the left.
- `aaudioCreateHwInfo_rate`: what that makes of the rate of a stream.
-/

namespace BceDriver

/-- The double a bit pattern encodes. -/
def doubleOf (d : BitVec 64) : BinaryFloat 11 52 := .ofBits 11 52 d.toNat

/-- Every shift is by a count from 0 to 63, and the result is the integer part of the
double, which is 0 for one below 1. -/
def ConvertsDouble (d : BitVec 64) : Prop :=
  ∃ n, aaudioDoubleToU64 d = some n ∧
    ((doubleOf d).value < 1 → n = 0) ∧
    (1 ≤ (doubleOf d).value → (doubleOf d).value < 2 ^ 64 → n.toNat = ⌊(doubleOf d).value⌋₊)

/-! ## Fields -/

section Fields

variable (d : BitVec 64)

theorem one_lt_bias : 1 < (doubleOf d).bias := (by decide : 1 < 1023)

theorem signBit_eq : (d >>> 63) &&& 1 ≠ 0 ↔ (doubleOf d).negative = true := by
  have hbit : ((d >>> 63) &&& 1).toNat = d.toNat / 2 ^ 63 := by
    rw [BitVec.toNat_and, BitVec.toNat_ushiftRight, Nat.shiftRight_eq_div_pow]
    show d.toNat / 2 ^ 63 &&& 1 = _
    rw [Nat.and_one_is_mod]
    have hlt := d.isLt
    omega
  rw [ne_eq, ← BitVec.toNat_inj, hbit]
  show _ ↔ d.toNat.testBit 63 = true
  rw [Nat.testBit_eq_decide_div_mod_eq, decide_eq_true_iff]
  have hlt := d.isLt
  show ¬d.toNat / 2 ^ 63 = 0 ↔ _
  omega

theorem expField_eq : ((d >>> 52) &&& 0x7ff).toNat = (doubleOf d).exponent := by
  rw [BitVec.toNat_and, BitVec.toNat_ushiftRight, Nat.shiftRight_eq_div_pow]
  exact Nat.and_two_pow_sub_one_eq_mod _ 11

theorem fractionField_eq : (d &&& ((1#64 <<< 52) - 1)).toNat = (doubleOf d).fraction := by
  rw [BitVec.toNat_and]
  exact Nat.and_two_pow_sub_one_eq_mod _ 52

end Fields

/-! ## The conversion -/

/-- The leading bit and the fraction, each shifted into place. -/
theorem shifted_significand {e f fb : Nat} (he : e ≤ fb) :
    2 ^ e + f / 2 ^ (fb - e) = (2 ^ fb + f) * 2 ^ e / 2 ^ fb := by
  obtain ⟨k, rfl⟩ := Nat.exists_eq_add_of_le he
  have hpow : 2 ^ (e + k) = 2 ^ k * 2 ^ e := by rw [Nat.pow_add, Nat.mul_comm]
  rw [Nat.add_sub_cancel_left, hpow, Nat.mul_div_mul_right _ _ (Nat.two_pow_pos e),
    Nat.mul_comm (2 ^ k), Nat.mul_comm (2 ^ e), Nat.add_comm, Nat.add_comm (2 ^ k * 2 ^ e),
    Nat.add_mul_div_left _ _ (Nat.two_pow_pos k)]

theorem aaudioDoubleToU64_eq (d : BitVec 64) :
    aaudioDoubleToU64 d =
      if (doubleOf d).negative = true ∨ (doubleOf d).exponent < 1023 then some 0
      else if (doubleOf d).exponent ≤ 1075 then
        some (.ofNat 64 ((2 ^ 52 + (doubleOf d).fraction) *
          2 ^ ((doubleOf d).exponent - 1023) / 2 ^ 52))
      else none := by
  unfold aaudioDoubleToU64
  simp only [signBit_eq, expField_eq, ShiftCount]
  by_cases hzero : (doubleOf d).negative = true ∨ (doubleOf d).exponent < 1023
  · rw [if_pos hzero, if_pos (hzero.imp_right fun h => by omega)]
  · rw [if_neg hzero, if_neg (fun h => hzero (h.imp_right fun h => by omega))]
    obtain ⟨-, hexp⟩ := not_or.mp hzero
    by_cases hle : (doubleOf d).exponent ≤ 1075
    · rw [if_pos hle, if_pos (by omega)]
      obtain ⟨e, he⟩ := Nat.exists_eq_add_of_le (Nat.not_lt.mp hexp)
      have hshift : ((doubleOf d).exponent - 1023 : Int).toNat = e ∧
          (52 - ((doubleOf d).exponent - 1023 : Int)).toNat = 52 - e := by omega
      rw [hshift.1, hshift.2, he, Nat.add_sub_cancel_left, ← shifted_significand (by omega)]
      congr 1
      apply BitVec.eq_of_toNat_eq
      rw [BitVec.toNat_add, BitVec.toNat_shiftLeft, BitVec.toNat_ushiftRight, fractionField_eq,
        Nat.shiftRight_eq_div_pow, Nat.shiftLeft_eq, BitVec.toNat_ofNat]
      show (1 * 2 ^ e % 2 ^ 64 + _) % 2 ^ 64 = _
      rw [Nat.one_mul, Nat.mod_add_mod, BitVec.toNat_ofNat]
    · rw [if_neg hle, if_neg (by omega)]

/-- Below 64 bits, the integer part is what the shifts give. -/
theorem significand_lt (x : BinaryFloat 11 52) {e : Nat} (he : e ≤ 52) :
    (2 ^ 52 + x.fraction) * 2 ^ e / 2 ^ 52 < 2 ^ 64 := by
  have hfraction := x.fraction_lt
  have hpow : 2 ^ e ≤ 2 ^ 52 := Nat.pow_le_pow_right (by decide) he
  calc (2 ^ 52 + x.fraction) * 2 ^ e / 2 ^ 52
      ≤ (2 ^ 52 + x.fraction) * 2 ^ 52 / 2 ^ 52 :=
        Nat.div_le_div_right (Nat.mul_le_mul_left _ hpow)
    _ < 2 ^ 64 := by omega

theorem two_pow_53_le_iff (d : BitVec 64) (hneg : (doubleOf d).negative = false) :
    2 ^ 53 ≤ (doubleOf d).value ↔ 1075 < (doubleOf d).exponent := by
  rw [BinaryFloat.value_eq hneg, ← not_lt, BinaryFloat.lt_two_pow_iff (one_lt_bias d) 53, not_lt]
  exact Nat.succ_le_iff

/-- Behind `2 ^ 53` the fraction would have to be shifted by a negative count. -/
theorem aaudioDoubleToU64_eq_none {d : BitVec 64} (hge : 2 ^ 53 ≤ (doubleOf d).value) :
    aaudioDoubleToU64 d = none := by
  have hneg : (doubleOf d).negative = false := by
    by_contra hneg
    have hle := BinaryFloat.value_nonpos (Bool.not_eq_false _ ▸ hneg)
    exact absurd (hge.trans hle) (by norm_num)
  have hexp := (two_pow_53_le_iff d hneg).mp hge
  rw [aaudioDoubleToU64_eq, if_neg, if_neg (by omega)]
  rw [hneg]
  simp only [Bool.false_eq_true, false_or]
  omega

theorem ConvertsDouble.of_lt {d : BitVec 64} (hlt : (doubleOf d).value < 2 ^ 53) :
    ConvertsDouble d := by
  have hbias := one_lt_bias d
  unfold ConvertsDouble
  rw [aaudioDoubleToU64_eq]
  cases hneg : (doubleOf d).negative with
  | true =>
    have hle := BinaryFloat.value_nonpos hneg
    rw [if_pos (.inl rfl)]
    exact ⟨0, rfl, fun _ => rfl, fun hge => absurd (hge.trans hle) (by norm_num)⟩
  | false =>
    have hexp := mt (two_pow_53_le_iff d hneg).mpr hlt.not_ge
    have hone := BinaryFloat.lt_two_pow_iff (x := doubleOf d) hbias 0
    rw [pow_zero] at hone
    rw [BinaryFloat.value_eq hneg]
    simp only [Bool.false_eq_true, false_or]
    by_cases hsmall : (doubleOf d).exponent < 1023
    · rw [if_pos hsmall]
      exact ⟨0, rfl, fun _ => rfl, fun hge => absurd (hone.mpr hsmall) hge.not_gt⟩
    · rw [if_neg hsmall, if_pos (by omega)]
      refine ⟨_, rfl, fun h => absurd h (mt hone.mp hsmall), fun _ _ => ?_⟩
      rw [BinaryFloat.floor_magnitude hbias (Nat.not_lt.mp hsmall), BitVec.toNat_ofNat]
      exact Nat.mod_eq_of_lt (significand_lt _ (by omega))

/-- **The conversion of a double** is its integer part, with no shift out of range,
exactly below `2 ^ 53`. -/
theorem convertsDouble_iff (d : BitVec 64) :
    ConvertsDouble d ↔ (doubleOf d).value < 2 ^ 53 := by
  refine ⟨fun ⟨n, hn, _⟩ => ?_, .of_lt⟩
  by_contra hge
  rw [aaudioDoubleToU64_eq_none (not_lt.mp hge)] at hn
  cases hn

example : aaudioDoubleToU64 0x40E7700000000000 = some 48000 := by decide

/-- `2 ^ 53` asks for a shift by -1. -/
theorem not_convertsDouble : ¬∀ d, (doubleOf d).Finite → ConvertsDouble d := by
  intro h
  obtain ⟨n, hn, -⟩ := h 0x4340000000000000 (by decide)
  have hnone : aaudioDoubleToU64 0x4340000000000000 = none := by decide
  exact absurd (hnone.symm.trans hn) nofun

/-! ## The rate of a stream -/

/-- The rate of a stream is the integer part of the sample rate, in 32 bits. -/
theorem aaudioCreateHwInfo_rate {desc : AaudioAppleDescription} {bufSize : Nat}
    {hw : SndPcmHardware} (h : aaudioCreateHwInfo desc bufSize = some hw)
    (hone : 1 ≤ (doubleOf desc.sampleRateDouble).value)
    (hlt : (doubleOf desc.sampleRateDouble).value < 2 ^ 53) :
    hw.rate = some (⌊(doubleOf desc.sampleRateDouble).value⌋₊ % 2 ^ 32) := by
  obtain ⟨formats, -, rfl⟩ := Option.map_eq_some_iff.mp h
  obtain ⟨n, hn, -, hfloor⟩ := ConvertsDouble.of_lt hlt
  show (aaudioDoubleToU64 desc.sampleRateDouble).map _ = _
  rw [hn, ← hfloor hone (hlt.trans (by norm_num))]
  rfl

end BceDriver
