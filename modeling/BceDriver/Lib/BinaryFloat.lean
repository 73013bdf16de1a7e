import Mathlib.Algebra.Order.Field.Power
import Mathlib.Algebra.Order.Floor.Semifield
import Mathlib.Data.Rat.Floor
import Mathlib.Tactic.FieldSimp
import Mathlib.Tactic.Positivity
import Mathlib.Tactic.Ring

/-!
# Binary floating point formats

The numbers of a binary interchange format with `eb` bits of exponent and `fb`
of fraction, as rationals.

- `BinaryFloat.ofBits`: the number a bit pattern encodes, by its fields.
- `BinaryFloat.lt_two_pow_iff`: the exponent alone decides which powers of two a
  number is below.
- `BinaryFloat.floor_magnitude`: the integer part of a number, from its fields.
-/

/-- A number of the format, by the fields of its encoding. -/
structure BinaryFloat (eb fb : Nat) where
  negative : Bool
  exponent : Nat
  fraction : Nat
  exponent_lt : exponent < 2 ^ eb
  fraction_lt : fraction < 2 ^ fb

namespace BinaryFloat

variable {eb fb : Nat}

/-- The number a bit pattern encodes. -/
def ofBits (eb fb bits : Nat) : BinaryFloat eb fb where
  negative := bits.testBit (eb + fb)
  exponent := bits / 2 ^ fb % 2 ^ eb
  fraction := bits % 2 ^ fb
  exponent_lt := Nat.mod_lt _ (Nat.two_pow_pos eb)
  fraction_lt := Nat.mod_lt _ (Nat.two_pow_pos fb)

variable (x : BinaryFloat eb fb)

/-- What is subtracted from an exponent. -/
def bias (_ : BinaryFloat eb fb) : Nat := 2 ^ (eb - 1) - 1

/-- Not an infinity and not a NaN. -/
def Finite : Prop := x.exponent ≠ 2 ^ eb - 1

instance : Decidable x.Finite := inferInstanceAs (Decidable (_ ≠ _))

/-- The fraction with its leading bit, which a subnormal number has not. -/
def significand : Nat := if x.exponent = 0 then x.fraction else 2 ^ fb + x.fraction

/-- The absolute value of a finite number. -/
def magnitude : ℚ := x.significand * 2 ^ (((max x.exponent 1 : Nat) : ℤ) - x.bias - fb)

def value : ℚ := if x.negative then -x.magnitude else x.magnitude

variable {x}

theorem magnitude_nonneg : 0 ≤ x.magnitude := by
  unfold magnitude
  positivity

theorem value_nonpos (h : x.negative = true) : x.value ≤ 0 := by
  unfold value
  rw [if_pos h]
  exact neg_nonpos.mpr magnitude_nonneg

theorem value_eq (h : x.negative = false) : x.value = x.magnitude := by
  unfold value
  rw [if_neg (by rw [h]; exact Bool.false_ne_true)]

theorem significand_lt : x.significand < 2 ^ (fb + 1) := by
  have hlt := x.fraction_lt
  unfold significand
  rw [Nat.pow_succ]
  split <;> omega

theorem le_significand (h : x.exponent ≠ 0) : 2 ^ fb ≤ x.significand := by
  unfold significand
  rw [if_neg h]
  exact Nat.le_add_right ..

/-- The exponent decides which powers of two from `1` on a number is below. -/
theorem lt_two_pow_iff (hbias : 1 < x.bias) (n : Nat) :
    x.magnitude < 2 ^ n ↔ x.exponent < x.bias + n := by
  have hpow : (2 : ℚ) ^ n = 2 ^ fb * 2 ^ ((n : ℤ) - fb) := by
    rw [zpow_sub₀ two_ne_zero, zpow_natCast, zpow_natCast]
    field_simp
  constructor
  · intro hlt
    by_contra hge
    have hne : x.exponent ≠ 0 := by omega
    refine absurd hlt (not_lt.mpr ?_)
    have hsig : (2 : ℚ) ^ fb ≤ x.significand := by exact_mod_cast le_significand hne
    rw [hpow]
    exact mul_le_mul hsig (zpow_le_zpow_right₀ one_le_two (by omega))
      (by positivity) (by positivity)
  · intro hlt
    have hsig : (x.significand : ℚ) < 2 ^ (fb + 1) := by exact_mod_cast x.significand_lt
    calc x.magnitude
        < 2 ^ (fb + 1) * 2 ^ (((max x.exponent 1 : Nat) : ℤ) - x.bias - fb) :=
          mul_lt_mul_of_pos_right hsig (by positivity)
      _ ≤ 2 ^ (fb + 1) * 2 ^ ((n : ℤ) - 1 - fb) :=
          mul_le_mul_of_nonneg_left (zpow_le_zpow_right₀ one_le_two (by omega)) (by positivity)
      _ = 2 ^ n := by
          rw [hpow, pow_succ, mul_assoc, ← zpow_one_add₀ two_ne_zero]
          congr 2
          ring

/-- **The integer part** of a number that is not below one. -/
theorem floor_magnitude (hbias : 1 < x.bias) (h : x.bias ≤ x.exponent) :
    ⌊x.magnitude⌋₊ = (2 ^ fb + x.fraction) * 2 ^ (x.exponent - x.bias) / 2 ^ fb := by
  have hne : x.exponent ≠ 0 := by omega
  have hscale : (2 : ℚ) ^ (((max x.exponent 1 : Nat) : ℤ) - x.bias - fb) =
      2 ^ (x.exponent - x.bias) / 2 ^ fb := by
    have hexp : ((max x.exponent 1 : Nat) : ℤ) - x.bias - fb =
        ((x.exponent - x.bias : Nat) : ℤ) - fb := by omega
    rw [hexp, zpow_sub₀ two_ne_zero, zpow_natCast, zpow_natCast]
  have hvalue : x.magnitude =
      ((2 ^ fb + x.fraction) * 2 ^ (x.exponent - x.bias) : Nat) / (2 ^ fb : Nat) := by
    unfold magnitude significand
    rw [if_neg hne, hscale]
    push_cast
    ring
  rw [hvalue, Nat.floor_div_eq_div]

end BinaryFloat
