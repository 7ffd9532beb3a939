import Mathlib.Data.Rat.Cast.Order
import Mathlib.Order.Monotone.Basic
import Mathlib.Tactic.Positivity
import WebDispatch.Decimal.Nearest

/-!
# Numbers between zero and one

What number a bit pattern stands for, and that the bit patterns of decimals, cut off at one, lie
between those of zero and one.  All numbers are counted in units of the least positive one, so that
their order is an order of natural numbers.
-/

namespace WebDispatch
namespace Decimal

/-! ### The number of a bit pattern -/

/-- How many times `2 ^ -149` the number with a bit pattern is. -/
def units (bits : Nat) : Nat :=
  if bits < 2 ^ 23 then bits else (2 ^ 23 + bits % 2 ^ 23) * 2 ^ (bits / 2 ^ 23 - 1)

/-- The number with a bit pattern. -/
def value (bits : Nat) : ℚ := units bits / 2 ^ 149

theorem units_zero : units 0 = 0 := rfl

theorem units_oneBits : units oneBits = 2 ^ 149 := by decide +kernel

theorem units_lt_units_succ (bits : Nat) : units bits < units (bits + 1) := by
  unfold units
  by_cases tiny : bits + 1 < 2 ^ 23
  · rw [if_pos (by omega), if_pos tiny]
    exact Nat.lt_succ_self bits
  · rw [if_neg tiny]
    by_cases least_normal : bits + 1 = 2 ^ 23
    · rw [if_pos (by omega), least_normal]
      norm_num
      omega
    · rw [if_neg (by omega)]
      obtain ⟨exponent, exponent_eq⟩ : ∃ exponent, bits / 2 ^ 23 = exponent + 1 :=
        Nat.exists_eq_succ_of_ne_zero (by omega)
      by_cases carries : (bits + 1) % 2 ^ 23 = 0
      · -- The significand is full, so the next number has the least one of the next exponent.
        have full : bits % 2 ^ 23 = 2 ^ 23 - 1 := by omega
        have next : (bits + 1) / 2 ^ 23 = exponent + 2 := by omega
        rw [carries, full, exponent_eq, next, Nat.add_sub_cancel, Nat.add_zero,
          show exponent + 2 - 1 = exponent + 1 from rfl, Nat.pow_succ 2 exponent]
        have positive : 0 < 2 ^ exponent := Nat.two_pow_pos exponent
        omega
      · have significand : (bits + 1) % 2 ^ 23 = bits % 2 ^ 23 + 1 := by omega
        have same : (bits + 1) / 2 ^ 23 = exponent + 1 := by omega
        rw [significand, exponent_eq, same]
        exact Nat.mul_lt_mul_of_pos_right (by omega) (Nat.two_pow_pos _)

theorem strictMono_units : StrictMono units :=
  strictMono_nat_of_lt_succ units_lt_units_succ

/-- Bit patterns are ordered as the numbers are. -/
theorem strictMono_value : StrictMono value := by
  intro a b lower
  unfold value
  rw [div_lt_div_iff_of_pos_right (by positivity), Nat.cast_lt]
  exact strictMono_units lower

theorem value_zero : value 0 = 0 := by
  simp [value, units_zero]

theorem value_oneBits : value oneBits = 1 := by
  rw [value, units_oneBits]
  norm_num

/-! ### Decimals up to one -/

/-- A fraction below one is scaled at least once, and less often it stays below one. -/
theorem scaleBy_spec {numerator denominator : Nat} (below : numerator < denominator)
    (bound : Nat) (positive : 0 < bound) :
    0 < scaleBy numerator denominator bound ∧ scaleBy numerator denominator bound ≤ bound ∧
      numerator * 2 ^ (scaleBy numerator denominator bound - 1) < denominator := by
  unfold scaleBy
  cases found : (List.range bound).find? fun k => denominator ≤ numerator * Nat.pow 2 k with
  | none =>
      have short := List.find?_eq_none.mp found (bound - 1) (by simp; omega)
      exact ⟨positive, le_rfl, by simpa using short⟩
  | some k =>
      obtain ⟨enough, inside, least⟩ := List.find?_range_eq_some.mp found
      have scaled : 0 < k := by
        refine Nat.pos_of_ne_zero fun unscaled => ?_
        subst unscaled
        have : denominator ≤ numerator := by simpa using enough
        omega
      have short := least (k - 1) (by omega)
      exact ⟨scaled, (List.mem_range.mp inside).le, by simpa using short⟩

theorem roundDiv_le {numerator denominator limit : Nat} (below : numerator < denominator * limit) :
    roundDiv numerator denominator ≤ limit := by
  have quotient_lt : numerator / denominator < limit := Nat.div_lt_of_lt_mul below
  unfold roundDiv
  dsimp only
  split <;> omega

/-- Rounding takes no fraction below one above one. -/
theorem nearestBits_le {numerator denominator : Nat} (below : numerator < denominator) :
    nearestBits numerator denominator ≤ oneBits := by
  obtain ⟨scaled, scale_le, short⟩ := scaleBy_spec below 126 (by decide)
  unfold nearestBits
  dsimp only
  generalize scaleBy numerator denominator 126 = scale at scaled scale_le short ⊢
  obtain ⟨k, rfl⟩ : ∃ k, scale = k + 1 := Nat.exists_eq_succ_of_ne_zero (by omega)
  have significand_le : roundDiv (numerator * 2 ^ (k + 1 + 23)) denominator ≤ 2 ^ 24 := by
    refine roundDiv_le ?_
    calc numerator * 2 ^ (k + 1 + 23) = numerator * 2 ^ k * 2 ^ 24 := by
          rw [Nat.mul_assoc, ← Nat.pow_add, Nat.add_assoc]
      _ < denominator * 2 ^ 24 := Nat.mul_lt_mul_of_pos_right short (by decide)
  simp only [Nat.pow_eq, oneBits]
  omega

theorem nearestBitsUpToOne_le (digits : Nat) (exponent : Int) :
    nearestBitsUpToOne digits exponent ≤ oneBits := by
  unfold nearestBitsUpToOne
  dsimp only
  split
  · exact Nat.zero_le _
  · split
    · exact le_rfl
    · -- A number of so few digits is below the power of ten that it is divided by.
      rename_i whole
      refine nearestBits_le ?_
      calc digits < 10 ^ (Nat.repr digits).length :=
            (Nat.length_repr_le_iff Nat.length_repr_pos).mp le_rfl
        _ ≤ 10 ^ (-exponent).toNat := Nat.pow_le_pow_right (by decide) (by omega)

end Decimal
end WebDispatch
