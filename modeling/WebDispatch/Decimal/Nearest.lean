/-!
# Single-precision numbers

The binary floating-point numbers of 32 bits between zero and one.  They are represented by their
bit patterns, which are ordered as the numbers are.
-/

namespace WebDispatch
namespace Decimal

/-- The bit pattern of one. -/
def oneBits : Nat := 0x3F800000

/-- A quotient rounded to the nearest natural number, and to the even one of two. -/
def roundDiv (numerator denominator : Nat) : Nat :=
  let quotient := numerator / denominator
  let remainder := numerator % denominator
  if 2 * remainder > denominator ∨ (2 * remainder = denominator ∧ quotient % 2 = 1) then
    quotient + 1
  else quotient

/-- The least `k` up to a bound with `denominator ≤ numerator * 2 ^ k`. -/
def scaleBy (numerator denominator : Nat) (bound : Nat) : Nat :=
  ((List.range bound).find? fun k => denominator ≤ numerator * Nat.pow 2 k).getD bound

/-- The bit pattern of the number nearest to a positive fraction below one.  The significand has 24
bits, and its last bit is worth at least `2 ^ -149`. -/
def nearestBits (numerator denominator : Nat) : Nat :=
  let scale := scaleBy numerator denominator 126
  (126 - scale) * 0x800000 + roundDiv (numerator * Nat.pow 2 (scale + 23)) denominator

/-- The bit pattern of the number nearest to `digits * 10 ^ exponent`, or of one if that is
less. -/
def nearestBitsUpToOne (digits : Nat) (exponent : Int) : Nat :=
  let count : Int := (Nat.repr digits).length
  if digits = 0 ∨ count + exponent < -60 then 0
  else if 1 ≤ count + exponent then oneBits
  else nearestBits digits (Nat.pow 10 (-exponent).toNat)

end Decimal
end WebDispatch
