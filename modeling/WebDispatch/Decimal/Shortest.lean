/-!
# Shortest decimals

The shortest decimal that reads back as a given binary floating-point number, and of those the
nearest to it.  The number is `m * 2 ^ q`; the decimals that read back lie between the midpoints to
its neighbours, which count themselves when `m` is even.
-/

namespace WebDispatch
namespace Decimal

/-- A decimal `digits * 10 ^ exponent`. -/
structure Scaled where
  /-- The digits, as a number. -/
  digits : Nat
  /-- The power of ten. -/
  exponent : Int
  deriving DecidableEq, Repr

/-- A positive number `m * 2 ^ q`, with whether its lower neighbour is half as far as its upper
one. -/
structure Binary where
  /-- The significand. -/
  m : Nat
  /-- The power of two. -/
  q : Int
  /-- Whether the lower neighbour is nearer than the upper one. -/
  narrowBelow : Bool
  deriving DecidableEq, Repr

/-- A power as a fraction of natural numbers. -/
def power (base : Nat) (exponent : Int) : Nat × Nat :=
  if 0 ≤ exponent then (Nat.pow base exponent.toNat, 1) else (1, Nat.pow base (-exponent).toNat)

namespace Binary

/-- The numerator of four times the number, over `denominator`. -/
def numerator (b : Binary) : Nat := (power 2 (b.q - 2)).1

/-- The common denominator of the number and the midpoints around it. -/
def denominator (b : Binary) : Nat := (power 2 (b.q - 2)).2

/-- Compare `a / b` with `c / d`, for positive denominators. -/
def fractionLe (a b c d : Nat) : Bool := a * d ≤ c * b

/-- Whether a decimal reads back as the number. -/
def readsBack (b : Binary) (digits : Nat) (exponent : Int) : Bool :=
  let (num, den) := power 10 exponent
  let value := digits * num * b.denominator
  let low := (4 * b.m - if b.narrowBelow then 1 else 2) * b.numerator * den
  let high := (4 * b.m + 2) * b.numerator * den
  if b.m % 2 = 0 then low ≤ value && value ≤ high else low < value && value < high

/-- The least power of ten above the number, searched upwards from a start. -/
def decimalExponent (b : Binary) : Nat → Int → Int
  | 0, k => k
  | fuel + 1, k =>
      let (num, den) := power 10 k
      if 4 * b.m * b.numerator * den < num * b.denominator then k
      else decimalExponent b fuel (k + 1)

/-- The best decimal on the grid of multiples of a power of ten, if one reads back. -/
def onGrid (b : Binary) (exponent : Int) : Option Scaled :=
  let (num, den) := power 10 exponent
  let value := 4 * b.m * b.numerator * den
  let unit := num * b.denominator
  let below := value / unit
  let above := below + 1
  let remainder := value % unit
  match b.readsBack below exponent, b.readsBack above exponent with
  | true, true =>
      if 2 * remainder < unit ∨ (2 * remainder = unit ∧ below % 2 = 0) then
        some ⟨below, exponent⟩
      else some ⟨above, exponent⟩
  | true, false => some ⟨below, exponent⟩
  | false, true => some ⟨above, exponent⟩
  | false, false => none

/-- The shortest decimal that reads back, tried with more and more digits. -/
def shortest (b : Binary) : Scaled :=
  let top := b.decimalExponent 700 (-340)
  ((List.range 17).findSome? fun n => b.onGrid (top - (n + 1 : Nat))).getD ⟨0, 0⟩

end Binary

/-- A positive finite double as a significand and a power of two. -/
def ofBits (bits : UInt64) : Binary :=
  let fraction := (bits &&& 0xFFFFFFFFFFFFF).toNat
  let biased := ((bits >>> 52) &&& 0x7FF).toNat
  if biased = 0 then ⟨fraction, -1074, false⟩
  else ⟨fraction + 0x10000000000000, (biased : Int) - 1075, fraction = 0 ∧ biased > 1⟩

/-- Remove trailing zeros from the digits of a decimal. -/
def Scaled.normalize (d : Scaled) : Nat → Scaled
  | 0 => d
  | fuel + 1 =>
      if d.digits ≠ 0 ∧ d.digits % 10 = 0 then
        Scaled.normalize ⟨d.digits / 10, d.exponent + 1⟩ fuel
      else d

/-- The shortest decimal of a positive finite double, without trailing zeros. -/
def shortestOfBits (bits : UInt64) : Scaled :=
  (ofBits bits).shortest.normalize 20

end Decimal
end WebDispatch
