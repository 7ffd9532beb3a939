import Std.Data.HashSet

/-!
# Sets of numbers

Sets of numbers below a bound that is known when the set is made.  If the bound is not too large, a
set has one bit for each number below it.
-/

namespace WebDispatch

/-- A set of numbers. -/
inductive NumberSet where
  /-- A bit for each number, 32 in a word. -/
  | bits (words : Array Nat)
  /-- The members. -/
  | members (numbers : Std.HashSet Nat)

namespace NumberSet

/-- The empty set, for numbers below a bound. -/
def below (bound : Nat) : NumberSet :=
  if bound ≤ 0x10000000 then bits (.replicate (bound / 32 + 1) 0) else members ∅

/-- Membership. -/
def contains : NumberSet → Nat → Bool
  | bits words, n => (words[n / 32]?.getD 0).testBit (n % 32)
  | members numbers, n => numbers.contains n

/-- The word with one bit. -/
def bit (i : Nat) : Nat := ((1 : UInt32) <<< i.toUInt32).toNat

/-- The set with one more member. -/
def insert : NumberSet → Nat → NumberSet
  | bits words, n => bits (words.modify (n / 32) (· ||| bit (n % 32)))
  | members numbers, n => members (numbers.insert n)

/-- Whether a number can be made a member. -/
def Holds : NumberSet → Nat → Prop
  | bits words, n => n / 32 < words.size
  | members _, _ => True

theorem holds_below {bound n : Nat} (h : n < bound) : (below bound).Holds n := by
  unfold below
  split
  · simp only [Holds, Array.size_replicate]
    omega
  · trivial

theorem holds_insert {s : NumberSet} {m n : Nat} (h : s.Holds n) : (s.insert m).Holds n := by
  cases s with
  | bits words => simpa [insert, Holds] using h
  | members numbers => trivial

theorem contains_below (bound n : Nat) : (below bound).contains n = false := by
  unfold below
  split
  · simp only [contains, Array.getElem?_replicate]
    split <;> simp
  · simp [contains]

theorem testBit_bit : ∀ i < 32, ∀ j < 32, (bit i).testBit j = decide (i = j) := by
  decide +kernel

theorem contains_insert {s : NumberSet} {m : Nat} (h : s.Holds m) (n : Nat) :
    (s.insert m).contains n = (m == n || s.contains n) := by
  cases s with
  | members numbers => simp [insert, contains]
  | bits words =>
      have size : m / 32 < words.size := h
      simp only [insert, contains, Array.getElem?_modify]
      by_cases sameWord : m / 32 = n / 32
      · have found : words[n / 32]? = some words[n / 32] := by simp [← sameWord, size]
        have other : (m % 32 = n % 32) ↔ m = n := by omega
        simp [sameWord, found, Nat.testBit_or, other, Bool.or_comm,
          testBit_bit (m % 32) (by omega) (n % 32) (by omega), Bool.beq_eq_decide_eq]
      · have differ : (m == n) = false := by
          simp only [beq_eq_false_iff_ne]
          omega
        simp [sameWord, differ]

end NumberSet
end WebDispatch
