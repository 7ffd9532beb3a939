/-!
# Sets of characters

A set of characters is kept as its ranges of code points, from low to high.  Ranges that touch are
one range, so a set has one form.  The operations keep that form.
-/

namespace WebDispatch

/-- A set of characters. -/
structure CharSet where
  /-- First and last code point of each range, from low to high. -/
  ranges : List (Nat × Nat)
  deriving DecidableEq, Repr

namespace CharSet

/-- The last code point. -/
def lastCode : Nat := 0x10FFFF

/-- Whether a code point lies in one of the ranges. -/
def hasCode (s : CharSet) (code : Nat) : Bool :=
  s.ranges.any fun (first, last) => first ≤ code && code ≤ last

/-- Membership. -/
def contains (s : CharSet) (c : Char) : Bool := s.hasCode c.toNat

/-- No character. -/
def empty : CharSet := ⟨[]⟩

/-- Every character. -/
def any : CharSet := ⟨[(0, lastCode)]⟩

/-- The characters between two code points. -/
def range (first last : Nat) : CharSet := ⟨[(first, last)]⟩

/-- One character. -/
def single (c : Char) : CharSet := range c.toNat c.toNat

/-- The only character of a set that has one. -/
def single? (s : CharSet) : Option Char :=
  match s.ranges with
  | [(first, last)] => if first = last then some (Char.ofNat first) else none
  | _ => none

/-- Whether a set holds ASCII characters only. -/
def isAscii (s : CharSet) : Bool := s.ranges.all (·.2 < 128)

/-! ### Union -/

/-- Whether a range comes before another: it starts earlier, or ends earlier with the same start. -/
def comesBefore (r s : Nat × Nat) : Bool := r.1 < s.1 || (r.1 == s.1 && r.2 ≤ s.2)

/-- Join ranges in order to a range before them, where they overlap or touch. -/
def join (first last : Nat) : List (Nat × Nat) → List (Nat × Nat)
  | [] => [(first, last)]
  | (a, b) :: rest =>
      if a ≤ last + 1 then join first (max last b) rest else (first, last) :: join a b rest

/-- The characters in any of some ranges. -/
def ofRanges (ranges : List (Nat × Nat)) : CharSet :=
  match ranges.mergeSort comesBefore with
  | [] => empty
  | (first, last) :: rest => ⟨join first last rest⟩

/-- The characters in either of two sets. -/
def union (s t : CharSet) : CharSet := ofRanges (s.ranges ++ t.ranges)

/-- The characters in any of some sets. -/
def unions (sets : List CharSet) : CharSet := ofRanges (sets.flatMap ranges)

/-! ### Intersection, difference and complement -/

/-- The characters in both of two sets. -/
def inter (s t : CharSet) : CharSet :=
  ⟨s.ranges.flatMap fun (a, b) => t.ranges.filterMap fun (c, d) =>
    if max a c ≤ min b d then some (max a c, min b d) else none⟩

/-- The code point after another, past those that are no characters. -/
def codeAfter (code : Nat) : Nat := if code = 0xD7FF then 0xE000 else code + 1

/-- The code point before another, past those that are no characters. -/
def codeBefore (code : Nat) : Nat := if code = 0xE000 then 0xD7FF else code - 1

/-- Take ranges in order out of a range. -/
def cut (first last : Nat) : List (Nat × Nat) → List (Nat × Nat)
  | [] => [(first, last)]
  | (a, b) :: rest =>
      if b < first then cut first last rest
      else if last < a then [(first, last)]
      else
        (if first < a then [(first, codeBefore a)] else []) ++
          if b < last then cut (codeAfter b) last rest else []

/-- The characters in the first of two sets that are not in the second. -/
def diff (s t : CharSet) : CharSet := ⟨s.ranges.flatMap fun (a, b) => cut a b t.ranges⟩

/-- The characters in exactly one of two sets. -/
def symmDiff (s t : CharSet) : CharSet := diff (union s t) (inter s t)

/-- The gaps that follow a range up to the end. -/
def gapsAfter (last : Nat) : List (Nat × Nat) → List (Nat × Nat)
  | [] => if last < lastCode then [(codeAfter last, lastCode)] else []
  | (a, b) :: rest =>
      (min (codeAfter last) (codeBefore a), max (codeAfter last) (codeBefore a)) ::
        gapsAfter b rest

/-- The complement.  Where one range ends right before the code points that are no characters and
the next one starts right behind them, the complement has these two characters, as the ends of a
gap that is turned around. -/
def compl (s : CharSet) : CharSet :=
  match s.ranges with
  | [] => any
  | (first, last) :: rest =>
      ⟨(if 0 < first then [(0, codeBefore first)] else []) ++ gapsAfter last rest⟩

/-! ### Sets of ASCII characters -/

/-- The ASCII digits. -/
def asciiDigit : CharSet := range 48 57

/-- The ASCII white space. -/
def asciiBlank : CharSet := ⟨[(9, 13), (32, 32)]⟩

/-- The ASCII letters, digits and the underscore. -/
def asciiWord : CharSet := ⟨[(48, 57), (65, 90), (95, 95), (97, 122)]⟩

/-- The named classes of ASCII characters. -/
def ascii? : String → Option CharSet
  | "alnum" => some ⟨[(48, 57), (65, 90), (97, 122)]⟩
  | "alpha" => some ⟨[(65, 90), (97, 122)]⟩
  | "ascii" => some (range 0 127)
  | "blank" => some ⟨[(9, 9), (32, 32)]⟩
  | "cntrl" => some ⟨[(0, 31), (127, 127)]⟩
  | "digit" => some asciiDigit
  | "graph" => some (range 33 126)
  | "lower" => some (range 97 122)
  | "print" => some (range 32 126)
  | "punct" => some ⟨[(33, 47), (58, 64), (91, 96), (123, 126)]⟩
  | "space" => some asciiBlank
  | "upper" => some (range 65 90)
  | "word" => some asciiWord
  | "xdigit" => some ⟨[(48, 57), (65, 70), (97, 102)]⟩
  | _ => none

/-- A set with the other forms of its ASCII letters. -/
def asciiFolded (s : CharSet) : CharSet :=
  let shifted (first last : Nat) (shift : Nat → Nat) :=
    (inter s (range first last)).ranges.map fun (a, b) => (shift a, shift b)
  ofRanges (s.ranges ++ shifted 65 90 (· + 32) ++ shifted 97 122 (· - 32))

end CharSet
end WebDispatch
