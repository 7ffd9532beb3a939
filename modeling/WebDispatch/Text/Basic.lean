/-!
# Characters and cuts of text

Text is worked on as a list of characters.  This file holds the character classes that header and
path syntax is written in, trimming, and cutting a text at its first separator.  Cutting at every
separator is `List.splitOn`.
-/

namespace WebDispatch
namespace Text

/-- Unicode white space. -/
def isBlank (c : Char) : Bool :=
  let n := c.toNat
  (9 ≤ n && n ≤ 13) || n == 0x20 || n == 0x85 || n == 0xA0 || n == 0x1680 ||
    (0x2000 ≤ n && n ≤ 0x200A) || n == 0x2028 || n == 0x2029 || n == 0x202F || n == 0x205F ||
    n == 0x3000

/-- Unicode control characters: the two blocks below space and around U+0080. -/
def isControl (c : Char) : Bool :=
  let n := c.toNat
  n < 0x20 || (0x7F ≤ n && n ≤ 0x9F)

/-- Printable ASCII other than space. -/
def isAsciiGraphic (c : Char) : Bool :=
  0x21 ≤ c.toNat && c.toNat ≤ 0x7E

/-- A text with its ASCII letters in lower case. -/
def lower (s : String) : String :=
  String.ofList (s.toList.map Char.toLower)

/-- Equality of texts up to the case of ASCII letters. -/
def sameIgnoringCase (a b : String) : Bool :=
  lower a == lower b

/-- Drop the leading characters of a class. -/
def trimStart (drop : Char → Bool) (s : List Char) : List Char :=
  s.dropWhile drop

/-- Drop the trailing characters of a class. -/
def trimEnd (drop : Char → Bool) (s : List Char) : List Char :=
  (s.reverse.dropWhile drop).reverse

/-- Drop the leading and trailing characters of a class. -/
def trim (drop : Char → Bool) (s : List Char) : List Char :=
  trimEnd drop (trimStart drop s)

/-- A text without the white space around it. -/
def trimmed (s : String) : String :=
  String.ofList (trim isBlank s.toList)

/-- The text before and after the first separator, if there is one. -/
def cutAt? (separator : Char) : List Char → Option (List Char × List Char)
  | [] => none
  | c :: rest =>
      if c = separator then some ([], rest)
      else (cutAt? separator rest).map fun (before, after) => (c :: before, after)

/-- The text before the first separator, or all of it, and the text after it, or nothing. -/
def cutAt (separator : Char) (s : List Char) : List Char × List Char :=
  (cutAt? separator s).getD (s, [])

/-- The text before the first separator, or all of it. -/
def before (separator : Char) (s : List Char) : List Char :=
  s.takeWhile (· != separator)

/-- The text before the last separator, or all of it. -/
def beforeLast (separator : Char) (s : List Char) : List Char :=
  match cutAt? separator s.reverse with
  | some (_, front) => front.reverse
  | none => s

theorem eq_of_cutAt? {separator : Char} {s front back : List Char}
    (h : cutAt? separator s = some (front, back)) :
    s = front ++ separator :: back ∧ separator ∉ front := by
  induction s generalizing front back with
  | nil => simp [cutAt?] at h
  | cons c rest ih =>
      unfold cutAt? at h
      split at h
      · next hc => cases h; simp [hc]
      · next hc =>
          obtain ⟨⟨first, second⟩, hcut, hpair⟩ := Option.map_eq_some_iff.1 h
          cases hpair
          obtain ⟨hs, hmem⟩ := ih hcut
          exact ⟨by simp [hs], by simp [hmem, Ne.symm hc]⟩

/-- A text is left alone by trimming if none of its characters is of the class. -/
theorem trim_eq_self {drop : Char → Bool} {s : List Char} (kept : ∀ c ∈ s, drop c = false) :
    trim drop s = s := by
  have front : s.dropWhile drop = s := by
    cases s with
    | nil => rfl
    | cons c rest => rw [List.dropWhile_cons_of_neg (by simp [kept c])]
  have back : s.reverse.dropWhile drop = s.reverse := by
    rcases reverse_eq : s.reverse with _ | ⟨c, rest⟩
    · rfl
    · have listed : c ∈ s := List.mem_reverse.mp (reverse_eq ▸ List.mem_cons_self)
      rw [List.dropWhile_cons_of_neg (by simp [kept c listed])]
  rw [trim, trimEnd, trimStart, front, back, List.reverse_reverse]

theorem cutAt?_append {separator : Char} {front : List Char} (back : List Char)
    (outside : separator ∉ front) :
    cutAt? separator (front ++ separator :: back) = some (front, back) := by
  induction front with
  | nil => simp [cutAt?]
  | cons c rest ih =>
      rw [List.mem_cons, not_or] at outside
      simp [cutAt?, Ne.symm outside.1, ih outside.2]

theorem cutAt_append {separator : Char} {front : List Char} (back : List Char)
    (outside : separator ∉ front) :
    cutAt separator (front ++ separator :: back) = (front, back) := by
  rw [cutAt, cutAt?_append back outside, Option.getD_some]

theorem cutAt_cons {separator c : Char} (other : c ≠ separator) (s : List Char) :
    cutAt separator (c :: s) = (c :: (cutAt separator s).1, (cutAt separator s).2) := by
  simp only [cutAt, cutAt?, other, if_false]
  cases cutAt? separator s <;> rfl

theorem trim_cons {drop : Char → Bool} {c : Char} (dropped : drop c = true) (s : List Char) :
    trim drop (c :: s) = trim drop s := by
  simp [trim, trimStart, dropped]

theorem isBlank_of_isAsciiGraphic {c : Char} (graphic : isAsciiGraphic c = true) :
    isBlank c = false := by
  simp only [isAsciiGraphic, Bool.and_eq_true, decide_eq_true_eq] at graphic
  simp only [isBlank, Bool.or_eq_false_iff, Bool.and_eq_false_iff, decide_eq_false_iff_not,
    beq_eq_false_iff_ne, ne_eq]
  omega

theorem isAlpha_iff_toNat {c : Char} :
    c.isAlpha = true ↔ (65 ≤ c.toNat ∧ c.toNat ≤ 90) ∨ (97 ≤ c.toNat ∧ c.toNat ≤ 122) := by
  have isAlpha_eq : c.isAlpha = (decide (c.val ≥ 'A'.val ∧ c.val ≤ 'Z'.val) ||
      (decide (c.val ≥ 'a'.val) && decide (c.val ≤ 'z'.val))) := rfl
  simp only [isAlpha_eq, Bool.or_eq_true, Bool.and_eq_true, decide_eq_true_eq,
    UInt32.le_iff_toNat_le, ge_iff_le]
  rfl

theorem isAlphanum_iff_toNat {c : Char} :
    c.isAlphanum = true ↔ ((65 ≤ c.toNat ∧ c.toNat ≤ 90) ∨ (97 ≤ c.toNat ∧ c.toNat ≤ 122)) ∨
      (48 ≤ c.toNat ∧ c.toNat ≤ 57) := by
  rw [Char.isAlphanum, Bool.or_eq_true, isAlpha_iff_toNat, Char.isDigit_iff_toNat]
  rfl

theorem isAlpha_of_isDigit {c : Char} (digit : c.isDigit = true) : c.isAlpha = false := by
  rw [Bool.eq_false_iff, ne_eq, isAlpha_iff_toNat]
  have digit_range : 48 ≤ c.toNat ∧ c.toNat ≤ 57 := Char.isDigit_iff_toNat.mp digit
  omega

/-- The lower case of the letters `A` to `Z` is 32 above them. -/
theorem toNat_toLower (c : Char) :
    c.toLower.toNat = if 65 ≤ c.toNat ∧ c.toNat ≤ 90 then c.toNat + 32 else c.toNat := by
  unfold Char.toLower
  split
  · next upper =>
      simp only [ge_iff_le, UInt32.le_iff_toNat_le] at upper
      have range : 65 ≤ c.toNat ∧ c.toNat ≤ 90 := upper
      have sum_eq : (c.val + ('a'.val - 'A'.val)).toNat = (c.toNat + 32) % UInt32.size :=
        UInt32.toNat_add _ _
      rw [Nat.mod_eq_of_lt (by simp [UInt32.size]; omega)] at sum_eq
      rw [if_pos range]
      exact sum_eq
  · next not_upper =>
      simp only [ge_iff_le, UInt32.le_iff_toNat_le] at not_upper
      exact (if_neg not_upper).symm

/-- The upper case of the letters `a` to `z` is 32 below them. -/
theorem toNat_toUpper (c : Char) :
    c.toUpper.toNat = if 97 ≤ c.toNat ∧ c.toNat ≤ 122 then c.toNat - 32 else c.toNat := by
  unfold Char.toUpper
  split
  · next lower =>
      simp only [UInt32.le_iff_toNat_le] at lower
      have range : 97 ≤ c.toNat ∧ c.toNat ≤ 122 := lower
      have difference_eq :
          (c.val + ('A'.val - 'a'.val)).toNat = (c.toNat + (2 ^ 32 - 32)) % 2 ^ 32 :=
        UInt32.toNat_add _ _
      rw [if_pos range]
      refine difference_eq.trans ?_
      omega
  · next not_lower =>
      simp only [UInt32.le_iff_toNat_le] at not_lower
      exact (if_neg not_lower).symm

/-- Only the letters `A` to `Z` have another lower case. -/
theorem toLower_cases (c : Char) :
    c.toLower = c ∨ (65 ≤ c.toNat ∧ c.toNat ≤ 90) ∧ c.toLower.toNat = c.toNat + 32 := by
  have moved := toNat_toLower c
  split at moved
  · next range => exact .inr ⟨range, moved⟩
  · exact .inl (Char.toNat_inj.mp moved)

/-- Lower case does not show in upper case. -/
theorem toUpper_toLower (c : Char) : c.toLower.toUpper = c.toUpper := by
  apply Char.toNat_inj.mp
  simp only [toNat_toUpper, toNat_toLower]
  grind

/-- Upper case does not show in lower case. -/
theorem toLower_toUpper (c : Char) : c.toUpper.toLower = c.toLower := by
  apply Char.toNat_inj.mp
  simp only [toNat_toUpper, toNat_toLower]
  grind

end Text
end WebDispatch
