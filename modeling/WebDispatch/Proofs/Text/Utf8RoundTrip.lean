import WebDispatch.Text.Charset

/-!
# Encoding and decoding of UTF-8

Both readings of bytes give a text back from its encoding.  Every byte of an encoding is an ASCII
character of the text or lies above ASCII.
-/

namespace WebDispatch
namespace Text

namespace Utf8

/-- The remaining bytes of a character begin with a byte in the range that is required. -/
theorem continuation_of_mem {low high : UInt8} {n : Nat} (least : low.toNat ≤ n)
    (greatest : n ≤ high.toNat) (more code : Nat) (rest : List UInt8) :
    continuation more low high code (UInt8.ofNat n :: rest) =
      match more with
      | 0 => (some (Char.ofNat (code * 64 + (n - 0x80))), rest)
      | more + 1 => continuation more 0x80 0xBF (code * 64 + (n - 0x80)) rest := by
  have byte_eq : (UInt8.ofNat n).toNat = n :=
    UInt8.toNat_ofNat_of_lt' (Nat.lt_of_le_of_lt greatest high.toNat_lt)
  have inside : low ≤ UInt8.ofNat n ∧ UInt8.ofNat n ≤ high := by
    simp only [UInt8.le_iff_toNat_le, byte_eq]
    exact ⟨least, greatest⟩
  cases more <;> simp only [continuation, if_pos inside, byte_eq]

theorem next_ascii {v : Nat} (small : v < 0x80) (rest : List UInt8) :
    next (UInt8.ofNat v) rest = (some (Char.ofNat v), rest) := by
  have byte_eq : (UInt8.ofNat v).toNat = v :=
    UInt8.toNat_ofNat_of_lt' (Nat.lt_trans small (by decide))
  have ascii : UInt8.ofNat v < 0x80 := by simpa [UInt8.lt_iff_toNat_lt, byte_eq] using small
  rw [next, if_pos ascii, byte_eq]

/-- A first byte above ASCII leaves the rest to what it requires. -/
theorem next_of_lead {n : Nat} {pending : Pending} (large : 0x80 ≤ n) (small : n < 0x100)
    (lead : lead? (UInt8.ofNat n) = some pending) (rest : List UInt8) :
    next (UInt8.ofNat n) rest =
      continuation pending.more pending.low pending.high pending.code rest := by
  have byte_eq : (UInt8.ofNat n).toNat = n := UInt8.toNat_ofNat_of_lt' small
  have not_ascii : ¬ UInt8.ofNat n < 0x80 := by simp [UInt8.lt_iff_toNat_lt, byte_eq]; omega
  rw [next, if_neg not_ascii, lead]

theorem lead?_ofNat {n : Nat} (small : n < 0x100) :
    lead? (UInt8.ofNat n) =
      if 0xC2 ≤ n ∧ n ≤ 0xDF then some ⟨0, 0x80, 0xBF, n - 0xC0⟩
      else if n = 0xE0 then some ⟨1, 0xA0, 0xBF, 0⟩
      else if n = 0xED then some ⟨1, 0x80, 0x9F, 13⟩
      else if 0xE1 ≤ n ∧ n ≤ 0xEF then some ⟨1, 0x80, 0xBF, n - 0xE0⟩
      else if n = 0xF0 then some ⟨2, 0x90, 0xBF, 0⟩
      else if 0xF1 ≤ n ∧ n ≤ 0xF3 then some ⟨2, 0x80, 0xBF, n - 0xF0⟩
      else if n = 0xF4 then some ⟨2, 0x80, 0x8F, 4⟩
      else none := by
  have byte_eq : (UInt8.ofNat n).toNat = n := UInt8.toNat_ofNat_of_lt' small
  simp only [lead?, UInt8.le_iff_toNat_le, ← UInt8.toNat_inj, byte_eq]
  rfl

theorem next_two {v : Nat} (large : 0x80 ≤ v) (small : v < 0x800) (rest : List UInt8) :
    next (UInt8.ofNat (v / 64 % 32 + 192)) (UInt8.ofNat (v % 64 + 128) :: rest) =
      (some (Char.ofNat v), rest) := by
  have lead : lead? (UInt8.ofNat (v / 64 % 32 + 192)) = some ⟨0, 0x80, 0xBF, v / 64⟩ := by
    have code_eq : v / 64 % 32 + 192 - 0xC0 = v / 64 := by omega
    rw [lead?_ofNat (by omega), if_pos (by omega), code_eq]
  rw [next_of_lead (by omega) (by omega) lead, continuation_of_mem (by simp) (by simp; omega)]
  have value_eq : v / 64 * 64 + (v % 64 + 128 - 0x80) = v := by omega
  simp only [value_eq]

theorem next_three {v : Nat} (large : 0x800 ≤ v) (small : v < 0x10000)
    (valid : v < 0xD800 ∨ 0xDFFF < v) (rest : List UInt8) :
    next (UInt8.ofNat (v / 4096 % 16 + 224))
        (UInt8.ofNat (v / 64 % 64 + 128) :: UInt8.ofNat (v % 64 + 128) :: rest) =
      (some (Char.ofNat v), rest) := by
  obtain ⟨low, high, lead, least, greatest⟩ : ∃ low high : UInt8,
      lead? (UInt8.ofNat (v / 4096 % 16 + 224)) = some ⟨1, low, high, v / 4096⟩ ∧
        low.toNat ≤ v / 64 % 64 + 128 ∧ v / 64 % 64 + 128 ≤ high.toNat := by
    rw [lead?_ofNat (by omega), if_neg (by omega)]
    by_cases first : v / 4096 = 0
    · refine ⟨0xA0, 0xBF, ?_, by simp; omega, by simp; omega⟩
      rw [if_pos (by omega), first]
    by_cases surrogates : v / 4096 = 13
    · refine ⟨0x80, 0x9F, ?_, by simp, by simp; omega⟩
      rw [if_neg (by omega), if_pos (by omega), surrogates]
    · have code_eq : v / 4096 % 16 + 224 - 0xE0 = v / 4096 := by omega
      refine ⟨0x80, 0xBF, ?_, by simp, by simp; omega⟩
      rw [if_neg (by omega), if_neg (by omega), if_pos (by omega), code_eq]
  rw [next_of_lead (by omega) (by omega) lead, continuation_of_mem least greatest]
  simp only
  rw [continuation_of_mem (by simp) (by simp; omega)]
  have value_eq :
      (v / 4096 * 64 + (v / 64 % 64 + 128 - 0x80)) * 64 + (v % 64 + 128 - 0x80) = v := by
    omega
  simp only [value_eq]

theorem next_four {v : Nat} (large : 0x10000 ≤ v) (small : v < 0x110000) (rest : List UInt8) :
    next (UInt8.ofNat (v / 262144 % 8 + 240))
        (UInt8.ofNat (v / 4096 % 64 + 128) :: UInt8.ofNat (v / 64 % 64 + 128) ::
          UInt8.ofNat (v % 64 + 128) :: rest) =
      (some (Char.ofNat v), rest) := by
  obtain ⟨low, high, lead, least, greatest⟩ : ∃ low high : UInt8,
      lead? (UInt8.ofNat (v / 262144 % 8 + 240)) = some ⟨2, low, high, v / 262144⟩ ∧
        low.toNat ≤ v / 4096 % 64 + 128 ∧ v / 4096 % 64 + 128 ≤ high.toNat := by
    rw [lead?_ofNat (by omega), if_neg (by omega), if_neg (by omega), if_neg (by omega),
      if_neg (by omega)]
    by_cases first : v / 262144 = 0
    · refine ⟨0x90, 0xBF, ?_, by simp; omega, by simp; omega⟩
      rw [if_pos (by omega), first]
    by_cases last : v / 262144 = 4
    · refine ⟨0x80, 0x8F, ?_, by simp, by simp; omega⟩
      rw [if_neg (by omega), if_neg (by omega), if_pos (by omega), last]
    · have code_eq : v / 262144 % 8 + 240 - 0xF0 = v / 262144 := by omega
      refine ⟨0x80, 0xBF, ?_, by simp, by simp; omega⟩
      rw [if_neg (by omega), if_pos (by omega), code_eq]
  rw [next_of_lead (by omega) (by omega) lead, continuation_of_mem least greatest]
  simp only
  rw [continuation_of_mem (by simp) (by simp; omega)]
  simp only
  rw [continuation_of_mem (by simp) (by simp; omega)]
  have value_eq : ((v / 262144 * 64 + (v / 4096 % 64 + 128 - 0x80)) * 64 +
      (v / 64 % 64 + 128 - 0x80)) * 64 + (v % 64 + 128 - 0x80) = v := by
    omega
  simp only [value_eq]

/-- The encoding of a character is read as that character. -/
theorem units_utf8EncodeChar_append (c : Char) (rest : List UInt8) :
    units (String.utf8EncodeChar c ++ rest) = some c :: units rest := by
  have valid : c.val.toNat < 0xD800 ∨ 0xDFFF < c.val.toNat ∧ c.val.toNat < 0x110000 := c.valid
  have char_eq : Char.ofNat c.val.toNat = c := c.ofNat_toNat
  rw [String.utf8EncodeChar.eq_1]
  split
  · rw [List.singleton_append, units, next_ascii (by omega), char_eq]
  split
  · rw [List.cons_append, List.singleton_append, units, next_two (by omega) (by omega), char_eq]
  split
  · rw [List.cons_append, List.cons_append, List.singleton_append, units,
      next_three (by omega) (by omega) (by omega), char_eq]
  · rw [List.cons_append, List.cons_append, List.cons_append, List.singleton_append, units,
      next_four (by omega) (by omega), char_eq]

theorem units_flatMap_utf8EncodeChar (chars : List Char) :
    units (chars.flatMap String.utf8EncodeChar) = chars.map some := by
  induction chars with
  | nil => rw [List.flatMap_nil, units, List.map_nil]
  | cons c rest ih => rw [List.flatMap_cons, units_utf8EncodeChar_append, ih, List.map_cons]

end Utf8

/-- The strict reading of an encoding. -/
theorem decode?_encode (s : String) : decode? (encode s) = some s := by
  have all_read : (s.toList.map some).mapM id = some s.toList := by
    induction s.toList with
    | nil => rfl
    | cons c rest ih => simp [List.mapM_cons, ih]
  rw [decode?, encode, Utf8.units_flatMap_utf8EncodeChar, all_read, Option.map_some,
    String.ofList_toList]

/-- The lenient reading of an encoding. -/
theorem decodeLossy_encode (s : String) : decodeLossy (encode s) = s := by
  simp [decodeLossy, encode, Utf8.units_flatMap_utf8EncodeChar, List.map_map,
    Function.comp_def]

/-- A byte of an encoding is a character of ASCII, or it is above ASCII for a character above
ASCII. -/
theorem of_mem_encode {s : String} {b : UInt8} (listed : b ∈ encode s) :
    ∃ c ∈ s.toList, c.toNat = b.toNat ∨ 0x80 ≤ c.toNat ∧ 0x80 ≤ b.toNat := by
  obtain ⟨c, inside, listed⟩ := List.mem_flatMap.mp listed
  refine ⟨c, inside, ?_⟩
  have above {n : Nat} (large : 0x80 ≤ n) (small : n < 0x100) (byte_eq : b = UInt8.ofNat n) :
      0x80 ≤ b.toNat := by
    rwa [byte_eq, UInt8.toNat_ofNat_of_lt' small]
  rw [String.utf8EncodeChar.eq_1] at listed
  rw [Char.toNat]
  split at listed
  · obtain rfl := List.mem_singleton.mp listed
    refine .inl ?_
    rw [UInt8.toNat_ofNat']
    omega
  refine .inr ⟨by omega, ?_⟩
  split at listed
  · simp only [List.mem_cons, List.not_mem_nil, or_false] at listed
    rcases listed with byte_eq | byte_eq <;> exact above (by omega) (by omega) byte_eq
  split at listed <;> simp only [List.mem_cons, List.not_mem_nil, or_false] at listed
  · rcases listed with byte_eq | byte_eq | byte_eq <;>
      exact above (by omega) (by omega) byte_eq
  · rcases listed with byte_eq | byte_eq | byte_eq | byte_eq <;>
      exact above (by omega) (by omega) byte_eq

theorem encode_append (a b : String) : encode (a ++ b) = encode a ++ encode b := by
  simp [encode]

/-- The bytes of a text of ASCII are its characters. -/
theorem map_ofNat_encode {s : String} (ascii : ∀ c ∈ s.toList, c.toNat < 0x80) :
    (encode s).map (fun b => Char.ofNat b.toNat) = s.toList := by
  rw [encode]
  generalize s.toList = chars at ascii
  induction chars with
  | nil => rfl
  | cons c rest ih =>
      obtain ⟨first_ascii, rest_ascii⟩ := List.forall_mem_cons.mp ascii
      have encode_eq : String.utf8EncodeChar c = [UInt8.ofNat c.toNat] := by
        rw [String.utf8EncodeChar.eq_1, if_pos (by rw [← Char.toNat]; omega)]
        rfl
      have byte_eq : (UInt8.ofNat c.toNat).toNat = c.toNat :=
        UInt8.toNat_ofNat_of_lt' (Nat.lt_trans first_ascii (by decide))
      rw [List.flatMap_cons, encode_eq, List.singleton_append, List.map_cons, ih rest_ascii,
        byte_eq, Char.ofNat_toNat]

/-- The bytes of letters and digits. -/
theorem isAlphanum_of_mem_encode {s : String} (alphanum : ∀ c ∈ s.toList, c.isAlphanum = true)
    {b : UInt8} (listed : b ∈ encode s) :
    ((65 ≤ b.toNat ∧ b.toNat ≤ 90) ∨ (97 ≤ b.toNat ∧ b.toNat ≤ 122)) ∨
      (48 ≤ b.toNat ∧ b.toNat ≤ 57) := by
  obtain ⟨c, inside, same | above⟩ := of_mem_encode listed
  · rw [← same]
    exact isAlphanum_iff_toNat.mp (alphanum c inside)
  · have range := isAlphanum_iff_toNat.mp (alphanum c inside)
    omega

/-- The first reading of an encoding is its first character. -/
theorem head?_of_encode_eq {s : String} {b : UInt8} {rest : List UInt8}
    (encode_eq : encode s = b :: rest) : s.toList.head? = (Utf8.next b rest).1 := by
  have units_eq : Utf8.units (encode s) = s.toList.map some :=
    Utf8.units_flatMap_utf8EncodeChar s.toList
  rw [encode_eq, Utf8.units] at units_eq
  cases chars : s.toList with
  | nil => simp [chars] at units_eq
  | cons c chars_rest =>
      rw [chars, List.map_cons, List.cons.injEq] at units_eq
      rw [List.head?_cons, units_eq.1]

end Text

/-- A text that starts with no byte order mark is read from its encoding. -/
theorem Charset.decode_encode {s : String} (unmarked : s.toList.head? ≠ some '\uFEFF') :
    utf8.decode (Text.encode s) = s := by
  have nonempty {b : UInt8} {rest : List UInt8} (encode_eq : Text.encode s = b :: rest) :
      s.toList.head? ≠ none := by
    intro chars
    simp [Text.encode, List.head?_eq_none_iff.mp chars] at encode_eq
  unfold decode
  split
  · next rest encode_eq => exact absurd (Text.head?_of_encode_eq encode_eq) unmarked
  · next rest encode_eq => exact absurd (Text.head?_of_encode_eq encode_eq) (nonempty encode_eq)
  · next rest encode_eq => exact absurd (Text.head?_of_encode_eq encode_eq) (nonempty encode_eq)
  · exact Text.decodeLossy_encode s

end WebDispatch
