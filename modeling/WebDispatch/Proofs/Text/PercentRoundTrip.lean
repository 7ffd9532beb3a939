import WebDispatch.Proofs.Text.Utf8RoundTrip
import WebDispatch.Text.Percent

/-!
# Percent encoding and decoding

A sender may write a character as it is, if the place where it stands allows that, or escape all of
its bytes, and a space may be a plus sign.  However the characters of a text are written, decoding
gives the text back: `percentDecode_of_percentEncoded`.  All characters but the plus sign and the
percent sign may be written as they are: `percentDecode_encoding`.  `PercentEncoded.notMem` says
which characters can stand between encoded texts.
-/

namespace WebDispatch
namespace Text

/-- The hexadecimal digit of a value, in either case. -/
def IsHexDigit (c : Char) (value : Nat) : Prop :=
  "0123456789abcdef".toList[value]? = some c ∨ "0123456789ABCDEF".toList[value]? = some c

instance (c : Char) (value : Nat) : Decidable (IsHexDigit c value) :=
  inferInstanceAs (Decidable (_ ∨ _))

/-- Bytes and the text that they are escaped as. -/
inductive EscapedBytes : List UInt8 → List Char → Prop
  | nil : EscapedBytes [] []
  | cons {b : UInt8} {bytes : List UInt8} {high low : Char} {text : List Char}
      (high_digit : IsHexDigit high (b.toNat / 16)) (low_digit : IsHexDigit low (b.toNat % 16))
      (others : EscapedBytes bytes text) :
      EscapedBytes (b :: bytes) ('%' :: high :: low :: text)

/-- A text and what it is written as, where the plain characters may stand for themselves. -/
inductive PercentEncoded (plain : Char → Bool) : List Char → List Char → Prop
  | nil : PercentEncoded plain [] []
  | raw {c : Char} {s text : List Char} (allowed : plain c = true)
      (others : PercentEncoded plain s text) : PercentEncoded plain (c :: s) (c :: text)
  | escaped {c : Char} {s escape text : List Char}
      (bytes : EscapedBytes (String.utf8EncodeChar c) escape)
      (others : PercentEncoded plain s text) : PercentEncoded plain (c :: s) (escape ++ text)
  | space {s text : List Char} (others : PercentEncoded plain s text) :
      PercentEncoded plain (' ' :: s) ('+' :: text)

/-! ## Digits -/

/-- A digit is a character of ASCII that is read as its value, and no sign. -/
theorem hexValue?_of_isHexDigit {c : Char} {value : Nat} (digit : IsHexDigit c value) :
    String.utf8EncodeChar c = [UInt8.ofNat c.toNat] ∧
      hexValue? (UInt8.ofNat c.toNat) = some (UInt8.ofNat value) ∧ c.isAlphanum = true := by
  have all_digits (digits : String)
      (known : (digits.toList.zipIdx.all fun entry =>
        String.utf8EncodeChar entry.1 == [UInt8.ofNat entry.1.toNat] &&
          hexValue? (UInt8.ofNat entry.1.toNat) == some (UInt8.ofNat entry.2) &&
            entry.1.isAlphanum) = true)
      (found : digits.toList[value]? = some c) :
      String.utf8EncodeChar c = [UInt8.ofNat c.toNat] ∧
        hexValue? (UInt8.ofNat c.toNat) = some (UInt8.ofNat value) ∧ c.isAlphanum = true := by
    have listed : (c, value) ∈ digits.toList.zipIdx := List.mem_zipIdx_iff_getElem?.mpr found
    have entry_known := List.all_eq_true.mp known _ listed
    simpa [and_assoc] using entry_known
  rcases digit with lower | upper
  · exact all_digits _ (by decide +kernel) lower
  · exact all_digits _ (by decide +kernel) upper

/-- Escapes consist of percent signs and digits. -/
theorem EscapedBytes.notMem {bytes : List UInt8} {text : List Char}
    (escaped : EscapedBytes bytes text) {separator : Char} (not_percent : separator ≠ '%')
    (not_alphanum : separator.isAlphanum = false) : separator ∉ text := by
  have not_digit {c : Char} {value : Nat} (digit : IsHexDigit c value) : separator ≠ c := by
    rintro rfl
    simp [(hexValue?_of_isHexDigit digit).2.2] at not_alphanum
  induction escaped with
  | nil => exact List.not_mem_nil
  | cons high_digit low_digit _ ih =>
      simp only [List.mem_cons, not_or]
      exact ⟨not_percent, not_digit high_digit, not_digit low_digit, ih⟩

/-! ## Reading what was written -/

theorem percentBytes_of_ne {b : UInt8} (not_plus : b ≠ 0x2B) (not_percent : b ≠ 0x25)
    (rest : List UInt8) : percentBytes (b :: rest) = b :: percentBytes rest := by
  rw [percentBytes.eq_def]
  simp only [not_plus, not_percent, if_false]

theorem percentBytes_plus (rest : List UInt8) :
    percentBytes (0x2B :: rest) = 0x20 :: percentBytes rest := by
  rw [percentBytes.eq_def]
  simp only [if_true]

theorem percentBytes_append {bytes : List UInt8} (plain : ∀ b ∈ bytes, b ≠ 0x2B ∧ b ≠ 0x25)
    (rest : List UInt8) : percentBytes (bytes ++ rest) = bytes ++ percentBytes rest := by
  induction bytes with
  | nil => rfl
  | cons b bytes ih =>
      obtain ⟨⟨not_plus, not_percent⟩, others⟩ := List.forall_mem_cons.mp plain
      rw [List.cons_append, percentBytes_of_ne not_plus not_percent, ih others, List.cons_append]

/-- Escaped bytes are read as these bytes. -/
theorem percentBytes_of_escapedBytes {bytes : List UInt8} {text : List Char}
    (escaped : EscapedBytes bytes text) (rest : List UInt8) :
    percentBytes (text.flatMap String.utf8EncodeChar ++ rest) = bytes ++ percentBytes rest := by
  induction escaped with
  | nil => rfl
  | @cons b bytes high low text high_digit low_digit _ ih =>
      obtain ⟨high_bytes, high_value, -⟩ := hexValue?_of_isHexDigit high_digit
      obtain ⟨low_bytes, low_value, -⟩ := hexValue?_of_isHexDigit low_digit
      have byte_eq : UInt8.ofNat (b.toNat / 16) * 16 + UInt8.ofNat (b.toNat % 16) = b := by
        apply UInt8.toNat_inj.mp
        have := b.toNat_lt
        simp only [UInt8.toNat_add, UInt8.toNat_mul, UInt8.toNat_ofNat', UInt8.reduceToNat]
        omega
      have escape_eq : ('%' :: high :: low :: text).flatMap String.utf8EncodeChar ++ rest =
          0x25 :: UInt8.ofNat high.toNat :: UInt8.ofNat low.toNat ::
            (text.flatMap String.utf8EncodeChar ++ rest) := by
        simp only [List.flatMap_cons, high_bytes, low_bytes, List.append_assoc]
        rfl
      rw [escape_eq, percentBytes, if_neg (by decide), if_pos rfl]
      simp only [hexByte?, high_value, low_value, bind, Option.bind, pure, byte_eq, ih,
        List.cons_append]

/-- The bytes of a character other than the two signs are no such sign. -/
theorem ne_sign_of_mem_utf8EncodeChar {c : Char} (not_plus : c ≠ '+') (not_percent : c ≠ '%')
    {b : UInt8} (listed : b ∈ String.utf8EncodeChar c) : b ≠ 0x2B ∧ b ≠ 0x25 := by
  have inside : b ∈ encode (String.ofList [c]) := by simpa [encode] using listed
  obtain ⟨other, other_inside, byte_eq⟩ := of_mem_encode inside
  obtain rfl : other = c := by simpa using other_inside
  have plus_ne : other.toNat ≠ 0x2B := fun same => not_plus (Char.toNat_inj.mp same)
  have percent_ne : other.toNat ≠ 0x25 := fun same => not_percent (Char.toNat_inj.mp same)
  constructor
  · rintro rfl
    have sign_eq : (0x2B : UInt8).toNat = 0x2B := rfl
    omega
  · rintro rfl
    have sign_eq : (0x25 : UInt8).toNat = 0x25 := rfl
    omega

namespace PercentEncoded

variable {plain : Char → Bool} {s text : List Char}

/-- Plain characters may all stand for themselves. -/
theorem self (allowed : ∀ c ∈ s, plain c = true) : PercentEncoded plain s s := by
  induction s with
  | nil => exact .nil
  | cons c rest ih =>
      obtain ⟨first, others⟩ := List.forall_mem_cons.mp allowed
      exact .raw first (ih others)

theorem percentBytes_eq (encoded : PercentEncoded plain s text) (no_plus : plain '+' = false)
    (no_percent : plain '%' = false) :
    percentBytes (text.flatMap String.utf8EncodeChar) = s.flatMap String.utf8EncodeChar := by
  induction encoded with
  | nil => rw [List.flatMap_nil, percentBytes]
  | @raw c s text allowed _ ih =>
      have not_plus : c ≠ '+' := by
        rintro rfl
        simp [no_plus] at allowed
      have not_percent : c ≠ '%' := by
        rintro rfl
        simp [no_percent] at allowed
      rw [List.flatMap_cons, List.flatMap_cons, percentBytes_append (fun b listed =>
        ne_sign_of_mem_utf8EncodeChar not_plus not_percent listed), ih]
  | escaped bytes _ ih =>
      rw [List.flatMap_append, List.flatMap_cons, percentBytes_of_escapedBytes bytes, ih]
  | @space s text _ ih =>
      have plus_eq : ('+' :: text).flatMap String.utf8EncodeChar =
          0x2B :: text.flatMap String.utf8EncodeChar := rfl
      rw [plus_eq, percentBytes_plus, ih]
      rfl

/-- A character that is no sign, no letter and no digit is in an encoded text only if it may stand
for itself. -/
theorem notMem (encoded : PercentEncoded plain s text) {separator : Char}
    (not_plain : plain separator = false) (not_plus : separator ≠ '+')
    (not_percent : separator ≠ '%') (not_alphanum : separator.isAlphanum = false) :
    separator ∉ text := by
  induction encoded with
  | nil => exact List.not_mem_nil
  | @raw c s text allowed _ ih =>
      have not_first : separator ≠ c := by
        rintro rfl
        simp [not_plain] at allowed
      exact fun inside => (List.mem_cons.mp inside).elim not_first ih
  | escaped bytes _ ih =>
      have not_escape := bytes.notMem not_percent not_alphanum
      exact fun inside => (List.mem_append.mp inside).elim not_escape ih
  | space _ ih => exact fun inside => (List.mem_cons.mp inside).elim not_plus ih

/-- Only the empty text is written as nothing. -/
theorem ne_nil (encoded : PercentEncoded plain s text) (nonempty : s ≠ []) : text ≠ [] := by
  cases encoded with
  | nil => contradiction
  | raw => exact List.cons_ne_nil _ _
  | @escaped c _ escape _ bytes _ =>
      have bytes_ne : String.utf8EncodeChar c ≠ [] := String.utf8EncodeChar_ne_nil
      obtain ⟨b, more, bytes_eq⟩ := List.exists_cons_of_ne_nil bytes_ne
      rw [bytes_eq] at bytes
      cases bytes
      exact List.cons_ne_nil _ _
  | space => exact List.cons_ne_nil _ _

end PercentEncoded

/-- However a text is written, it is read back. -/
theorem percentDecode_of_percentEncoded {plain : Char → Bool} {s text : List Char}
    (encoded : PercentEncoded plain s text) (no_plus : plain '+' = false)
    (no_percent : plain '%' = false) : percentDecode (String.ofList text) = String.ofList s := by
  have bytes_eq : percentBytes (encode (String.ofList text)) = encode (String.ofList s) := by
    simpa only [encode, String.toList_ofList] using encoded.percentBytes_eq no_plus no_percent
  rw [percentDecode, bytes_eq, decodeLossy_encode]

/-- All characters stand for themselves but the plus sign and the percent sign. -/
def isNoSign (c : Char) : Bool := c != '%' && c != '+'

/-- A text is read back whichever of its characters are escaped, in whichever case the digits are,
and whichever of its spaces are plus signs. -/
theorem percentDecode_encoding {s text : String}
    (encoded : PercentEncoded isNoSign s.toList text.toList) : percentDecode text = s := by
  have read := percentDecode_of_percentEncoded encoded (by decide) (by decide)
  simpa only [String.ofList_toList] using read

theorem percentDecode_encoding_mixed :
    PercentEncoded isNoSign "üé  +%あ".toList "ü%C3%a9+ %2b%25%E3%81%82".toList ∧
      percentDecode "ü%C3%a9+ %2b%25%E3%81%82" = "üé  +%あ" := by
  have accent : EscapedBytes (String.utf8EncodeChar 'é') "%C3%a9".toList :=
    .cons (b := 0xC3) (by decide +kernel) (by decide +kernel)
      (.cons (b := 0xA9) (by decide +kernel) (by decide +kernel) .nil)
  have plus : EscapedBytes (String.utf8EncodeChar '+') "%2b".toList :=
    .cons (b := 0x2B) (by decide +kernel) (by decide +kernel) .nil
  have percent : EscapedBytes (String.utf8EncodeChar '%') "%25".toList :=
    .cons (b := 0x25) (by decide +kernel) (by decide +kernel) .nil
  have kana : EscapedBytes (String.utf8EncodeChar 'あ') "%E3%81%82".toList :=
    .cons (b := 0xE3) (by decide +kernel) (by decide +kernel)
      (.cons (b := 0x81) (by decide +kernel) (by decide +kernel)
        (.cons (b := 0x82) (by decide +kernel) (by decide +kernel) .nil))
  have encoded : PercentEncoded isNoSign "üé  +%あ".toList "ü%C3%a9+ %2b%25%E3%81%82".toList :=
    .raw (by decide) (.escaped accent (.space (.raw (by decide)
      (.escaped plus (.escaped percent (.escaped kana .nil))))))
  exact ⟨encoded, percentDecode_encoding encoded⟩

end Text
end WebDispatch
