import WebDispatch.Http.Query
import WebDispatch.Proofs.Text.PercentRoundTrip

/-!
# Queries that are written and read

A sender writes keys and values with the separators and the signs of escapes escaped, and all other
characters escaped or not.  Each key is read with the value of the last pair that has it, and no
other key is read.  Whatever a query is, no key is read as the empty text: `Query.parse_write`.
-/

namespace WebDispatch

namespace Text

/-! ## Decoding leaves something -/

theorem percentBytes_ne_nil {bytes : List UInt8} (some_bytes : bytes ≠ []) :
    percentBytes bytes ≠ [] := by
  rw [percentBytes.eq_def]
  split
  · contradiction
  · split
    · exact List.cons_ne_nil _ _
    split
    · split
      · split <;> exact List.cons_ne_nil _ _
      · exact List.cons_ne_nil _ _
    · exact List.cons_ne_nil _ _

theorem Utf8.units_ne_nil {bytes : List UInt8} (some_bytes : bytes ≠ []) : units bytes ≠ [] := by
  cases bytes with
  | nil => contradiction
  | cons b rest =>
      rw [units]
      exact List.cons_ne_nil _ _

/-- Decoding never makes a text empty, not even one that holds no valid encoding. -/
theorem percentDecode_ne_empty {s : String} (nonempty : s ≠ "") : percentDecode s ≠ "" := by
  have encode_ne : encode s ≠ [] := by
    obtain ⟨c, rest, chars⟩ := List.exists_cons_of_ne_nil
      fun nothing => nonempty (String.toList_eq_nil_iff.mp nothing)
    rw [encode, chars, List.flatMap_cons]
    exact List.append_ne_nil_of_left_ne_nil String.utf8EncodeChar_ne_nil _
  rw [percentDecode, decodeLossy, ne_eq, ← String.toList_eq_nil_iff, String.toList_ofList,
    List.map_eq_nil_iff]
  exact Utf8.units_ne_nil (percentBytes_ne_nil encode_ne)

end Text

namespace Query

open Text (PercentEncoded)

/-! ## Writing -/

/-- The characters that may stand for themselves in keys and values. -/
def isPlainChar (c : Char) : Bool := !"&=%+".toList.contains c

/-- A key and a value that a sender writes, and the texts that it writes for them. -/
structure SentPair where
  /-- The key. -/
  key : String
  /-- The value. -/
  value : String
  /-- What is written for the key. -/
  keyText : List Char
  /-- What is written for the value. -/
  valueText : List Char
  /-- The key is not empty. -/
  key_ne : key ≠ ""
  /-- The separators and signs of the key are escaped. -/
  key_encoded : PercentEncoded isPlainChar key.toList keyText
  /-- The separators and signs of the value are escaped. -/
  value_encoded : PercentEncoded isPlainChar value.toList valueText

namespace SentPair

/-- The key and the value. -/
def pair (sent : SentPair) : String × String := (sent.key, sent.value)

/-- The item of a query that is written for a pair. -/
def item (sent : SentPair) : List Char := sent.keyText ++ '=' :: sent.valueText

end SentPair

/-- The query that a sender writes for its pairs. -/
def write (sent : List SentPair) : String :=
  String.ofList (['&'].intercalate (sent.map SentPair.item))

/-! ## Reading -/

theorem decode_eq {s : String} {text : List Char}
    (encoded : PercentEncoded isPlainChar s.toList text) :
    Text.percentDecode (String.ofList text) = s := by
  rw [Text.percentDecode_of_percentEncoded encoded (by decide) (by decide), String.ofList_toList]

/-- A separator is in a written item only where it separates. -/
theorem SentPair.notMem_item (sent : SentPair) : '&' ∉ sent.item := by
  have outside {s text : List Char} (encoded : PercentEncoded isPlainChar s text) : '&' ∉ text :=
    encoded.notMem (by decide) (by decide) (by decide) (by decide)
  simp [item, outside sent.key_encoded, outside sent.value_encoded]

theorem pair?_item (sent : SentPair) : pair? sent.item = some sent.pair := by
  have no_equals : '=' ∉ sent.keyText :=
    sent.key_encoded.notMem (by decide) (by decide) (by decide) (by decide)
  have key_ne : sent.keyText ≠ [] :=
    sent.key_encoded.ne_nil fun nothing => sent.key_ne (String.toList_eq_nil_iff.mp nothing)
  simp [pair?, SentPair.item, Text.cutAt_append _ no_equals, key_ne, decode_eq sent.key_encoded,
    decode_eq sent.value_encoded, SentPair.pair]

/-- What is written is read pair by pair. -/
theorem pairs_write (sent : List SentPair) : pairs (write sent) = sent.map SentPair.pair := by
  by_cases nothing : sent = []
  · subst nothing
    decide
  · have items_ne : sent.map SentPair.item ≠ [] := by simpa using nothing
    have separate : ∀ item ∈ sent.map SentPair.item, '&' ∉ item := by
      simpa using fun pair _ => pair.notMem_item
    rw [pairs, write, String.toList_ofList, List.splitOn_intercalate '&' separate items_ne,
      List.filterMap_map]
    simp only [Function.comp_def, pair?_item]
    exact congrFun List.filterMap_eq_map sent

/-- A key that is read is what a text that is not empty is decoded to. -/
theorem key_ne_empty {query : String} {pair : String × String} (read : pair ∈ pairs query) :
    pair.1 ≠ "" := by
  obtain ⟨item, -, item_read⟩ := List.mem_filterMap.mp read
  unfold pair? at item_read
  dsimp only at item_read
  split at item_read
  · cases item_read
  · next key_nonempty =>
      obtain rfl := Option.some.inj item_read
      refine Text.percentDecode_ne_empty fun nothing => key_nonempty ?_
      simpa using congrArg String.toList nothing

/-- What a sender writes is read as the map from each of its keys to the value of the last pair with
that key.  Whatever is read, no key is empty. -/
theorem parse_write :
    (∀ sent : List SentPair, ∀ key,
      (parse (write sent)).get? key = (sent.map SentPair.pair).reverse.lookup key ∧
        (key ∈ (parse (write sent)).keys ↔ key ∈ sent.map SentPair.key)) ∧
    ∀ query, "" ∉ (parse query).keys := by
  refine ⟨fun sent key => ⟨?_, ?_⟩, fun query listed => ?_⟩
  · rw [parse, pairs_write, Dict.get?_ofList]
  · rw [parse, pairs_write, Dict.mem_keys_ofList, List.map_map]
    rfl
  · obtain ⟨pair, read, key_eq⟩ := List.mem_map.mp ((Dict.mem_keys_ofList _ "").mp listed)
    exact key_ne_empty read key_eq

/-- Pairs with separators and signs in keys and values, two of them with one key. -/
def sentSearch : List SentPair :=
  have ampersand : Text.EscapedBytes (String.utf8EncodeChar '&') ['%', '2', '6'] :=
    .cons (b := 0x26) (by decide +kernel) (by decide +kernel) .nil
  have equals : Text.EscapedBytes (String.utf8EncodeChar '=') ['%', '3', 'd'] :=
    .cons (b := 0x3D) (by decide +kernel) (by decide +kernel) .nil
  have plus : Text.EscapedBytes (String.utf8EncodeChar '+') ['%', '2', 'B'] :=
    .cons (b := 0x2B) (by decide +kernel) (by decide +kernel) .nil
  [{ key := "a&b", value := "=", keyText := "a%26b".toList, valueText := "%3d".toList
     key_ne := by decide
     key_encoded := .raw (by decide) (.escaped ampersand (.raw (by decide) .nil))
     value_encoded := .escaped equals .nil },
    { key := "ü", value := "", keyText := "ü".toList, valueText := []
      key_ne := by decide
      key_encoded := .raw (by decide) .nil
      value_encoded := .nil },
    { key := "a&b", value := "+  ", keyText := "a%26b".toList, valueText := "%2B+ ".toList
      key_ne := by decide
      key_encoded := .raw (by decide) (.escaped ampersand (.raw (by decide) .nil))
      value_encoded := .escaped plus (.space (.raw (by decide) .nil)) }]

theorem parse_write_search :
    write sentSearch = "a%26b=%3d&ü=&a%26b=%2B+ " ∧
      (parse (write sentSearch)).get? "a&b" = some "+  " ∧
      (parse (write sentSearch)).get? "ü" = some "" ∧
      "=" ∉ (parse (write sentSearch)).keys := by
  obtain ⟨read, -⟩ := parse_write
  refine ⟨by decide +kernel, (read sentSearch "a&b").1.trans (by decide +kernel),
    (read sentSearch "ü").1.trans (by decide +kernel), ?_⟩
  rw [(read sentSearch "=").2]
  decide +kernel

end Query
end WebDispatch
