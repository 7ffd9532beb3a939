import Mathlib.Data.List.Forall2
import WebDispatch.Proofs.Mapping.MatrixLookup
import WebDispatch.Proofs.Text.PercentRoundTrip

/-!
# Paths that are written with matrix variables

A sender writes parameters behind the names of segments, with signs and separators escaped and all
other characters escaped or not.  Such a path is looked up by the names alone, and under each name
and key are the values of all parameters that were written for them, in the order of the path:
`Matrix.ofPath_of_writtenAs`.  The proof goes from the inside out: `parameter_of_writtenAs`,
`segment_of_writtenAs` and `segments_of_writtenAs` say what one parameter, one segment and the whole
path are read as.
-/

namespace WebDispatch
namespace Matrix

open Text (PercentEncoded)

/-! ## Writing -/

/-- The characters that may stand for themselves in keys and values. -/
def isPlainChar (c : Char) : Bool := !"%+;/=,".toList.contains c

/-- A key or a value, with all signs and separators escaped. -/
def EncodedAs (s : String) (text : List Char) : Prop := PercentEncoded isPlainChar s.toList text

/-- A parameter that a sender writes. -/
structure SentParameter where
  /-- The key. -/
  key : String
  /-- The values in order. -/
  values : List String
  /-- Empty values cannot be told from missing ones. -/
  value_ne_nil : ∀ value ∈ values, value.toList ≠ []

/-- A segment that a sender writes. -/
structure SentSegment where
  /-- The name. -/
  name : String
  /-- The parameters behind it. -/
  parameters : List SentParameter
  /-- The name is in one segment. -/
  no_slash : '/' ∉ name.toList
  /-- The name ends where the parameters begin. -/
  no_semicolon : ';' ∉ name.toList

/-- A key, an equals sign and values between commas. -/
def SentParameter.WrittenAs (parameter : SentParameter) (text : List Char) : Prop :=
  ∃ key values, EncodedAs parameter.key key ∧ List.Forall₂ EncodedAs parameter.values values ∧
    text = key ++ '=' :: [','].intercalate values

/-- A name, and each parameter behind a semicolon. -/
def SentSegment.WrittenAs (segment : SentSegment) (text : List Char) : Prop :=
  ∃ parameters, List.Forall₂ SentParameter.WrittenAs segment.parameters parameters ∧
    text = segment.name.toList ++ parameters.flatMap (';' :: ·)

/-- Segments between slashes. -/
def WrittenAs (sent : List SentSegment) (path : String) : Prop :=
  ∃ texts, List.Forall₂ SentSegment.WrittenAs sent texts ∧
    path = String.ofList (['/'].intercalate texts)

/-- The parameters that are sent behind the segments with a name. -/
def sentUnder (sent : List SentSegment) (name : String) : List SentParameter :=
  (sent.filter (·.name = name)).flatMap SentSegment.parameters

/-! ## Reading -/

/-- What every written text of a list has, whatever it was written for. -/
theorem forall_mem_of_forall₂ {α β : Type} {R : α → β → Prop} {p : β → Prop} {sent : List α}
    {written : List β} (related : List.Forall₂ R sent written) (implied : ∀ a b, R a b → p b) :
    ∀ b ∈ written, p b := by
  have flipped : List.Forall₂ (fun b a => p b ∧ flip R b a) written sent :=
    related.flip.imp fun b a holds => ⟨implied a b holds, holds⟩
  exact ((List.forall₂_and_left _ _).mp flipped).1

/-- A separator is in an encoded text only as an escape. -/
theorem EncodedAs.notMem {s : String} {text : List Char} (encoded : EncodedAs s text)
    {separator : Char} (listed : separator ∈ [';', '/', '=', ',']) : separator ∉ text := by
  have signs : ∀ c ∈ [';', '/', '=', ','],
      isPlainChar c = false ∧ c ≠ '+' ∧ c ≠ '%' ∧ c.isAlphanum = false := by
    simp only [List.forall_mem_cons]
    exact ⟨by decide, by decide, by decide, by decide, by simp⟩
  obtain ⟨not_plain, not_plus, not_percent, not_alphanum⟩ := signs separator listed
  exact PercentEncoded.notMem encoded not_plain not_plus not_percent not_alphanum

theorem EncodedAs.percentDecode_eq {s : String} {text : List Char} (encoded : EncodedAs s text) :
    Text.percentDecode (String.ofList text) = s := by
  rw [Text.percentDecode_of_percentEncoded encoded (by decide) (by decide), String.ofList_toList]

/-- The values between commas are read one by one. -/
theorem values_of_encodedAs {sent : List String} {values : List (List Char)}
    (written : List.Forall₂ EncodedAs sent values) (nonempty : ∀ value ∈ sent, value.toList ≠ []) :
    (((([','].intercalate values).splitOn ',').filter fun value => !value.isEmpty).map
      fun value => Text.percentDecode (String.ofList value)) = sent := by
  have values_eq : values.map (fun value => Text.percentDecode (String.ofList value)) = sent := by
    induction written with
    | nil => rfl
    | cons first _ ih =>
        rw [List.map_cons, first.percentDecode_eq, ih (List.forall_mem_cons.mp nonempty).2]
  have separate : ∀ text ∈ values, ',' ∉ text :=
    forall_mem_of_forall₂ written fun _ _ encoded => encoded.notMem (by decide)
  have written_nonempty : ∀ text ∈ values, text ≠ [] :=
    forall_mem_of_forall₂ ((List.forall₂_and_left _ _).mpr ⟨nonempty, written⟩) fun _ _ both =>
      both.2.ne_nil both.1
  by_cases none_sent : values = []
  · subst none_sent
    simpa using values_eq
  · rw [List.splitOn_intercalate ',' separate none_sent,
      List.filter_eq_self.mpr fun text listed => by simpa using written_nonempty text listed,
      values_eq]

/-- A written parameter has the separators of its key and values only. -/
theorem SentParameter.WrittenAs.notMem {sent : SentParameter} {text : List Char}
    (written : sent.WrittenAs text) {separator : Char} (listed : separator ∈ [';', '/']) :
    separator ∉ text := by
  obtain ⟨key, values, key_encoded, values_encoded, rfl⟩ := written
  have sign : separator ∈ [';', '/', '=', ','] ∧ separator ≠ '=' ∧ separator ≠ ',' := by
    revert listed
    simp only [List.mem_cons, List.not_mem_nil, or_false]
    rintro (rfl | rfl) <;> decide
  obtain ⟨listed, not_equals, not_comma⟩ := sign
  intro inside
  rcases List.mem_append.mp inside with in_key | behind
  · exact key_encoded.notMem listed in_key
  rcases List.mem_cons.mp behind with same | in_values
  · exact not_equals same
  rcases Text.mem_intercalate in_values with same | ⟨text, text_listed, in_text⟩
  · exact not_comma same
  · exact forall_mem_of_forall₂ values_encoded (fun _ _ encoded => encoded.notMem listed) text
      text_listed in_text

/-- A parameter is read as its key and its values. -/
theorem parameter_of_writtenAs {sent : SentParameter} {text : List Char}
    (written : sent.WrittenAs text) : parameter text = (sent.key, sent.values) := by
  obtain ⟨key, values, key_encoded, values_encoded, rfl⟩ := written
  have no_equals : '=' ∉ key := key_encoded.notMem (by decide)
  rw [parameter, Text.cutAt_append _ no_equals]
  simp only [key_encoded.percentDecode_eq, values_of_encodedAs values_encoded sent.value_ne_nil]

theorem SentParameter.WrittenAs.ne_nil {sent : SentParameter} {text : List Char}
    (written : sent.WrittenAs text) : text ≠ [] := by
  obtain ⟨key, values, -, -, rfl⟩ := written
  simp

/-- A segment that is read has the name and the texts of the parameters that were written. -/
def SentSegment.ReadAs (sent : SentSegment) (read : List Char × List (List Char)) : Prop :=
  read.1 = sent.name.toList ∧ List.Forall₂ SentParameter.WrittenAs sent.parameters read.2

/-- A segment is read as its name and its parameters. -/
theorem segment_of_writtenAs {sent : SentSegment} {text : List Char}
    (written : sent.WrittenAs text) : sent.ReadAs (segment text) := by
  obtain ⟨parameters, parameters_written, rfl⟩ := written
  have separate : ∀ text ∈ sent.name.toList :: parameters, ';' ∉ text :=
    List.forall_mem_cons.mpr ⟨sent.no_semicolon,
      forall_mem_of_forall₂ parameters_written fun _ _ written => written.notMem (by decide)⟩
  have nonempty : ∀ text ∈ parameters, text ≠ [] :=
    forall_mem_of_forall₂ parameters_written fun _ _ written => written.ne_nil
  have segment_eq : segment (sent.name.toList ++ parameters.flatMap (';' :: ·)) =
      (sent.name.toList, parameters.filter fun parameter => !parameter.isEmpty) := by
    rw [segment, Text.splitOn_flatMap_cons separate]
  rw [segment_eq, List.filter_eq_self.mpr fun text listed => by simpa using nonempty text listed]
  exact ⟨rfl, parameters_written⟩

theorem SentSegment.WrittenAs.no_slash {sent : SentSegment} {text : List Char}
    (written : sent.WrittenAs text) : '/' ∉ text := by
  obtain ⟨parameters, parameters_written, rfl⟩ := written
  have outside : ∀ text ∈ parameters, '/' ∉ text :=
    forall_mem_of_forall₂ parameters_written fun _ _ written => written.notMem (by decide)
  simp only [List.mem_append, List.mem_flatMap, List.mem_cons, not_or, not_exists, not_and]
  exact ⟨sent.no_slash, fun text listed => ⟨by decide, outside text listed⟩⟩

/-- A path is read as its segments. -/
theorem segments_of_writtenAs {sent : List SentSegment} (nonempty : sent ≠ []) {path : String}
    (written : WrittenAs sent path) :
    List.Forall₂ SentSegment.ReadAs sent (segments path) := by
  obtain ⟨texts, texts_written, rfl⟩ := written
  have separate : ∀ text ∈ texts, '/' ∉ text :=
    forall_mem_of_forall₂ texts_written fun _ _ written => written.no_slash
  have texts_ne : texts ≠ [] := by
    rintro rfl
    exact nonempty (List.forall₂_nil_right_iff.mp texts_written)
  rw [segments, String.toList_ofList, List.splitOn_intercalate '/' separate texts_ne,
    List.forall₂_map_right_iff]
  exact texts_written.imp fun _ _ => segment_of_writtenAs

theorem map_fst_of_readAs {sent : List SentSegment}
    {segments : List (List Char × List (List Char))}
    (read : List.Forall₂ SentSegment.ReadAs sent segments) :
    segments.map Prod.fst = sent.map fun segment => segment.name.toList := by
  induction read with
  | nil => rfl
  | cons first _ ih => rw [List.map_cons, List.map_cons, ih, first.1]

/-- The parameters under a name are those that were sent under it, in their order. -/
theorem parametersOf_of_readAs {sent : List SentSegment}
    {segments : List (List Char × List (List Char))}
    (read : List.Forall₂ SentSegment.ReadAs sent segments) (name : String) :
    List.Forall₂ SentParameter.WrittenAs (sentUnder sent name)
      (parametersOf name.toList segments) := by
  induction read with
  | nil => exact .nil
  | @cons segment read sent segments first _ ih =>
      obtain ⟨name_eq, parameters_written⟩ := first
      by_cases same : segment.name = name
      · subst same
        rw [sentUnder, parametersOf, List.filter_cons_of_pos (by simp),
          List.filter_cons_of_pos (by simpa using name_eq), List.flatMap_cons, List.flatMap_cons]
        exact List.rel_append parameters_written ih
      · have other : read.1 ≠ name.toList := by
          rw [name_eq]
          exact fun chars_eq => same (String.toList_inj.mp chars_eq)
        rw [sentUnder, parametersOf, List.filter_cons_of_neg (by simpa using same),
          List.filter_cons_of_neg (by simpa using other)]
        exact ih

/-! ## The path without parameters -/

/-- The name of a segment has no parameters. -/
theorem no_semicolon_segment (text : List Char) : ';' ∉ (segment text).1 := by
  rw [fst_segment]
  exact Text.notMem_before ';' text

theorem segment_of_plain {text : List Char} (plain : ';' ∉ text) : segment text = (text, []) := by
  rw [segment, List.splitOn_eq_singleton plain]
  rfl

/-- The path that is looked up is looked up as it is and has no matrix variables. -/
theorem of_lookupPath (path : String) :
    lookupPath (lookupPath path) = lookupPath path ∧ ofPath (lookupPath path) = Dict.empty := by
  have segments_eq : segments (lookupPath path) =
      (segments path).map fun segment => (segment.1, []) := by
    rw [segments, splitOn_lookupPath, List.map_map]
    refine List.map_congr_left fun read listed => ?_
    obtain ⟨text, -, rfl⟩ := List.mem_map.mp listed
    exact segment_of_plain (no_semicolon_segment text)
  constructor
  · conv_lhs => rw [lookupPath, segments_eq, List.map_map]
    rfl
  · rw [ofPath, segments_eq, List.foldl_map]
    exact List.foldl_fixed _

/-- Under each key of each name are the values that were sent under it, in the order of the path. -/
theorem get?_variables_of_writtenAs {sent : List SentParameter} {parameters : List (List Char)}
    (written : List.Forall₂ SentParameter.WrittenAs sent parameters) (key : String) :
    (variables? parameters).bind (·.get? key) =
      if ∃ parameter ∈ sent, parameter.key = key then
        some ((sent.filter (·.key = key)).flatMap SentParameter.values)
      else none := by
  have read_eq : parameters.map parameter =
      sent.map fun parameter => (parameter.key, parameter.values) := by
    induction written with
    | nil => rfl
    | cons first _ ih => rw [List.map_cons, List.map_cons, ih, parameter_of_writtenAs first]
  have some_written : (∃ text ∈ parameters, (parameter text).1 = key) ↔
      ∃ parameter ∈ sent, parameter.key = key := by
    calc (∃ text ∈ parameters, (parameter text).1 = key)
      _ ↔ ∃ read ∈ parameters.map parameter, read.1 = key := by simp
      _ ↔ ∃ parameter ∈ sent, parameter.key = key := by simp [read_eq]
  have values_eq : ((parameters.filter fun text => (parameter text).1 = key).flatMap fun text =>
      (parameter text).2) = (sent.filter (·.key = key)).flatMap SentParameter.values := by
    calc _ = ((parameters.map parameter).filter (·.1 = key)).flatMap Prod.snd := by
          simp [List.filter_map, List.flatMap_map, Function.comp_def]
      _ = _ := by simp [read_eq, List.filter_map, List.flatMap_map, Function.comp_def]
  rw [get?_variables, values_eq]
  simp only [some_written]

/-- A path that is written with matrix variables is looked up by its names.  Under a name there is
something exactly if parameters were sent under it, and under each of their keys are the values of
all parameters with that key, in the order of the path.  The path that is looked up has no matrix
variables left. -/
theorem ofPath_of_writtenAs {sent : List SentSegment} (nonempty : sent ≠ []) {path : String}
    (written : WrittenAs sent path) :
    lookupPath path = "/".intercalate (sent.map SentSegment.name) ∧
      (∀ name, (ofPath path).get? name = none ↔ sentUnder sent name = []) ∧
      (∀ name key, ((ofPath path).get? name).bind (·.get? key) =
        if ∃ parameter ∈ sentUnder sent name, parameter.key = key then
          some (((sentUnder sent name).filter (·.key = key)).flatMap SentParameter.values)
        else none) ∧
      lookupPath (lookupPath path) = lookupPath path ∧
      ofPath (lookupPath path) = Dict.empty := by
  have read := segments_of_writtenAs nonempty written
  have found (name : String) : (ofPath path).get? name =
      variables? (parametersOf name.toList (segments path)) := by
    rw [← get?_ofPath, String.ofList_toList]
  refine ⟨?_, fun name => ?_, fun name key => ?_, of_lookupPath path⟩
  · rw [lookupPath, map_fst_of_readAs read, ← String.toList_inj, String.toList_ofList,
      String.toList_intercalate, List.map_map]
    rfl
  · have parameters_written := parametersOf_of_readAs read name
    rw [found, variables?_eq_none_iff]
    constructor
    · intro none_read
      rw [none_read] at parameters_written
      exact List.forall₂_nil_right_iff.mp parameters_written
    · intro none_sent
      rw [none_sent] at parameters_written
      exact List.forall₂_nil_left_iff.mp parameters_written
  · rw [found, get?_variables_of_writtenAs (parametersOf_of_readAs read name)]

/-- Segments with a repeated name and a repeated key, and a key without values. -/
def sentCars : List SentSegment :=
  [⟨"", [], by decide +kernel, by decide +kernel⟩,
    ⟨"cars", [⟨"color", ["red", "ü+"], by decide +kernel⟩, ⟨";", [], by decide +kernel⟩],
      by decide +kernel, by decide +kernel⟩,
    ⟨"cars", [⟨"color", ["1 "], by decide +kernel⟩], by decide +kernel, by decide +kernel⟩]

/-- A way to write them. -/
def carsPath : String := "/cars;color=red,%C3%bc%2B;%3b=/cars;color=1+"

theorem writtenAs_carsPath : WrittenAs sentCars carsPath := by
  have accent : Text.EscapedBytes (String.utf8EncodeChar 'ü') ['%', 'C', '3', '%', 'b', 'c'] :=
    .cons (b := 0xC3) (by decide +kernel) (by decide +kernel)
      (.cons (b := 0xBC) (by decide +kernel) (by decide +kernel) .nil)
  have plus : Text.EscapedBytes (String.utf8EncodeChar '+') ['%', '2', 'B'] :=
    .cons (b := 0x2B) (by decide +kernel) (by decide +kernel) .nil
  have semicolon : Text.EscapedBytes (String.utf8EncodeChar ';') ['%', '3', 'b'] :=
    .cons (b := 0x3B) (by decide +kernel) (by decide +kernel) .nil
  have color : EncodedAs "color" "color".toList :=
    .self (List.all_eq_true.mp (by decide +kernel))
  have red : EncodedAs "red" "red".toList := .self (List.all_eq_true.mp (by decide +kernel))
  have accented : EncodedAs "ü+" "%C3%bc%2B".toList := .escaped accent (.escaped plus .nil)
  have separator : EncodedAs ";" "%3b".toList := .escaped semicolon .nil
  have blank : EncodedAs "1 " "1+".toList := .raw (by decide +kernel) (.space .nil)
  refine ⟨[[], "cars;color=red,%C3%bc%2B;%3b=".toList, "cars;color=1+".toList],
    .cons ⟨[], .nil, ?_⟩ (.cons ⟨_, .cons ⟨_, _, color, .cons red (.cons accented .nil), rfl⟩
      (.cons ⟨_, _, separator, .nil, rfl⟩ .nil), ?_⟩
      (.cons ⟨_, .cons ⟨_, _, color, .cons blank .nil, rfl⟩ .nil, ?_⟩ .nil)), ?_⟩ <;>
    decide +kernel

theorem ofPath_of_writtenAs_cars :
    lookupPath carsPath = "/cars/cars" ∧
      ((ofPath carsPath).get? "cars").bind (·.get? "color") = some ["red", "ü+", "1 "] ∧
      ((ofPath carsPath).get? "cars").bind (·.get? ";") = some [] ∧
      (ofPath carsPath).get? "" = none := by
  obtain ⟨path_eq, none_iff, values_eq, -⟩ :=
    ofPath_of_writtenAs (List.cons_ne_nil _ _) writtenAs_carsPath
  refine ⟨path_eq.trans (by decide +kernel), (values_eq "cars" "color").trans (by decide +kernel),
    (values_eq "cars" ";").trans (by decide +kernel), (none_iff "").mpr (by decide +kernel)⟩

end Matrix
end WebDispatch
