import Mathlib.Data.List.TakeWhile
import WebDispatch.Proofs.Upload.SentForm
import WebDispatch.Upload.Resolution

/-!
# Reading a form that was written

The body of a form is read as the parts that were written into it, in their order, with what their
headers say and with their whole contents: `FormData.parts_write`.  The content type that says the
boundary is read as well.
-/

namespace WebDispatch

open FormData (lineEnd delimiter)

/-- The part that is read where a part was written. -/
def SentPart.toFormPart (part : SentPart) : FormPart where
  head := part.head
  pieces := [part.content.bytes]

/-- A boundary of letters, digits and hyphens. -/
def IsBoundary (boundary : String) : Prop :=
  ∀ c ∈ boundary.toList, c.isAlphanum = true ∨ c = '-'

instance (boundary : String) : Decidable (IsBoundary boundary) :=
  List.decidableBAll _ _

namespace IsBoundary

variable {boundary : String}

theorem isTokenChar (plain : IsBoundary boundary) :
    ∀ c ∈ boundary.toList, isTokenChar c = true := by
  intro c listed
  rcases plain c listed with alphanum | rfl
  · simp [WebDispatch.isTokenChar, alphanum]
  · decide

theorem unbroken (plain : IsBoundary boundary) : MultipartBody.Unbroken boundary := by
  apply MultipartBody.unbroken_of_printable
  intro c listed
  rcases plain c listed with alphanum | rfl
  · have range := Text.isAlphanum_iff_toNat.mp alphanum
    omega
  · decide

end IsBoundary

namespace FormData

variable {boundary : String}

/-- A form is a multipart body without a preamble. -/
theorem write_eq (boundary : String) (parts : List SentPart) :
    write boundary parts =
      MultipartBody.write boundary { parts := parts.map SentPart.toBodyPart } := by
  have written_eq : write boundary parts = delimiter boundary ++
      MultipartBody.writeParts boundary lineEnd (parts.map SentPart.toBodyPart) := by
    induction parts with
    | nil => rfl
    | cons part rest ih =>
        have rest_eq : write boundary (part :: rest) =
            delimiter boundary ++ (lineEnd ++ part.write) ++ write boundary rest := by
          simp [write]
        rw [rest_eq, ih, part.write_eq, List.map_cons, MultipartBody.writeParts]
        simp only [List.append_assoc]
  exact written_eq

/-- A body is read as the parts that were written into it. -/
theorem parts_write (plain : IsBoundary boundary) {parts : List SentPart}
    (sendable : ∀ part ∈ parts, part.Sendable boundary) {limit : Option Nat}
    (fits : ∀ part ∈ parts, ∀ most ∈ limit, part.content.bytes.length ≤ most) :
    FormData.parts boundary limit (write boundary parts) =
      (parts.map SentPart.toFormPart, none) := by
  have wellFormed : MultipartBody.WellFormed boundary
      { parts := parts.map SentPart.toBodyPart } := by
    refine ⟨.inl rfl, by simp [delimiter], ?_⟩
    intro part listed
    obtain ⟨sent, sent_listed, rfl⟩ := List.mem_map.mp listed
    exact (sendable sent sent_listed).wellFormed
  have read_eq : (parts.map SentPart.toBodyPart).map BodyPart.toFormPart =
      parts.map SentPart.toFormPart := by
    rw [List.map_map]
    refine List.map_congr_left ?_
    intro part listed
    simp only [Function.comp_apply, BodyPart.toFormPart, (sendable part listed).head_eq]
    rfl
  rw [write_eq, MultipartBody.parts_write plain.unbroken wellFormed, read_eq]
  intro part listed
  obtain ⟨sent, sent_listed, rfl⟩ := List.mem_map.mp listed
  exact fits sent sent_listed

/-! ## The content type -/

/-- The content type of a form. -/
def contentType (boundary : String) : String := "multipart/form-data; boundary=" ++ boundary

theorem toList_contentType (boundary : String) : (contentType boundary).toList =
    "multipart".toList ++ '/' :: ("form-data".toList ++ ';' :: ' ' ::
      ("boundary".toList ++ '=' :: boundary.toList)) := by
  have literal_eq : "multipart/form-data; boundary=".toList =
      "multipart".toList ++ '/' :: ("form-data".toList ++ ';' :: ' ' ::
        ("boundary".toList ++ ['='])) := by
    decide +kernel
  unfold contentType
  rw [String.toList_append, literal_eq]
  simp only [List.append_assoc, List.cons_append, List.nil_append]

theorem takeWhile_append_cons {α : Type} {p : α → Bool} {front : List α} {stop : α}
    (inside : ∀ a ∈ front, p a = true) (stops : p stop = false) (back : List α) :
    (front ++ stop :: back).takeWhile p = front ∧
      (front ++ stop :: back).dropWhile p = stop :: back := by
  rw [List.takeWhile_append_of_pos inside, List.dropWhile_append_of_pos inside,
    List.takeWhile_cons_of_neg (by simp [stops]), List.dropWhile_cons_of_neg (by simp [stops])]
  exact ⟨List.append_nil _, rfl⟩

theorem parameter?_boundary (plain : IsBoundary boundary) :
    ∃ written, MediaType.parameter? ("boundary".toList ++ '=' :: boundary.toList) =
      some (⟨"boundary", boundary, written⟩, []) := by
  have name_token : ∀ c ∈ "boundary".toList, isTokenChar c = true :=
    List.all_eq_true.mp (by decide +kernel)
  have equals : isTokenChar '=' = false := by decide
  obtain ⟨name_eq, behind_eq⟩ := takeWhile_append_cons name_token equals boundary.toList
  have value_eq : MediaType.value? boundary.toList = some (boundary.toList, []) := by
    have taken := List.takeWhile_eq_self_iff.mpr plain.isTokenChar
    have dropped := List.dropWhile_eq_nil_iff.mpr plain.isTokenChar
    unfold MediaType.value?
    split
    · next rest quoted =>
        have token := plain.isTokenChar '"' (by simp [quoted])
        exact absurd token (by decide)
    · simp [MediaType.plainValue?, taken, dropped]
  have name_lower : String.ofList ("boundary".toList.map Char.toLower) = "boundary" := by
    decide +kernel
  have nonempty : "boundary".toList.isEmpty = false := by decide +kernel
  simp only [MediaType.parameter?, name_eq, behind_eq, value_eq, nonempty, Bool.false_eq_true,
    if_false, bind, Option.bind, name_lower, String.ofList_toList]
  exact ⟨_, rfl⟩

theorem parameters?_boundary (plain : IsBoundary boundary) (fuel : Nat) :
    ∃ written, MediaType.parameters? (fuel + 2)
        (' ' :: ("boundary".toList ++ '=' :: boundary.toList)) =
      some [⟨"boundary", boundary, written⟩] := by
  obtain ⟨written, parameter_eq⟩ := parameter?_boundary plain
  have name_eq : "boundary".toList = 'b' :: "oundary".toList := by decide +kernel
  have start_eq : (' ' :: ("boundary".toList ++ '=' :: boundary.toList)).dropWhile (· == ' ') =
      "boundary".toList ++ '=' :: boundary.toList := by
    rw [name_eq]
    rfl
  unfold MediaType.parameters?
  rw [start_eq]
  split
  · next empty => simp [name_eq] at empty
  · simp only [parameter_eq, MediaType.parameters?, List.dropWhile_nil, bind, Option.bind]
    exact ⟨_, rfl⟩

/-- The content type of a form is read as multipart form data with its boundary. -/
theorem parse?_contentType (plain : IsBoundary boundary) :
    ∃ text written, MediaType.parse? (contentType boundary) =
      some ⟨"multipart", "form-data", text, [⟨"boundary", boundary, written⟩]⟩ := by
  have main_token : ∀ c ∈ "multipart".toList, isTokenChar c = true :=
    List.all_eq_true.mp (by decide +kernel)
  have sub_token : ∀ c ∈ "form-data".toList, isTokenChar c = true :=
    List.all_eq_true.mp (by decide +kernel)
  have slash : isTokenChar '/' = false := by decide
  have semicolon : isTokenChar ';' = false := by decide
  obtain ⟨main_eq, behind_main⟩ := takeWhile_append_cons main_token slash
    ("form-data".toList ++ ';' :: ' ' :: ("boundary".toList ++ '=' :: boundary.toList))
  obtain ⟨sub_eq, behind_sub⟩ := takeWhile_append_cons sub_token semicolon
    (' ' :: ("boundary".toList ++ '=' :: boundary.toList))
  obtain ⟨written, parameters_eq⟩ := parameters?_boundary plain
    ("boundary".toList ++ '=' :: boundary.toList).length
  have main_nonempty : "multipart".toList.isEmpty = false := by decide +kernel
  have sub_nonempty : "form-data".toList.isEmpty = false := by decide +kernel
  have main_lower : String.ofList ("multipart".toList.map Char.toLower) = "multipart" := by
    decide +kernel
  have sub_lower : String.ofList ((MediaType.parse?.subtypeOf "form-data".toList).map
      Char.toLower) = "form-data" := by
    decide +kernel
  simp only [MediaType.parse?, toList_contentType, main_eq, behind_main, sub_eq, behind_sub,
    main_nonempty, sub_nonempty, Bool.false_eq_true, if_false, List.length_cons, parameters_eq,
    Option.map_some, main_lower, sub_lower]
  exact ⟨_, _, rfl⟩

theorem boundary_contentType (plain : IsBoundary boundary) :
    FormData.boundary (contentType boundary) = .ok boundary := by
  obtain ⟨text, written, parse_eq⟩ := parse?_contentType plain
  simp [FormData.boundary, parse_eq, MediaType.parameter]

end FormData

theorem UploadConfig.isMultipart_contentType (config : UploadConfig) {request : Request}
    {boundary : String} (sent : request.contentType? = some (FormData.contentType boundary)) :
    config.isMultipart request = true := by
  have literal_eq : "multipart/form-data; boundary=".toList =
      'm' :: "ultipart/form-data; boundary=".toList := by decide +kernel
  have start : Text.isBlank 'm' = false := by decide
  have trimmed : Text.trimStart Text.isBlank (FormData.contentType boundary).toList =
      "multipart/form-data; boundary=".toList ++ boundary.toList := by
    unfold FormData.contentType
    rw [String.toList_append, literal_eq, List.cons_append, Text.trimStart,
      List.dropWhile_cons_of_neg (by simp [start])]
  have lowered (expected : List Char)
      (starts : expected <+: "multipart/form-data; boundary=".toList.map Char.toLower) :
      expected.isPrefixOf ((Text.trimStart Text.isBlank
        (FormData.contentType boundary).toList).map Char.toLower) = true := by
    rw [trimmed, List.map_append, List.isPrefixOf_iff_prefix]
    exact starts.trans (List.prefix_append _ _)
  unfold isMultipart
  rw [sent]
  cases config.strict
  · exact lowered _ (by decide +kernel)
  · exact lowered _ (by decide +kernel)

end WebDispatch
