import WebDispatch.Proofs.Upload.MultipartBody

/-!
# The form that a sender writes

A sender writes the parts of a form one after the other, each behind a line with the boundary and
headers that say its name and, for a file, the name of the file.  The headers are read back as they
were written, and they say what the sender means.
-/

namespace WebDispatch

open FormData (lineEnd delimiter)

/-! ## Writing -/

/-- What a part of a form holds. -/
inductive SentContent where
  /-- A text. -/
  | text (value : String)
  /-- A file with the name that it has at the sender. -/
  | file (filename : String) (bytes : List UInt8)

/-- A part of a form. -/
structure SentPart where
  /-- The name of the part. -/
  name : String
  /-- What the part holds. -/
  content : SentContent

namespace SentContent

/-- The bytes of a content. -/
def bytes : SentContent → List UInt8
  | text value => Text.encode value
  | file _ bytes => bytes

/-- The name of the file, if the content is one. -/
def filename? : SentContent → Option String
  | text _ => none
  | file filename _ => some filename

/-- The media type that is sent with a content. -/
def mediaType? : SentContent → Option MediaType
  | text _ => none
  | file _ _ => PartHead.mediaTypeOf? (Text.encode "application/octet-stream")

end SentContent

namespace PartHeader

/-- A header in its line. -/
def write (header : List UInt8 × List UInt8) : List UInt8 :=
  header.1 ++ [0x3A, 0x20] ++ header.2 ++ lineEnd

/-- Headers up to an empty line. -/
def writeAll (headers : List (List UInt8 × List UInt8)) : List UInt8 :=
  headers.flatMap write ++ lineEnd

end PartHeader

/-- A parameter with its value between quotes. -/
def Disposition.write (word value : String) : List UInt8 :=
  Text.encode word ++ [0x3D, 0x22] ++ Text.encode value ++ [0x22]

namespace SentPart

/-- The parameter that names the file, if the part is one. -/
def fileParameter (part : SentPart) : List UInt8 :=
  match part.content.filename? with
  | none => []
  | some filename => Text.encode "; " ++ Disposition.write "filename" filename

/-- The value of the header that names a part. -/
def disposition (part : SentPart) : List UInt8 :=
  Text.encode "form-data; " ++ Disposition.write "name" part.name ++ part.fileParameter

/-- The headers of a part. -/
def headers (part : SentPart) : List (List UInt8 × List UInt8) :=
  (Text.encode "Content-Disposition", part.disposition) ::
    match part.content with
    | .text _ => []
    | .file _ _ => [(Text.encode "Content-Type", Text.encode "application/octet-stream")]

/-- What the headers of a part say. -/
def head (part : SentPart) : PartHead where
  name := some part.name
  filename := part.content.filename?
  mediaType := part.content.mediaType?

/-- A part in its lines. -/
def write (part : SentPart) : List UInt8 :=
  PartHeader.writeAll part.headers ++ part.content.bytes ++ lineEnd

end SentPart

/-- The body of a form. -/
def FormData.write (boundary : String) (parts : List SentPart) : List UInt8 :=
  parts.flatMap (fun part => delimiter boundary ++ lineEnd ++ part.write) ++
    delimiter boundary ++ Text.encode "--\r\n"

example : FormData.write "b" [⟨"a", .file "f" [0x79]⟩] = Text.encode
    ("--b\r\nContent-Disposition: form-data; name=\"a\"; filename=\"f\"\r\n" ++
      "Content-Type: application/octet-stream\r\n\r\ny\r\n--b--\r\n") := by
  decide +kernel

/-! ## Headers in their lines -/

namespace PartHeader

/-- A header that stands in a line as it is. -/
structure Writable (header : List UInt8 × List UInt8) : Prop where
  name_ne_nil : header.1 ≠ []
  isNameByte_name : ∀ b ∈ header.1, isNameByte b = true
  isValueByte_value : ∀ b ∈ header.2, isValueByte b = true
  value_starts : ∀ b ∈ header.2.head?, isBlankByte b = false
  value_ends : ∀ b ∈ header.2.getLast?, isBlankByte b = false

/-- The line that a header stands in. -/
def line (header : List UInt8 × List UInt8) : HeaderLine := ⟨header.1, 0x20 :: header.2⟩

variable {header : List UInt8 × List UInt8}

theorem writeAll_eq (headers : List (List UInt8 × List UInt8)) :
    writeAll headers = HeaderLine.writeAll (headers.map line) := by
  have write_eq : write = fun header => (line header).write := by
    funext header
    simp [write, line, HeaderLine.write]
  rw [writeAll, HeaderLine.writeAll, List.flatMap_map, write_eq]

theorem Writable.wellFormed_line (writable : Writable header) : (line header).WellFormed where
  name_ne_nil := writable.name_ne_nil
  isNameByte_name := writable.isNameByte_name
  isValueByte_text := by
    intro b listed
    rcases List.mem_cons.mp listed with rfl | inside
    · decide
    · exact writable.isValueByte_value b inside

/-- The value in the line of a header is the one that was written. -/
theorem Writable.value_line (writable : Writable header) : (line header).value = header.2 := by
  have blank : isBlankByte 0x20 = true := by decide
  have starts : (0x20 :: header.2).dropWhile isBlankByte = header.2 := by
    rw [List.dropWhile_cons_of_pos blank]
    rcases value_eq : header.2 with _ | ⟨b, rest⟩
    · rfl
    · rw [List.dropWhile_cons_of_neg]
      simp [writable.value_starts b (by simp [value_eq])]
  have ends : (header.2.reverse.dropWhile isBlankByte).reverse = header.2 := by
    rcases reverse_eq : header.2.reverse with _ | ⟨b, rest⟩
    · simpa using reverse_eq
    · have last : b ∈ header.2.getLast? := by simp [List.getLast?_eq_head?_reverse, reverse_eq]
      rw [List.dropWhile_cons_of_neg (by simp [writable.value_ends b last]), ← reverse_eq,
        List.reverse_reverse]
  rw [HeaderLine.value, line, starts, ends]

end PartHeader

/-! ## Reading what headers say -/

namespace Disposition

/-- The value of a parameter whose word is found in front of it. -/
theorem parameter?_of_afterWord? {word value : String} {header : List UInt8} (tail : List UInt8)
    (plain : ∀ b ∈ Text.encode value, b ≠ 0x22 ∧ b ≠ 0x5C)
    (found : afterWord? (Text.encode word) true header =
      some (0x3D :: 0x22 :: (Text.encode value ++ 0x22 :: tail))) :
    parameter? word header = some value := by
  have unblank : isBlankByte 0x3D = false := by decide
  simp [parameter?, found, unblank, value?_quoted plain, Text.decode?_encode]

end Disposition

namespace SentPart

/-- A part that can be sent with a boundary. -/
structure Sendable (boundary : String) (part : SentPart) : Prop where
  /-- The name consists of letters and digits. -/
  isAlphanum_name : ∀ c ∈ part.name.toList, c.isAlphanum = true
  /-- The name of a file has no characters that would have to be escaped. -/
  plain_filename : ∀ filename ∈ part.content.filename?, ∀ c ∈ filename.toList,
    Text.isControl c = false ∧ c ≠ '"' ∧ c ≠ '\\'
  /-- The search for the name of a file does not end in the name of the part. -/
  not_twice : part.content.filename?.isSome → ¬ "filenamefilename".toList <:+: part.name.toList
  /-- A text does not begin with a byte order mark. -/
  unmarked : ∀ value, part.content = .text value → value.toList.head? ≠ some '\uFEFF'
  /-- The content does not hold the delimiter. -/
  undelimited : ¬ lineEnd ++ delimiter boundary <:+: part.content.bytes

variable {boundary : String} {part : SentPart}

theorem Sendable.plain_name (sendable : part.Sendable boundary) {b : UInt8}
    (listed : b ∈ Text.encode part.name) : b ≠ 0x22 ∧ b ≠ 0x5C ∧ b ≠ 0x3D ∧
      (Disposition.isBlankByte b || b == 0x3B) = false ∧ PartHeader.isValueByte b = true := by
  have range := Text.isAlphanum_of_mem_encode sendable.isAlphanum_name listed
  have ne_of_toNat {n : UInt8} (other : b.toNat ≠ n.toNat) : b ≠ n := fun same => other (same ▸ rfl)
  have printable : 0x20 ≤ b := by
    rw [UInt8.le_iff_toNat_le]
    simp
    omega
  have not_deleted : b ≠ 0x7F := ne_of_toNat (by simp; omega)
  refine ⟨ne_of_toNat ?_, ne_of_toNat ?_, ne_of_toNat ?_, ?_, ?_⟩
  · simp; omega
  · simp; omega
  · simp; omega
  · simp only [Disposition.isBlankByte, Bool.or_eq_false_iff, beq_eq_false_iff_ne]
    refine ⟨⟨⟨⟨⟨?_, ?_⟩, ?_⟩, ?_⟩, ?_⟩, ?_⟩ <;> refine ne_of_toNat ?_ <;> simp <;> omega
  · simp [PartHeader.isValueByte, printable, not_deleted]

theorem Sendable.plain_filename_byte (sendable : part.Sendable boundary) {filename : String}
    (is_file : part.content.filename? = some filename) {b : UInt8}
    (listed : b ∈ Text.encode filename) :
    b ≠ 0x22 ∧ b ≠ 0x5C ∧ PartHeader.isValueByte b = true := by
  have value_byte (printable : 0x20 ≤ b.toNat) (not_deleted : b.toNat ≠ 0x7F) :
      PartHeader.isValueByte b = true := by
    have printable : 0x20 ≤ b := UInt8.le_iff_toNat_le.mpr printable
    have not_deleted : b ≠ 0x7F := fun same => not_deleted (same ▸ rfl)
    simp [PartHeader.isValueByte, printable, not_deleted]
  obtain ⟨c, inside, same | ⟨-, above⟩⟩ := Text.of_mem_encode listed
  · obtain ⟨not_control, not_quote, not_escape⟩ := sendable.plain_filename filename is_file c inside
    simp only [Text.isControl, Bool.or_eq_false_iff, Bool.and_eq_false_iff,
      decide_eq_false_iff_not] at not_control
    refine ⟨?_, ?_, value_byte (by omega) (by omega)⟩
    · rintro rfl
      exact not_quote (by rw [← c.ofNat_toNat, same]; rfl)
    · rintro rfl
      exact not_escape (by rw [← c.ofNat_toNat, same]; rfl)
  · refine ⟨?_, ?_, value_byte (by omega) (by omega)⟩ <;> rintro rfl <;> contradiction

theorem isValueByte_write {word value : String} (word_plain : ∀ b ∈ Text.encode word,
    PartHeader.isValueByte b = true) (value_plain : ∀ b ∈ Text.encode value,
    PartHeader.isValueByte b = true) :
    ∀ b ∈ Disposition.write word value, PartHeader.isValueByte b = true := by
  have marks : ∀ b ∈ [(0x3D : UInt8), 0x22], PartHeader.isValueByte b = true :=
    List.all_eq_true.mp (by decide)
  intro b listed
  simp only [Disposition.write, List.mem_append] at listed
  rcases listed with ((listed | listed) | listed) | listed
  · exact word_plain b listed
  · exact marks b listed
  · exact value_plain b listed
  · exact marks b (List.mem_cons_of_mem _ listed)

theorem Sendable.isValueByte_disposition (sendable : part.Sendable boundary) :
    ∀ b ∈ part.disposition, PartHeader.isValueByte b = true := by
  have words : ∀ word ∈ ["form-data; ", "; ", "name", "filename"], ∀ b ∈ Text.encode word,
      PartHeader.isValueByte b = true := by
    decide +kernel
  have name_plain := isValueByte_write (words "name" (by simp))
    fun b listed => (sendable.plain_name listed).2.2.2.2
  intro b listed
  simp only [disposition, fileParameter, List.mem_append] at listed
  rcases listed with (listed | listed) | listed
  · exact words "form-data; " (by simp) b listed
  · exact name_plain b listed
  · cases filename_eq : part.content.filename? with
    | none => simp [filename_eq] at listed
    | some filename =>
        simp only [filename_eq, List.mem_append] at listed
        rcases listed with listed | listed
        · exact words "; " (by simp) b listed
        · refine isValueByte_write (words "filename" (by simp)) ?_ b listed
          exact fun b listed => (sendable.plain_filename_byte filename_eq listed).2.2

theorem getLast?_disposition (part : SentPart) : part.disposition.getLast? = some 0x22 := by
  have parameter_ends (word value : String) :
      (Disposition.write word value).getLast? = some 0x22 := List.getLast?_concat
  unfold disposition fileParameter
  cases part.content.filename? with
  | none => rw [List.append_nil, List.getLast?_append, parameter_ends, Option.some_or]
  | some filename =>
      rw [List.getLast?_append, List.getLast?_append, parameter_ends, Option.some_or,
        Option.some_or]

theorem Sendable.writable (sendable : part.Sendable boundary) :
    ∀ header ∈ part.headers, PartHeader.Writable header := by
  have name_bytes : ∀ b ∈ Text.encode "Content-Disposition", PartHeader.isNameByte b = true := by
    decide +kernel
  have first : part.disposition.head? = some 0x66 := rfl
  have disposition_writable : PartHeader.Writable
      (Text.encode "Content-Disposition", part.disposition) := by
    refine ⟨List.cons_ne_nil _ _, name_bytes, sendable.isValueByte_disposition, ?_, ?_⟩
    · intro b starts
      obtain rfl : (0x66 : UInt8) = b := Option.some.inj (first.symm.trans starts)
      decide
    · intro b ends
      obtain rfl : (0x22 : UInt8) = b :=
        Option.some.inj (part.getLast?_disposition.symm.trans ends)
      decide
  have type_writable : PartHeader.Writable
      (Text.encode "Content-Type", Text.encode "application/octet-stream") :=
    ⟨by decide +kernel, by decide +kernel, by decide +kernel, by decide +kernel,
      by decide +kernel⟩
  unfold headers
  cases part.content with
  | text value => simpa using disposition_writable
  | file filename bytes => simpa using ⟨disposition_writable, type_writable⟩

theorem disposition_eq (part : SentPart) :
    part.disposition = Text.encode "form-data;" ++ 0x20 :: (Text.encode "name" ++
      0x3D :: 0x22 :: (Text.encode part.name ++ 0x22 :: part.fileParameter)) := by
  rw [disposition, show "form-data; " = "form-data;" ++ " " from rfl, Text.encode_append]
  simp only [Disposition.write, List.append_assoc, List.cons_append, List.nil_append]
  rfl

theorem Sendable.parameter?_name (sendable : part.Sendable boundary) :
    Disposition.parameter? "name" part.disposition = some part.name := by
  have plain (b : UInt8) (listed : b ∈ Text.encode part.name) : b ≠ 0x22 ∧ b ≠ 0x5C :=
    ⟨(sendable.plain_name listed).1, (sendable.plain_name listed).2.1⟩
  refine Disposition.parameter?_of_afterWord? part.fileParameter plain ?_
  -- The kind of the disposition has no letter of the word in it.
  have passed (rest : List UInt8) : Disposition.afterWord? (Text.encode "name") true
      (Text.encode "form-data;" ++ 0x20 :: rest) =
        Disposition.afterWord? (Text.encode "name") true rest := by
    have word_eq : Text.encode "name" = [0x6E, 0x61, 0x6D, 0x65] := by decide +kernel
    rw [word_eq]
    exact Disposition.afterWord?_append_of_notMem (by decide +kernel) (by decide) rest
  rw [disposition_eq, passed, Disposition.afterWord?_append (by decide +kernel), if_pos rfl]

theorem encode_filename : Text.encode "filename" =
    [0x66, 0x69, 0x6C, 0x65, 0x6E, 0x61, 0x6D, 0x65] := by
  decide +kernel

/-- Where the search for the name of a file is when it comes to the value of the name. -/
theorem afterWord?_filename (part : SentPart) :
    Disposition.afterWord? (Text.encode "filename") true part.disposition =
      Disposition.afterWord? (Text.encode "filename") false
        (Text.encode part.name ++ 0x22 :: part.fileParameter) := by
  have header_eq : part.disposition = 0x66 :: (Text.encode "orm-data; name=" ++
      0x22 :: (Text.encode part.name ++ 0x22 :: part.fileParameter)) := by
    rw [disposition_eq]
    rfl
  have not_here (rest : List UInt8) :
      ¬ Text.encode "filename" <+: 0x66 :: (Text.encode "orm-data; name=" ++ rest) := by
    intro here
    have second : (0x69 : UInt8) = 0x6F :=
      (List.cons_prefix_cons.mp (List.cons_prefix_cons.mp here).2).1
    contradiction
  have passed (starts : Bool) (rest : List UInt8) :
      Disposition.afterWord? (Text.encode "filename") starts
        (Text.encode "orm-data; name=" ++ 0x22 :: rest) =
          Disposition.afterWord? (Text.encode "filename") false rest := by
    rw [encode_filename]
    exact Disposition.afterWord?_append_of_notMem (by decide +kernel) (by decide) rest
  rw [header_eq, Disposition.afterWord?_cons (not_here _), passed]

/-- The name of a file is not found twice in a row in the name of its part. -/
theorem Sendable.not_twice_encode (sendable : part.Sendable boundary)
    (is_file : part.content.filename?.isSome) :
    ¬ Text.encode "filename" ++ Text.encode "filename" <:+: Text.encode part.name := by
  have ascii : ∀ c ∈ part.name.toList, c.toNat < 0x80 := by
    intro c listed
    have range := Text.isAlphanum_iff_toNat.mp (sendable.isAlphanum_name c listed)
    omega
  intro twice
  have twice_chars := twice.map fun b => Char.ofNat b.toNat
  rw [Text.map_ofNat_encode ascii] at twice_chars
  exact sendable.not_twice is_file twice_chars

/-- The search for the name of a file passes over the value of the name, unless it finds its word
twice in a row there. -/
theorem Sendable.afterWord?_name (sendable : part.Sendable boundary) :
    (∃ starts, Disposition.afterWord? (Text.encode "filename") false
        (Text.encode part.name ++ 0x22 :: part.fileParameter) =
      Disposition.afterWord? (Text.encode "filename") starts (0x22 :: part.fileParameter)) ∨
    Text.encode "filename" ++ Text.encode "filename" <:+: Text.encode part.name ∧
      ∃ back, back <:+ Text.encode part.name ∧
        Disposition.afterWord? (Text.encode "filename") false
          (Text.encode part.name ++ 0x22 :: part.fileParameter) =
            some (back ++ 0x22 :: part.fileParameter) := by
  have nonempty : Text.encode "filename" ≠ [] := by simp [encode_filename]
  have unquoted : (0x22 : UInt8) ∉ Text.encode "filename" := by simp [encode_filename]
  refine (Disposition.afterWord?_quoted false nonempty unquoted
    (fun b listed => (sendable.plain_name listed).2.2.2.1) part.fileParameter).imp_right ?_
  rintro ⟨⟨starts, -⟩ | twice, found⟩
  · contradiction
  · exact ⟨twice, found⟩

/-- Behind a value of a name without a parameter of a file, no parameter of a file is found. -/
theorem Sendable.parameter?_filename_of_text (sendable : part.Sendable boundary)
    (no_file : part.content.filename? = none) :
    Disposition.parameter? "filename" part.disposition = none := by
  have plain (b : UInt8) (listed : b ∈ Text.encode part.name) := sendable.plain_name listed
  have searched := sendable.afterWord?_name
  rw [← afterWord?_filename, fileParameter, no_file] at searched
  rcases searched with ⟨starts, searched⟩ | ⟨-, back, back_suffix, searched⟩
  · have not_found : Disposition.afterWord? (Text.encode "filename") starts [0x22] = none := by
      cases starts <;> decide +kernel
    simp [Disposition.parameter?, searched, not_found]
  · have no_parameter : ∃ b rest, back ++ [0x22] = b :: rest ∧
        Disposition.isBlankByte b = false ∧ b ≠ 0x3D := by
      cases back with
      | nil => exact ⟨0x22, [], rfl, by decide, by decide⟩
      | cons b rest =>
          obtain ⟨-, -, no_equals, unblank, -⟩ := plain b (back_suffix.subset List.mem_cons_self)
          exact ⟨b, rest ++ [0x22], rfl, (Bool.or_eq_false_iff.mp unblank).1, no_equals⟩
    obtain ⟨b, rest, rest_eq, unblank, no_equals⟩ := no_parameter
    simp [Disposition.parameter?, searched, rest_eq, unblank, no_equals]

theorem Sendable.parameter?_filename_of_file (sendable : part.Sendable boundary)
    {filename : String} (is_file : part.content.filename? = some filename) :
    Disposition.parameter? "filename" part.disposition = some filename := by
  have plain (b : UInt8) (listed : b ∈ Text.encode filename) : b ≠ 0x22 ∧ b ≠ 0x5C :=
    ⟨(sendable.plain_filename_byte is_file listed).1,
      (sendable.plain_filename_byte is_file listed).2.1⟩
  have parameter_eq : 0x22 :: part.fileParameter = [0x22, 0x3B] ++ 0x20 ::
      (Text.encode "filename" ++ 0x3D :: 0x22 :: (Text.encode filename ++ [0x22])) := by
    simp only [fileParameter, is_file, Disposition.write, List.append_assoc]
    rfl
  -- Wherever the search begins anew in the name, it comes to the parameter of the file.
  have passed (starts : Bool) (rest : List UInt8) :
      Disposition.afterWord? (Text.encode "filename") starts ([0x22, 0x3B] ++ 0x20 :: rest) =
        Disposition.afterWord? (Text.encode "filename") true rest := by
    rw [encode_filename]
    exact Disposition.afterWord?_append_of_notMem (by decide) (by decide) rest
  refine Disposition.parameter?_of_afterWord? [] plain ?_
  rcases sendable.afterWord?_name with ⟨starts, searched⟩ | ⟨twice, -⟩
  · rw [afterWord?_filename, searched, parameter_eq, passed,
      Disposition.afterWord?_append (by decide +kernel), if_pos rfl]
  · exact absurd twice (sendable.not_twice_encode (by simp [is_file]))

/-- A part as one of a multipart body. -/
def toBodyPart (part : SentPart) : BodyPart where
  headers := part.headers.map PartHeader.line
  content := part.content.bytes

theorem write_eq (part : SentPart) : lineEnd ++ part.write = part.toBodyPart.write := by
  simp [write, toBodyPart, BodyPart.write, PartHeader.writeAll_eq]

theorem Sendable.wellFormed (sendable : part.Sendable boundary) :
    part.toBodyPart.WellFormed boundary where
  isBlankByte_padding := by simp [toBodyPart]
  headers_ne_nil := by simp [toBodyPart, headers]
  wellFormed_headers := by
    intro line listed
    obtain ⟨header, header_listed, rfl⟩ := List.mem_map.mp listed
    exact (sendable.writable header header_listed).wellFormed_line
  length_headers_le := by
    simp only [toBodyPart, headers]
    cases part.content <;> simp [PartHeader.maxCount]
  length_name_le := by
    simp only [toBodyPart, headers]
    cases part.content <;> simp [PartHeader.line] <;> decide +kernel
  undelimited := sendable.undelimited

/-- The headers of a part say what the part is. -/
theorem Sendable.head_eq (sendable : part.Sendable boundary) :
    PartHead.ofHeaders part.toBodyPart.headerValues = part.head := by
  have filename_eq : Disposition.parameter? "filename" part.disposition =
      part.content.filename? := by
    cases is_file : part.content.filename? with
    | none => exact sendable.parameter?_filename_of_text is_file
    | some filename => exact sendable.parameter?_filename_of_file is_file
  have disposition_key : Text.lower (PartHeader.nameText (Text.encode "Content-Disposition")) =
      "content-disposition" := by decide +kernel
  have type_key : Text.lower (PartHeader.nameText (Text.encode "Content-Type")) =
      "content-type" := by decide +kernel
  have values_eq : part.toBodyPart.headerValues =
      Dict.ofList (part.headers.map fun header =>
        (Text.lower (PartHeader.nameText header.1), header.2)) := by
    rw [BodyPart.headerValues, toBodyPart, List.map_map]
    refine congrArg Dict.ofList (List.map_congr_left ?_)
    intro header listed
    simp only [Function.comp_apply, (sendable.writable header listed).value_line]
    rfl
  rw [values_eq]
  unfold headers head SentContent.mediaType?
  cases content_eq : part.content <;>
    simp [PartHead.ofHeaders, Dict.ofList, Dict.insertAll, disposition_key, type_key,
      sendable.parameter?_name, filename_eq, content_eq]

end SentPart
end WebDispatch
