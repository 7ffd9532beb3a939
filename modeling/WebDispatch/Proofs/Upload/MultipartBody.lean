import Mathlib.Data.List.TakeWhile
import WebDispatch.Proofs.Text.Utf8RoundTrip
import WebDispatch.Proofs.Upload.Search

/-!
# Multipart bodies

The form of a multipart body: parts between lines with the delimiter, each with headers, an empty
line and a content, and anything before the first and behind the last delimiter.  A body of that
form is read as its parts, in their order: `MultipartBody.parts_write`, and up to the first one that
is too large: `MultipartBody.parts_write_limited`.  A line is read at a time by
`HeaderLine.line?_write`, a part by `BodyPart.part_write`, and the run over the parts follows.
-/

namespace WebDispatch

open FormData (lineEnd delimiter indexOf?)
open PartHeader (isNameByte isValueByte isBlankByte afterLineEnd? line? lines)

/-! ## Lines with headers -/

/-- A line with a header. -/
structure HeaderLine where
  /-- The name. -/
  name : List UInt8
  /-- All between the colon and the end of the line. -/
  text : List UInt8

namespace HeaderLine

/-- The value is the text without the blanks around it. -/
def value (line : HeaderLine) : List UInt8 :=
  ((line.text.dropWhile isBlankByte).reverse.dropWhile isBlankByte).reverse

/-- The line with its end. -/
def write (line : HeaderLine) : List UInt8 := line.name ++ 0x3A :: (line.text ++ lineEnd)

/-- Lines up to an empty one. -/
def writeAll (lines : List HeaderLine) : List UInt8 := lines.flatMap write ++ lineEnd

/-- A name is a token and a text has no control characters other than tabs. -/
structure WellFormed (line : HeaderLine) : Prop where
  name_ne_nil : line.name ≠ []
  isNameByte_name : ∀ b ∈ line.name, isNameByte b = true
  isValueByte_text : ∀ b ∈ line.text, isValueByte b = true

theorem wellFormed_iff {line : HeaderLine} :
    line.WellFormed ↔
      line.name ≠ [] ∧ line.name.all isNameByte = true ∧ line.text.all isValueByte = true := by
  simp only [List.all_eq_true]
  exact ⟨fun ⟨name, token, text⟩ => ⟨name, token, text⟩,
    fun ⟨name, token, text⟩ => ⟨name, token, text⟩⟩

instance (line : HeaderLine) : Decidable line.WellFormed := decidable_of_iff' _ wellFormed_iff

variable {line : HeaderLine} {lines : List HeaderLine}

theorem writeAll_cons (line : HeaderLine) (lines : List HeaderLine) :
    writeAll (line :: lines) = line.write ++ writeAll lines := by
  simp [writeAll]

/-- A line is read up to its end. -/
theorem line?_write (wellFormed : line.WellFormed) (next : List UInt8) :
    line? (line.write ++ next) = some (line.name, line.value, next) := by
  have colon : isNameByte 0x3A = false := by decide
  have line_end : isValueByte 0x0D = false := by decide
  have not_blank : isBlankByte 0x0D = false := by decide
  have written_eq : line.write ++ next =
      line.name ++ 0x3A :: (line.text ++ 0x0D :: 0x0A :: next) := by
    simp [write, lineEnd]
  have starts : (line.text ++ 0x0D :: 0x0A :: next).dropWhile isBlankByte =
      line.text.dropWhile isBlankByte ++ 0x0D :: 0x0A :: next := by
    rw [List.dropWhile_append]
    split
    · next all_blank =>
        rw [List.isEmpty_iff.mp all_blank, List.dropWhile_cons_of_neg (by simp [not_blank])]
        rfl
    · rfl
  have inside : ∀ b ∈ line.text.dropWhile isBlankByte, isValueByte b = true := fun b listed =>
    wellFormed.isValueByte_text b ((List.dropWhile_sublist _).mem listed)
  rw [written_eq, PartHeader.line?, List.takeWhile_append_of_pos wellFormed.isNameByte_name,
    List.dropWhile_append_of_pos wellFormed.isNameByte_name]
  simp only [List.takeWhile_cons, List.dropWhile_cons, colon, Bool.false_eq_true, if_false,
    List.append_nil, List.isEmpty_iff, wellFormed.name_ne_nil, starts,
    List.takeWhile_append_of_pos inside, List.dropWhile_append_of_pos inside, line_end]
  rfl

theorem exists_write_eq_cons (wellFormed : line.WellFormed) :
    ∃ b rest, line.write = b :: rest ∧ isNameByte b = true := by
  obtain ⟨b, name, name_eq⟩ := List.exists_cons_of_ne_nil wellFormed.name_ne_nil
  exact ⟨b, name ++ 0x3A :: (line.text ++ lineEnd), by simp [write, name_eq],
    wellFormed.isNameByte_name b (by simp [name_eq])⟩

/-- A line with a header is no empty line. -/
theorem afterLineEnd?_write (wellFormed : line.WellFormed) (next : List UInt8) :
    afterLineEnd? (line.write ++ next) = none := by
  obtain ⟨b, rest, write_eq, name_byte⟩ := exists_write_eq_cons wellFormed
  rw [write_eq, List.cons_append]
  generalize rest ++ next = rest
  unfold PartHeader.afterLineEnd?
  split
  · next same =>
      rw [(List.cons.inj same).1] at name_byte
      contradiction
  · next same =>
      rw [(List.cons.inj same).1] at name_byte
      contradiction
  · rfl

theorem lines_writeAll (wellFormed : ∀ line ∈ lines, line.WellFormed) {room : Nat}
    (fits : lines.length ≤ room) :
    PartHeader.lines room (writeAll lines) = .ok (lines.map fun line => (line.name, line.value)) := by
  induction lines generalizing room with
  | nil => cases room <;> rfl
  | cons line rest ih =>
      obtain ⟨first, others⟩ := List.forall_mem_cons.mp wellFormed
      obtain ⟨room, rfl⟩ : ∃ more, room = more + 1 := ⟨room - 1, by simp at fits; omega⟩
      have rest_eq := ih others (Nat.le_of_succ_le_succ fits)
      have not_end := afterLineEnd?_write first (writeAll rest)
      have line_eq := line?_write first (writeAll rest)
      rw [writeAll_cons]
      unfold PartHeader.lines
      split
      · next no_line =>
          rw [no_line] at line_eq
          contradiction
      · simp [not_end, line_eq, rest_eq, Except.map]

theorem notMem_line (wellFormed : line.WellFormed) :
    (0x0D : UInt8) ∉ line.name ++ 0x3A :: line.text := by
  have outside_name : (0x0D : UInt8) ∉ line.name := fun listed => by
    simpa using (wellFormed.isNameByte_name _ listed).symm.trans (by decide : _ = false)
  have outside_text : (0x0D : UInt8) ∉ line.text := fun listed => by
    simpa using (wellFormed.isValueByte_text _ listed).symm.trans (by decide : _ = false)
  simp [outside_name, outside_text]

/-- The end of headers is the first empty line. -/
theorem indexOf?_writeAll (wellFormed : ∀ line ∈ lines, line.WellFormed) (nonempty : lines ≠ [])
    (back : List UInt8) :
    ∃ n, n + 4 = (writeAll lines).length ∧
      indexOf? (lineEnd ++ lineEnd) (writeAll lines ++ back) = some n := by
  induction lines with
  | nil => contradiction
  | cons line rest ih =>
      obtain ⟨first, others⟩ := List.forall_mem_cons.mp wellFormed
      have write_eq : line.write = (line.name ++ 0x3A :: line.text) ++ lineEnd := by
        simp [write]
      have passed (s : List UInt8) : indexOf? (lineEnd ++ lineEnd) (line.write ++ s) =
          (indexOf? (lineEnd ++ lineEnd) (lineEnd ++ s)).map
            ((line.name ++ 0x3A :: line.text).length + ·) := by
        rw [write_eq, List.append_assoc _ lineEnd]
        exact FormData.indexOf?_append_of_notMem (notMem_line first) _
      have write_length : line.write.length = (line.name ++ 0x3A :: line.text).length + 2 := by
        rw [write_eq, List.length_append]
        rfl
      rw [writeAll_cons, List.append_assoc, passed, List.length_append, write_length]
      rcases rest with _ | ⟨next, rest⟩
      · refine ⟨_, rfl, ?_⟩
        have found := FormData.indexOf?_of_prefix
          (List.prefix_append (lineEnd ++ lineEnd) back)
        rw [List.append_assoc] at found
        rw [show writeAll [] = lineEnd from rfl, found]
        rfl
      · obtain ⟨n, length_eq, found⟩ := ih others (List.cons_ne_nil _ _)
        -- The next header begins with no line end, so the one in front of it ends no headers.
        obtain ⟨b, more, next_eq, name_byte⟩ :=
          exists_write_eq_cons (others next List.mem_cons_self)
        obtain ⟨tail, block_eq⟩ : ∃ tail, writeAll (next :: rest) ++ back = b :: tail :=
          ⟨more ++ (writeAll rest ++ back), by
            rw [writeAll_cons, next_eq, List.append_assoc, List.cons_append]⟩
        have not_return : b ≠ 0x0D := by
          rintro rfl
          contradiction
        have not_first : ¬ lineEnd ++ lineEnd <+: 0x0D :: 0x0A :: b :: tail := by
          simp [lineEnd, not_return.symm]
        have not_second : ¬ lineEnd ++ lineEnd <+: 0x0A :: b :: tail := by
          simp [lineEnd]
        rw [block_eq] at found ⊢
        refine ⟨(line.name ++ 0x3A :: line.text).length + (n + 2), by omega, ?_⟩
        change (indexOf? _ (0x0D :: 0x0A :: b :: _)).map _ = _
        rw [FormData.indexOf?_cons not_first, FormData.indexOf?_cons not_second, found]
        rfl

end HeaderLine

/-! ## Parts -/

/-- A part of a multipart body. -/
structure BodyPart where
  /-- The blanks behind the delimiter in front of the part. -/
  padding : List UInt8 := []
  /-- The lines with its headers. -/
  headers : List HeaderLine
  /-- The content. -/
  content : List UInt8

namespace BodyPart

/-- What is between the delimiter in front of a part and the one behind it. -/
def write (part : BodyPart) : List UInt8 :=
  part.padding ++ (lineEnd ++ (HeaderLine.writeAll part.headers ++ (part.content ++ lineEnd)))

/-- The headers by name in lower case; of two equal names the later counts. -/
def headerValues (part : BodyPart) : Dict (List UInt8) :=
  Dict.ofList (part.headers.map fun line =>
    (Text.lower (PartHeader.nameText line.name), line.value))

/-- The part that is read. -/
def toFormPart (part : BodyPart) : FormPart where
  head := PartHead.ofHeaders part.headerValues
  pieces := [part.content]

/-- A part has headers that are not too many and not too long, and its content does not hold the
delimiter at the start of a line. -/
structure WellFormed (boundary : String) (part : BodyPart) : Prop where
  isBlankByte_padding : ∀ b ∈ part.padding, isBlankByte b = true
  headers_ne_nil : part.headers ≠ []
  wellFormed_headers : ∀ line ∈ part.headers, line.WellFormed
  length_headers_le : part.headers.length ≤ PartHeader.maxCount
  length_name_le : ∀ line ∈ part.headers, line.name.length ≤ PartHeader.maxNameLength
  undelimited : ¬ lineEnd ++ delimiter boundary <:+: part.content

theorem wellFormed_iff {boundary : String} {part : BodyPart} :
    part.WellFormed boundary ↔
      part.padding.all isBlankByte = true ∧ part.headers ≠ [] ∧
        (part.headers.all fun line => line.WellFormed) = true ∧
        part.headers.length ≤ PartHeader.maxCount ∧
        (part.headers.all fun line => line.name.length ≤ PartHeader.maxNameLength) = true ∧
        ¬ lineEnd ++ delimiter boundary <:+: part.content := by
  simp only [List.all_eq_true, decide_eq_true_eq]
  exact ⟨fun ⟨padding, nonempty, headers, count, names, content⟩ =>
      ⟨padding, nonempty, headers, count, names, content⟩,
    fun ⟨padding, nonempty, headers, count, names, content⟩ =>
      ⟨padding, nonempty, headers, count, names, content⟩⟩

instance (boundary : String) (part : BodyPart) : Decidable (part.WellFormed boundary) :=
  decidable_of_iff' _ wellFormed_iff

variable {boundary : String} {part : BodyPart}

/-- The headers of a part are read by their names. -/
theorem parse_writeAll (wellFormed : part.WellFormed boundary) :
    PartHeader.parse (HeaderLine.writeAll part.headers) = .ok part.headerValues := by
  have short : (part.headers.map fun line => (line.name, line.value)).find?
      (fun header => decide (PartHeader.maxNameLength < header.1.length)) = none := by
    rw [List.find?_eq_none]
    intro header listed
    obtain ⟨line, line_listed, rfl⟩ := List.mem_map.mp listed
    simpa using wellFormed.length_name_le line line_listed
  rw [PartHeader.parse,
    HeaderLine.lines_writeAll wellFormed.wellFormed_headers wellFormed.length_headers_le]
  simp only [bind, Except.bind, short, pure, Except.pure, List.map_map]
  rfl

/-- The line of a delimiter in front of a part is read up to its end. -/
theorem afterDelimiter_write (wellFormed : part.WellFormed boundary) (back : List UInt8) :
    FormData.afterDelimiter (part.padding ++ (lineEnd ++ back)) = .ok (some back) := by
  have line_end : isBlankByte 0x0D = false := by decide
  have dropped : (part.padding ++ (lineEnd ++ back)).dropWhile isBlankByte =
      0x0D :: 0x0A :: back := by
    rw [List.dropWhile_append_of_pos wellFormed.isBlankByte_padding]
    exact List.dropWhile_cons_of_neg (by simp [line_end])
  obtain ⟨a, b, rest, start_eq, not_hyphen⟩ : ∃ a b rest,
      part.padding ++ (lineEnd ++ back) = a :: b :: rest ∧ a ≠ 0x2D := by
    have blank := wellFormed.isBlankByte_padding
    rcases padding_eq : part.padding with _ | ⟨a, _ | ⟨b, rest⟩⟩
    · exact ⟨0x0D, 0x0A, back, rfl, by decide⟩
    · refine ⟨a, 0x0D, 0x0A :: back, rfl, ?_⟩
      rintro rfl
      exact absurd (blank 0x2D (by simp [padding_eq])) (by decide)
    · refine ⟨a, b, rest ++ (lineEnd ++ back), rfl, ?_⟩
      rintro rfl
      exact absurd (blank 0x2D (by simp [padding_eq])) (by decide)
  rw [start_eq] at dropped ⊢
  simp only [FormData.afterDelimiter, not_hyphen, false_and, if_false, dropped]

/-- The fault that a part is refused with, if its content may have `limit` bytes. -/
def fault? (limit : Option Nat) (part : BodyPart) : Option FormFault :=
  limit.bind fun most =>
    if most < part.content.length then some (.partTooLarge part.toFormPart.head.name most) else none

theorem fault?_eq_none_iff {limit : Option Nat} :
    part.fault? limit = none ↔ ∀ most ∈ limit, part.content.length ≤ most := by
  cases limit with
  | none => simp [fault?]
  | some most => simp [fault?]

/-- A part is read up to the delimiter behind it, or refused for its size. -/
theorem part_write (unbroken : (0x0D : UInt8) ∉ delimiter boundary)
    (wellFormed : part.WellFormed boundary) (limit : Option Nat) (back : List UInt8) :
    FormData.part (delimiter boundary) limit (HeaderLine.writeAll part.headers ++
      (part.content ++ (lineEnd ++ (delimiter boundary ++ back)))) =
        match part.fault? limit with
        | some fault => .error fault
        | none => .ok (part.toFormPart, back) := by
  have once : (0x0D : UInt8) ∉ 0x0A :: delimiter boundary := by
    simp [unbroken]
  rw [← List.append_assoc lineEnd]
  obtain ⟨n, length_eq, headers_end⟩ := HeaderLine.indexOf?_writeAll wellFormed.wellFormed_headers
    wellFormed.headers_ne_nil (part.content ++ (lineEnd ++ delimiter boundary ++ back))
  have content_end : indexOf? (lineEnd ++ delimiter boundary)
      (part.content ++ (lineEnd ++ delimiter boundary ++ back)) = some part.content.length :=
    FormData.indexOf?_append_self once wellFormed.undelimited back
  have behind_eq : (part.content ++ (lineEnd ++ delimiter boundary ++ back)).drop
      (part.content.length + 2 + (delimiter boundary).length) = back := by
    rw [← List.append_assoc]
    refine List.drop_left' ?_
    simp only [List.length_append, lineEnd, List.length_cons, List.length_nil]
    omega
  rw [FormData.part, headers_end]
  simp only [length_eq, List.take_left, List.drop_left, parse_writeAll wellFormed, bind,
    Except.bind, content_end, behind_eq]
  cases limit with
  | none => rfl
  | some most =>
      by_cases large : most < part.content.length
      · simp only [large, if_true, fault?, Option.bind_some]
        rfl
      · simp only [large, if_false, fault?, Option.bind_some]
        rfl

end BodyPart

/-! ## Bodies -/

/-- A multipart body. -/
structure MultipartBody where
  /-- The lines before the first delimiter. -/
  preamble : List UInt8 := []
  /-- The parts in order. -/
  parts : List BodyPart
  /-- What is behind the last delimiter. -/
  epilogue : List UInt8 := lineEnd

namespace MultipartBody

/-- The parts, each with the delimiter behind it, and the end. -/
def writeParts (boundary : String) (epilogue : List UInt8) : List BodyPart → List UInt8
  | [] => 0x2D :: 0x2D :: epilogue
  | part :: rest => part.write ++ (delimiter boundary ++ writeParts boundary epilogue rest)

/-- The body with a boundary. -/
def write (boundary : String) (body : MultipartBody) : List UInt8 :=
  body.preamble ++ (delimiter boundary ++ writeParts boundary body.epilogue body.parts)

/-- The preamble is made of whole lines without the delimiter, and the parts are well formed. -/
structure WellFormed (boundary : String) (body : MultipartBody) : Prop where
  preamble_ends : body.preamble = [] ∨ lineEnd <:+ body.preamble
  undelimited : ¬ delimiter boundary <:+: body.preamble
  wellFormed_parts : ∀ part ∈ body.parts, part.WellFormed boundary

theorem wellFormed_iff {boundary : String} {body : MultipartBody} :
    body.WellFormed boundary ↔
      (body.preamble = [] ∨ lineEnd <:+ body.preamble) ∧
        ¬ delimiter boundary <:+: body.preamble ∧
        (body.parts.all fun part => part.WellFormed boundary) = true := by
  simp only [List.all_eq_true, decide_eq_true_eq]
  exact ⟨fun ⟨ends, outside, parts⟩ => ⟨ends, outside, parts⟩,
    fun ⟨ends, outside, parts⟩ => ⟨ends, outside, parts⟩⟩

instance (boundary : String) (body : MultipartBody) : Decidable (body.WellFormed boundary) :=
  decidable_of_iff' _ wellFormed_iff

/-- A boundary that ends no line. -/
def Unbroken (boundary : String) : Prop :=
  (0x0D : UInt8) ∉ delimiter boundary ∧ (0x0A : UInt8) ∉ delimiter boundary

variable {boundary : String}

/-- A boundary without control characters of ASCII ends no line. -/
theorem unbroken_of_printable (printable : ∀ c ∈ boundary.toList, 31 < c.toNat) :
    Unbroken boundary := by
  have outside {b : UInt8} (control : b.toNat ≤ 31) : b ∉ Text.encode boundary := by
    intro listed
    obtain ⟨c, inside, same | ⟨-, above⟩⟩ := Text.of_mem_encode listed
    · have := printable c inside
      omega
    · omega
  constructor
  · simp [delimiter, outside]
  · simp [delimiter, outside]

/-- The parts behind a delimiter are read in their order, up to the first one that is refused. -/
theorem partsWithin_writeParts (unbroken : Unbroken boundary) (epilogue : List UInt8)
    {parts : List BodyPart} (wellFormed : ∀ part ∈ parts, part.WellFormed boundary)
    (limit : Option Nat) {fuel : Nat} (enough : parts.length < fuel) :
    FormData.partsWithin (delimiter boundary) limit fuel (writeParts boundary epilogue parts) =
      ((parts.takeWhile fun part => (part.fault? limit).isNone).map BodyPart.toFormPart,
        parts.findSome? (BodyPart.fault? limit)) := by
  induction parts generalizing fuel with
  | nil =>
      obtain ⟨fuel, rfl⟩ : ∃ less, fuel = less + 1 := ⟨fuel - 1, by simp at enough; omega⟩
      rfl
  | cons part rest ih =>
      obtain ⟨fuel, rfl⟩ : ∃ less, fuel = less + 1 := ⟨fuel - 1, by simp at enough; omega⟩
      obtain ⟨first, others⟩ := List.forall_mem_cons.mp wellFormed
      have rest_eq := ih others (Nat.lt_of_succ_lt_succ enough)
      have written_eq : writeParts boundary epilogue (part :: rest) =
          part.padding ++ (lineEnd ++ (HeaderLine.writeAll part.headers ++
            (part.content ++
              (lineEnd ++ (delimiter boundary ++ writeParts boundary epilogue rest))))) := by
        simp [writeParts, BodyPart.write]
      rw [written_eq, FormData.partsWithin, BodyPart.afterDelimiter_write first]
      simp only [BodyPart.part_write unbroken.1 first]
      cases refused : part.fault? limit with
      | some fault => simp [refused]
      | none => simp [refused, rest_eq]

theorem length_le_length_writeParts (boundary : String) (epilogue : List UInt8)
    (parts : List BodyPart) : parts.length ≤ (writeParts boundary epilogue parts).length := by
  induction parts with
  | nil => exact Nat.zero_le _
  | cons part rest ih =>
      simp only [writeParts, BodyPart.write, List.length_append, List.length_cons, lineEnd,
        List.length_nil]
      omega

/-- The first delimiter is the one behind the preamble. -/
theorem indexOf?_write (unbroken : Unbroken boundary) {body : MultipartBody}
    (wellFormed : body.WellFormed boundary) :
    indexOf? (delimiter boundary) (body.write boundary) = some body.preamble.length := by
  have here := FormData.indexOf?_of_prefix (List.prefix_append (delimiter boundary)
    (writeParts boundary body.epilogue body.parts))
  rcases wellFormed.preamble_ends with empty | ⟨text, ended⟩
  · rw [write, empty]
    exact here
  · have lines_eq : body.preamble = (text ++ [0x0D]) ++ [0x0A] := by simp [← ended, lineEnd]
    have outside := wellFormed.undelimited
    rw [lines_eq] at outside
    have text_outside : ¬ delimiter boundary <:+: text ++ [0x0D] := fun inside =>
      outside (inside.trans (List.prefix_append _ _).isInfix)
    rw [write, lines_eq, List.append_assoc, List.singleton_append,
      FormData.indexOf?_append_cons unbroken.2 (List.cons_ne_nil _ _) text_outside, here]
    simp

/-- A body is read as its parts, up to the first one that is refused. -/
theorem parts_write_limited (unbroken : Unbroken boundary) {body : MultipartBody}
    (wellFormed : body.WellFormed boundary) (limit : Option Nat) :
    FormData.parts boundary limit (body.write boundary) =
      ((body.parts.takeWhile fun part => (part.fault? limit).isNone).map BodyPart.toFormPart,
        body.parts.findSome? (BodyPart.fault? limit)) := by
  have enough : body.parts.length < (body.write boundary).length + 1 := by
    have := length_le_length_writeParts boundary body.epilogue body.parts
    simp only [write, List.length_append]
    omega
  have behind_eq : (body.write boundary).drop
      (body.preamble.length + (delimiter boundary).length) =
        writeParts boundary body.epilogue body.parts := by
    rw [write, ← List.append_assoc]
    exact List.drop_left' (List.length_append)
  simp only [FormData.parts, indexOf?_write unbroken wellFormed, behind_eq]
  exact partsWithin_writeParts unbroken body.epilogue wellFormed.wellFormed_parts limit enough

/-- A body whose parts are within the limit is read as its parts. -/
theorem parts_write (unbroken : Unbroken boundary) {body : MultipartBody}
    (wellFormed : body.WellFormed boundary) {limit : Option Nat}
    (fits : ∀ part ∈ body.parts, ∀ most ∈ limit, part.content.length ≤ most) :
    FormData.parts boundary limit (body.write boundary) =
      (body.parts.map BodyPart.toFormPart, none) := by
  have accepted : ∀ part ∈ body.parts, part.fault? limit = none := fun part listed =>
    BodyPart.fault?_eq_none_iff.mpr (fits part listed)
  have all_taken : body.parts.takeWhile (fun part => (part.fault? limit).isNone) = body.parts :=
    List.takeWhile_eq_self_iff.mpr fun part listed => by simp [accepted part listed]
  rw [parts_write_limited unbroken wellFormed, all_taken, List.findSome?_eq_none_iff.mpr accepted]

end MultipartBody
end WebDispatch
