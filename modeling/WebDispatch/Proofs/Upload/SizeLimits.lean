import WebDispatch.Proofs.Text.Separators
import WebDispatch.Proofs.Upload.ContentTypes

/-!
# The size limits of uploads

The size of a body is checked before any of it is read, and the sizes of its parts while they are
read, each in turn.  So a body that is too large is refused whatever it holds, and no fault that is
found in a body says that the body is too large; of the parts that are too large the first one is
named.
-/

namespace WebDispatch

/-! ## Form data counts as multipart -/

namespace MediaType

theorem prefix_subtypeOf (s : List Char) : parse?.subtypeOf s <+: s := by
  cases s with
  | nil => exact List.prefix_refl _
  | cons first rest => exact (List.prefix_cons_inj first).mpr (Text.prefix_beforeLast '+' rest)

/-- In lower case, a text begins with the type and the subtype that are read from it. -/
theorem prefix_of_parse? {text : String} {mediaType : MediaType}
    (parsed : parse? text = some mediaType) :
    mediaType.main.toList ++ '/' :: mediaType.sub.toList <+: text.toList.map Char.toLower := by
  obtain ⟨main_eq, ⟨rest, slash, sub_eq⟩, -⟩ := parse?_cases parsed
  have text_eq : text.toList = text.toList.takeWhile isTokenChar ++ '/' :: rest := by
    rw [← slash, List.takeWhile_append_dropWhile]
  have sub_begins : parse?.subtypeOf (rest.takeWhile isTokenChar) <+: rest :=
    (prefix_subtypeOf _).trans (List.takeWhile_prefix _)
  rw [main_eq, sub_eq, String.toList_ofList, String.toList_ofList]
  calc (text.toList.takeWhile isTokenChar).map Char.toLower ++
          '/' :: (parse?.subtypeOf (rest.takeWhile isTokenChar)).map Char.toLower
      = (text.toList.takeWhile isTokenChar ++
          '/' :: parse?.subtypeOf (rest.takeWhile isTokenChar)).map Char.toLower := by
        rw [List.map_append, List.map_cons]
        rfl
    _ <+: (text.toList.takeWhile isTokenChar ++ '/' :: rest).map Char.toLower :=
        List.IsPrefix.map Char.toLower
          ((List.prefix_append_right_inj _).mpr ((List.prefix_cons_inj _).mpr sub_begins))
    _ = text.toList.map Char.toLower := by rw [← text_eq]

end MediaType

namespace FormData

/-- The boundary is one of form data. -/
theorem mediaType_of_boundary {contentType boundary : String}
    (bounded : FormData.boundary contentType = .ok boundary) :
    ∃ mediaType, MediaType.parse? contentType = some mediaType ∧ mediaType.main = "multipart" ∧
      mediaType.sub = "form-data" ∧ mediaType.parameter "boundary" = some boundary := by
  unfold FormData.boundary at bounded
  split at bounded
  · contradiction
  · next mediaType parsed =>
      split at bounded
      · next form =>
          split at bounded
          · next value carried =>
              cases bounded
              simp only [Bool.and_eq_true, beq_iff_eq] at form
              exact ⟨mediaType, parsed, form.1, form.2, carried⟩
          · contradiction
      · contradiction

end FormData

/-- Strict or not, a request counts as multipart if its content type has a boundary. -/
theorem UploadConfig.isMultipart_of_boundary (config : UploadConfig) {request : Request}
    {contentType boundary : String} (content_type : request.contentType? = some contentType)
    (bounded : FormData.boundary contentType = .ok boundary) :
    config.isMultipart request = true := by
  obtain ⟨mediaType, parsed, main, form, -⟩ := FormData.mediaType_of_boundary bounded
  have flush : ¬ MediaType.StartsBlank contentType := by
    intro blank
    rw [MediaType.parse?_of_startsBlank blank] at parsed
    contradiction
  have begins := MediaType.prefix_of_parse? parsed
  rw [main, form] at begins
  simp only [isMultipart, content_type, MediaType.trimStart_of_not_startsBlank flush,
    List.isPrefixOf_iff_prefix]
  cases config.strict
  · exact List.IsPrefix.trans (List.isPrefixOf_iff_prefix.mp (by decide +kernel)) begins
  · exact List.IsPrefix.trans (List.isPrefixOf_iff_prefix.mp (by decide +kernel)) begins

/-! ## Faults of bodies that are read

Every reader, from the lines of a head up to the whole body, reports only faults of what it reads.
-/

/-- Whether a fault is about what a body holds, and not that all of it is too large. -/
def FormFault.ofContent : FormFault → Bool
  | bodyTooLarge _ => false
  | _ => true

theorem FormFault.toUploadFault_ne {fault : FormFault} (of_content : fault.ofContent = true)
    (limit : Nat) : fault.toUploadFault ≠ .uploadTooLarge limit := by
  cases fault with
  | bodyTooLarge most => contradiction
  | _ => simp [toUploadFault]

namespace FormData

variable {fault : FormFault}

theorem ofContent_of_lines {room : Nat} {s : List UInt8}
    (failed : PartHeader.lines room s = .error fault) : fault.ofContent = true := by
  fun_induction PartHeader.lines room s with
  | case1 =>
      cases failed
      rfl
  | case2 room s nonempty ended => contradiction
  | case3 s nonempty not_ended name value next room line_eq ih =>
      cases rest_eq : PartHeader.lines room next with
      | error found =>
          rw [rest_eq] at failed
          cases failed
          exact ih rest_eq
      | ok headers =>
          rw [rest_eq] at failed
          contradiction
  | case4 room s nonempty not_ended no_line =>
      cases failed
      rfl

theorem ofContent_of_parse {s : List UInt8} (failed : PartHeader.parse s = .error fault) :
    fault.ofContent = true := by
  unfold PartHeader.parse at failed
  cases lines_eq : PartHeader.lines PartHeader.maxCount s with
  | error found =>
      rw [lines_eq] at failed
      cases failed
      exact ofContent_of_lines lines_eq
  | ok headers =>
      simp only [lines_eq, bind, Except.bind] at failed
      split at failed
      · cases failed
        rfl
      · contradiction

theorem ofContent_of_part {delimiter : List UInt8} {limit : Option Nat} {s : List UInt8}
    (failed : part delimiter limit s = .error fault) : fault.ofContent = true := by
  unfold part at failed
  split at failed
  · cases failed
    rfl
  · next n _ =>
      cases head_eq : PartHeader.parse (s.take (n + 4)) with
      | error found =>
          rw [head_eq] at failed
          cases failed
          exact ofContent_of_parse head_eq
      | ok headers =>
          simp only [head_eq, bind, Except.bind] at failed
          split at failed
          · cases failed
            rfl
          · split at failed
            · split at failed
              · cases failed
                rfl
              · contradiction
            · contradiction

theorem ofContent_of_afterDelimiter {s : List UInt8} (failed : afterDelimiter s = .error fault) :
    fault.ofContent = true := by
  unfold afterDelimiter at failed
  split at failed
  · split at failed
    · contradiction
    · split at failed
      · contradiction
      · cases failed
        rfl
  · cases failed
    rfl

theorem ofContent_of_partsWithin {delimiter : List UInt8} {limit : Option Nat} {fuel : Nat}
    {s : List UInt8} (failed : (partsWithin delimiter limit fuel s).2 = some fault) :
    fault.ofContent = true := by
  fun_induction partsWithin delimiter limit fuel s with
  | case1 =>
      cases failed
      rfl
  | case2 fuel s found after_eq =>
      cases failed
      exact ofContent_of_afterDelimiter after_eq
  | case3 fuel s after_eq => contradiction
  | case4 fuel s rest after_eq found part_eq =>
      cases failed
      exact ofContent_of_part part_eq
  | case5 fuel s rest after_eq first behind part_eq others ended rest_eq ih =>
      exact ih (by rw [rest_eq, failed])

theorem ofContent_of_parts {boundary : String} {limit : Option Nat} {body : List UInt8}
    (failed : (parts boundary limit body).2 = some fault) : fault.ofContent = true := by
  simp only [parts] at failed
  split at failed
  · cases failed
    rfl
  · exact ofContent_of_partsWithin failed

end FormData

/-! ## Limits -/

namespace BodyPart

variable {parts : List BodyPart}

theorem findSome?_fault?_eq_none_iff {limit : Option Nat} :
    parts.findSome? (fault? limit) = none ↔
      ∀ part ∈ parts, ∀ most ∈ limit, part.content.length ≤ most := by
  simp only [List.findSome?_eq_none_iff, fault?_eq_none_iff]

/-- The fault of a list of parts is that of the first part that is too large. -/
theorem findSome?_fault?_of_find? {part : BodyPart} {most : Nat}
    (first : (parts.find? fun part => most < part.content.length) = some part) :
    parts.findSome? (fault? (some most)) =
      some (.partTooLarge part.toFormPart.head.name most) := by
  obtain ⟨large, front, back, rfl, earlier_fit⟩ := List.find?_eq_some_iff_append.mp first
  have front_accepted : front.findSome? (fault? (some most)) = none := by
    rw [findSome?_fault?_eq_none_iff]
    rintro earlier listed _ ⟨⟩
    simpa using earlier_fit earlier listed
  have refused : part.fault? (some most) =
      some (.partTooLarge part.toFormPart.head.name most) := if_pos (of_decide_eq_true large)
  rw [List.findSome?_append, front_accepted, Option.none_or, List.findSome?_cons, refused]

end BodyPart

namespace UploadConfig

variable {config : UploadConfig} {request : Request} {contentType boundary : String}

/-- A body that is too large is refused before anything is stored, whatever it holds. -/
theorem resolve_of_large (content_type : request.contentType? = some contentType)
    (bounded : FormData.boundary contentType = .ok boundary)
    (large : config.maxUpload < (request.body.getD []).length) (storage : Storage) :
    config.resolve request storage =
      (.error (.upload (.uploadTooLarge config.maxUpload)), storage) := by
  simp only [resolve, config.isMultipart_of_boundary content_type bounded, if_true, content_type,
    Option.getD_some, parse, bounded, large]

/-- A body that is not too large is not refused as a whole. -/
theorem resolve_ne_uploadTooLarge (content_type : request.contentType? = some contentType)
    (bounded : FormData.boundary contentType = .ok boundary)
    (fits : (request.body.getD []).length ≤ config.maxUpload) (storage : Storage) (limit : Nat) :
    (config.resolve request storage).1 ≠ .error (.upload (.uploadTooLarge limit)) := by
  simp only [resolve, config.isMultipart_of_boundary content_type bounded, if_true, content_type,
    Option.getD_some, parse, bounded, Nat.not_lt.mpr fits, if_false]
  rcases parts_eq : FormData.parts boundary config.maxPart (request.body.getD []) with
    ⟨parts, _ | fault⟩ <;>
    rcases config.receiveParts parts {} storage with ⟨⟨_ | stopped, received⟩, after⟩
  · simp
  · simp
  · have of_content := FormData.ofContent_of_parts (congrArg Prod.snd parts_eq)
    simpa using FormFault.toUploadFault_ne of_content limit
  · simp

/-- The parts before a fault are stored, and then the fault is reported. -/
theorem resolve_of_fault (content_type : request.contentType? = some contentType)
    (bounded : FormData.boundary contentType = .ok boundary) {body : List UInt8}
    (body_eq : request.body = some body) (fits : body.length ≤ config.maxUpload)
    {parts : List FormPart} {fault : FormFault}
    (parts_eq : FormData.parts boundary config.maxPart body = (parts, some fault))
    {storage : Storage} (working : storage.Working) :
    ∃ after, config.resolve request storage = (.error fault.toFailure, after) := by
  obtain ⟨received, after, receive_eq, -⟩ :=
    config.receiveParts_delivers working (.nil storage) parts
  refine ⟨after.delete received.storedFiles, ?_⟩
  simp only [resolve, config.isMultipart_of_boundary content_type bounded, if_true, content_type,
    body_eq, Option.getD_some, parse, bounded, Nat.not_lt.mpr fits, if_false, parts_eq, receive_eq,
    FormFault.toFailure]

/-- The limits of a request with form data.  It is refused for the size of its body exactly if the
body has more bytes than allowed, and then nothing is stored.  Otherwise a well-formed body is
resolved exactly if none of its parts has more bytes than allowed, and the fault names the first
part that has. -/
theorem resolve_limited (config : UploadConfig) {request : Request} {contentType boundary : String}
    (content_type : request.contentType? = some contentType)
    (bounded : FormData.boundary contentType = .ok boundary) (storage : Storage) :
    ((∃ limit after, config.resolve request storage =
        (.error (.upload (.uploadTooLarge limit)), after)) ↔
      config.maxUpload < (request.body.getD []).length) ∧
    (config.maxUpload < (request.body.getD []).length →
      config.resolve request storage =
        (.error (.upload (.uploadTooLarge config.maxUpload)), storage)) ∧
    ∀ body : MultipartBody, body.WellFormed boundary →
      request.body = some (body.write boundary) →
      (body.write boundary).length ≤ config.maxUpload → storage.Working →
      ((∃ resolved after, config.resolve request storage = (.ok resolved, after)) ↔
        ∀ part ∈ body.parts, ∀ most ∈ config.maxPart, part.content.length ≤ most) ∧
      ∀ most ∈ config.maxPart, ∀ part,
        (body.parts.find? fun part => most < part.content.length) = some part →
        ∃ after, config.resolve request storage =
          (.error (.upload (.partTooLarge part.toFormPart.name most)), after) := by
  refine ⟨⟨?_, ?_⟩, fun large => resolve_of_large content_type bounded large storage, ?_⟩
  · rintro ⟨limit, after, resolve_eq⟩
    by_contra fits
    exact resolve_ne_uploadTooLarge content_type bounded (Nat.not_lt.mp fits) storage limit
      (congrArg Prod.fst resolve_eq)
  · intro large
    exact ⟨_, _, resolve_of_large content_type bounded large storage⟩
  · intro body wellFormed written fits working
    obtain ⟨mediaType, parsed, -, -, carried⟩ := FormData.mediaType_of_boundary bounded
    have unbroken := MultipartBody.unbroken_of_printable
      (MediaType.printable_of_parameter parsed carried)
    have parts_eq := MultipartBody.parts_write_limited unbroken wellFormed config.maxPart
    have claimed := config.isMultipart_of_boundary content_type bounded
    rw [← BodyPart.findSome?_fault?_eq_none_iff]
    constructor
    · cases refused : body.parts.findSome? (BodyPart.fault? config.maxPart) with
      | none =>
          rw [refused] at parts_eq
          obtain ⟨resolved, after, resolve_eq, -⟩ :=
            config.resolve_of_parts claimed content_type bounded written fits parts_eq working
          exact iff_of_true ⟨_, after, resolve_eq⟩ rfl
      | some fault =>
          rw [refused] at parts_eq
          obtain ⟨after, resolve_eq⟩ :=
            resolve_of_fault content_type bounded written fits parts_eq working
          simp [resolve_eq]
    · intro most limited part first
      have refused := BodyPart.findSome?_fault?_of_find? first
      rw [Option.mem_def.mp limited, refused] at parts_eq
      rw [← Option.mem_def.mp limited] at parts_eq
      exact resolve_of_fault content_type bounded written fits parts_eq working

/-- A body with a text and a file of two bytes. -/
def twoParts : MultipartBody where
  parts := [
    { headers := [⟨Text.encode "Content-Disposition", Text.encode "form-data; name=\"a\""⟩]
      content := [0x78] },
    { headers := [⟨Text.encode "Content-Disposition",
        Text.encode "form-data; name=\"b\"; filename=\"c\""⟩]
      content := [0x79, 0x7A] }]

/-- If parts may have one byte, the file is too large, and it is the first part that is. -/
theorem resolve_limited_twoParts :
    ∃ after, (UploadConfig.mk 1024 (some 1) 0 none true).resolve
        (multipartRequest quotedType "a b" twoParts) {} =
      (.error (.upload (.partTooLarge "b" 1)), after) := by
  have content_type : (multipartRequest quotedType "a b" twoParts).contentType? =
      some quotedType := by
    decide +kernel
  have parsed : MediaType.parse? quotedType = some quotedMediaType := by decide +kernel
  have carried : quotedMediaType.parameter "boundary" = some "a b" := by decide +kernel
  have bounded := FormData.boundary_of_form parsed rfl rfl carried
  have wellFormed : twoParts.WellFormed "a b" := by decide +kernel
  obtain ⟨-, -, limits⟩ := resolve_limited (UploadConfig.mk 1024 (some 1) 0 none true)
    content_type bounded {}
  obtain ⟨-, names⟩ := limits twoParts wellFormed rfl (by decide +kernel) ⟨rfl, by simp⟩
  obtain ⟨after, resolve_eq⟩ := names 1 rfl _ rfl
  have name_eq : (twoParts.parts[1].toFormPart).name = "b" := by decide +kernel
  rw [← name_eq]
  exact ⟨after, resolve_eq⟩

end UploadConfig
end WebDispatch
