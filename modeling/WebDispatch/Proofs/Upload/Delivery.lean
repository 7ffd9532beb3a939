import Mathlib.Data.List.Forall2
import WebDispatch.Proofs.Upload.FormRoundTrip
import WebDispatch.Proofs.Upload.Spilling

/-!
# The delivery of a form

What a sender writes into a form is what the handler of the request gets: the files and texts of
each name, in their order and with nothing else among them.  A file that is stored keeps those
readable that were stored before it, and so does every further part: `UploadedFile.store_pieces` is
the step and `UploadConfig.receiveParts_delivers` the run.
-/

namespace WebDispatch

/-! ## Storing -/

namespace UploadedFile

/-- A file is what a sender wrote: it has the names and the size, and the bytes are read back. -/
structure Holds (storage : Storage) (name : String) (sent : String × List UInt8)
    (file : UploadedFile) : Prop where
  name_eq : file.name = name
  filename_eq : file.filename = some sent.1
  size_eq : file.size = sent.2.length
  read_eq : file.read storage = .ok sent.2

/-- A file is the same in a storage that keeps what is read. -/
theorem Holds.mono {before after : Storage} (kept : before.KeptIn after) {name : String}
    {sent : String × List UInt8} {file : UploadedFile} (holds : file.Holds before name sent) :
    file.Holds after name sent := by
  refine { holds with read_eq := ?_ }
  have read_eq := holds.read_eq
  unfold read at read_eq ⊢
  cases content_eq : file.content with
  | memory bytes => simpa [content_eq] using read_eq
  | stored number =>
      simp only [content_eq] at read_eq ⊢
      cases found : before.read? number with
      | none => simp [found] at read_eq
      | some bytes =>
          rw [found] at read_eq
          rw [kept number bytes found]
          exact read_eq

/-- A content is stored whole, in memory or in a file that is made for it. -/
theorem store_pieces (threshold : Nat) (name filename : String) (contentType : Option String)
    (pieces : List (List UInt8)) {storage : Storage} (working : storage.Working) :
    ∃ file after, store threshold name (some filename) contentType pieces storage =
        (.ok file, after) ∧
      after.Working ∧ storage.KeptIn after ∧ file.Holds after name (filename, pieces.flatten) :=
  ⟨_, _, store_eq_placed threshold name (some filename) contentType pieces working,
    working_placed working threshold pieces.flatten, keptIn_placed threshold pieces.flatten storage,
    rfl, rfl, rfl, (receivedWhole_placed working rfl rfl).read_eq⟩

end UploadedFile

/-! ## Receiving what was sent -/

/-- What a part delivers: a file if it has the name of one, and a text otherwise. -/
def FormPart.delivers (part : FormPart) : SentPart where
  name := part.name
  content :=
    match part.head.filename with
    | none => .text part.text
    | some filename => .file filename part.content

namespace SentPart

/-- A part that was written delivers what was sent. -/
theorem delivers_toFormPart {part : SentPart} (unmarked : ∀ value, part.content = .text value →
    value.toList.head? ≠ some '\uFEFF') : part.toFormPart.delivers = part := by
  obtain ⟨name, content⟩ := part
  cases content with
  | text value =>
      have text_eq : (SentPart.toFormPart ⟨name, .text value⟩).text = value := by
        have decoded := Charset.decode_encode (unmarked value rfl)
        simpa [FormPart.text, FormPart.content, SentPart.toFormPart, SentPart.head,
          SentContent.mediaType?, SentContent.bytes] using decoded
      have delivers_eq : (SentPart.toFormPart ⟨name, .text value⟩).delivers =
          ⟨name, .text (SentPart.toFormPart ⟨name, .text value⟩).text⟩ := rfl
      rw [delivers_eq, text_eq]
  | file filename bytes =>
      simp [FormPart.delivers, FormPart.name, FormPart.content, toFormPart, head,
        SentContent.filename?, SentContent.bytes]

/-- The files of a name, with their contents. -/
def filesOf (sent : List SentPart) (name : String) : List (String × List UInt8) :=
  sent.filterMap fun part =>
    match part.content with
    | .file filename bytes => if part.name = name then some (filename, bytes) else none
    | .text _ => none

/-- The texts of a name. -/
def textsOf (sent : List SentPart) (name : String) : List String :=
  sent.filterMap fun part =>
    match part.content with
    | .file _ _ => none
    | .text value => if part.name = name then some value else none

end SentPart

/-- What was received is what was sent, in a storage in which it is read. -/
structure Delivered (sent : List SentPart) (received : ReceivedParts) (storage : Storage) : Prop
    where
  /-- The files of each name are those that were sent, in their order. -/
  files : ∀ name, List.Forall₂ (fun sent file => UploadedFile.Holds storage name sent file)
    (SentPart.filesOf sent name) ((received.files.get? name).getD [])
  /-- The texts of each name are those that were sent, in their order. -/
  fields : ∀ name, (received.fields.get? name).getD [] = SentPart.textsOf sent name
  /-- There are no other names of files. -/
  mem_files : ∀ name, name ∈ received.files.keys ↔
    ∃ filename bytes, ⟨name, .file filename bytes⟩ ∈ sent
  /-- There are no other names of texts. -/
  mem_fields : ∀ name, name ∈ received.fields.keys ↔ ∃ value, ⟨name, .text value⟩ ∈ sent

namespace Delivered

theorem nil (storage : Storage) : Delivered [] {} storage where
  files _ := .nil
  fields _ := rfl
  mem_files _ := by simp [Dict.keys, Dict.empty]
  mem_fields _ := by simp [Dict.keys, Dict.empty]

variable {sent : List SentPart} {received : ReceivedParts} {storage after : Storage}
  {name : String}

/-- What was received is the same in a storage that keeps what is read. -/
theorem mono (delivered : Delivered sent received storage) (kept : storage.KeptIn after) :
    Delivered sent received after :=
  { delivered with files := fun name => (delivered.files name).imp fun _ _ holds => holds.mono kept }

/-- A text that is received behind the others. -/
theorem push_text (delivered : Delivered sent received storage) (name value : String) :
    Delivered (sent ++ [⟨name, .text value⟩])
      { received with fields := received.fields.push name value } storage where
  files other := by simpa [SentPart.filesOf] using delivered.files other
  fields other := by
    have before := delivered.fields other
    by_cases same : other = name
    · subst same
      simpa [SentPart.textsOf, Dict.get?_push] using before
    · simpa [SentPart.textsOf, Dict.get?_push, same, Ne.symm same] using before
  mem_files other := by simpa using delivered.mem_files other
  mem_fields other := by
    rw [Dict.push, Dict.mem_keys_insert, delivered.mem_fields]
    simp only [List.mem_append, List.mem_singleton, SentPart.mk.injEq, SentContent.text.injEq,
      exists_or, exists_and_left, exists_eq, and_true]

/-- A file that is received behind the others. -/
theorem push_file (delivered : Delivered sent received storage) (kept : storage.KeptIn after)
    {filename : String} {bytes : List UInt8} {file : UploadedFile}
    (holds : file.Holds after name (filename, bytes)) :
    Delivered (sent ++ [⟨name, .file filename bytes⟩])
      { received with files := received.files.push name file } after where
  files other := by
    have before := (delivered.files other).imp fun _ _ holds => holds.mono kept
    by_cases same : other = name
    · subst same
      simpa [SentPart.filesOf, Dict.get?_push] using
        List.rel_append before (.cons holds .nil)
    · simpa [SentPart.filesOf, Dict.get?_push, same, Ne.symm same] using before
  fields other := by simpa [SentPart.textsOf] using delivered.fields other
  mem_files other := by
    rw [Dict.push, Dict.mem_keys_insert, delivered.mem_files]
    simp [exists_or]
  mem_fields other := by simpa using delivered.mem_fields other

end Delivered

namespace UploadConfig

/-- A text is received. -/
theorem receiveParts_text (config : UploadConfig) {part : FormPart}
    (is_text : part.head.filename = none) (rest : List FormPart) (received : ReceivedParts)
    (storage : Storage) :
    config.receiveParts (part :: rest) received storage =
      config.receiveParts rest
        { received with fields := received.fields.push part.name part.text } storage := by
  rw [receiveParts]
  simp only [is_text]

/-- A file is received once it is stored. -/
theorem receiveParts_file (config : UploadConfig) {part : FormPart} {filename : String}
    (is_file : part.head.filename = some filename) {storage after : Storage} {file : UploadedFile}
    (stored : UploadedFile.store config.threshold part.name (some filename)
      (part.head.mediaType.map MediaType.text) part.pieces storage = (.ok file, after))
    (rest : List FormPart) (received : ReceivedParts) :
    config.receiveParts (part :: rest) received storage =
      config.receiveParts rest
        { received with files := received.files.push part.name file } after := by
  rw [receiveParts]
  simp only [is_file, stored]

/-- Parts are received behind those that were received before them. -/
theorem receiveParts_delivers (config : UploadConfig) {before : List SentPart}
    {received : ReceivedParts} {storage : Storage} (working : storage.Working)
    (delivered : Delivered before received storage) (parts : List FormPart) :
    ∃ result after, config.receiveParts parts received storage = ((none, result), after) ∧
      Delivered (before ++ parts.map FormPart.delivers) result after := by
  induction parts generalizing before received storage with
  | nil => exact ⟨received, storage, rfl, by simpa using delivered⟩
  | cons part rest ih =>
      rw [List.map_cons, List.append_cons]
      cases filename_eq : part.head.filename with
      | none =>
          have delivers_eq : part.delivers = ⟨part.name, .text part.text⟩ := by
            simp [FormPart.delivers, filename_eq]
          rw [config.receiveParts_text filename_eq, delivers_eq]
          exact ih working (delivered.push_text part.name part.text)
      | some filename =>
          have delivers_eq : part.delivers = ⟨part.name, .file filename part.content⟩ := by
            simp [FormPart.delivers, filename_eq]
          obtain ⟨file, after, stored, still_working, kept, holds⟩ :=
            UploadedFile.store_pieces config.threshold part.name filename
              (part.head.mediaType.map MediaType.text) part.pieces working
          rw [config.receiveParts_file filename_eq stored, delivers_eq]
          exact ih still_working (delivered.push_file kept holds)

/-- A request whose parts can be read is resolved to what they deliver.  Its body is taken, and all
else about it stays as it was. -/
theorem resolve_of_parts (config : UploadConfig) {request : Request} {contentType boundary : String}
    (multipart : config.isMultipart request = true)
    (content_type : request.contentType? = some contentType)
    (boundary_eq : FormData.boundary contentType = .ok boundary) {body : List UInt8}
    (body_eq : request.body = some body) (fits : body.length ≤ config.maxUpload)
    {parts : List FormPart}
    (parts_eq : FormData.parts boundary config.maxPart body = (parts, none)) {storage : Storage}
    (working : storage.Working) :
    ∃ resolved after, config.resolve request storage =
        (.ok ({ request with
          body := none
          context := request.context.set Context.uploadKey (.upload resolved) }, resolved), after) ∧
      Delivered (parts.map FormPart.delivers) resolved.toReceivedParts after := by
  have not_large : ¬ config.maxUpload < body.length := Nat.not_lt.mpr fits
  obtain ⟨received, after, receive_eq, delivered⟩ :=
    config.receiveParts_delivers working (.nil storage) parts
  have kept : after.KeptIn { after with nextUpload := after.nextUpload + 1 } :=
    fun _ _ found => found
  refine ⟨{ toReceivedParts := received, number := after.nextUpload },
    { after with nextUpload := after.nextUpload + 1 }, ?_, delivered.mono kept⟩
  simp only [resolve, multipart, if_true, content_type, body_eq, Option.getD_some, parse,
    boundary_eq, not_large, if_false, parts_eq, receive_eq]
  rfl

/-- A form that is sent within the limits is delivered.  The body of the request is taken, and all
else about it stays as it was. -/
theorem resolve_write (config : UploadConfig) {boundary : String} (plain : IsBoundary boundary)
    {sent : List SentPart} (sendable : ∀ part ∈ sent, part.Sendable boundary) {request : Request}
    (content_type : request.contentType? = some (FormData.contentType boundary))
    (body : request.body = some (FormData.write boundary sent))
    (upload_fits : (FormData.write boundary sent).length ≤ config.maxUpload)
    (part_fits : ∀ part ∈ sent, ∀ most ∈ config.maxPart, part.content.bytes.length ≤ most)
    {storage : Storage} (working : storage.Working) :
    ∃ parts after, config.resolve request storage =
        (.ok ({ request with
          body := none
          context := request.context.set Context.uploadKey (.upload parts) }, parts), after) ∧
      (∀ name, List.Forall₂ (fun sent file => file.Holds after name sent)
        (SentPart.filesOf sent name) (parts.filesOf name)) ∧
      (∀ name, parts.valuesOf name = SentPart.textsOf sent name) ∧
      (∀ name, name ∈ parts.files.keys ↔ ∃ filename bytes, ⟨name, .file filename bytes⟩ ∈ sent) ∧
      ∀ name, name ∈ parts.fields.keys ↔ ∃ value, ⟨name, .text value⟩ ∈ sent := by
  have delivers_eq : (sent.map SentPart.toFormPart).map FormPart.delivers = sent := by
    rw [List.map_map]
    have each := fun part listed => SentPart.delivers_toFormPart (sendable part listed).unmarked
    exact (List.map_congr_left each).trans (List.map_id sent)
  obtain ⟨parts, after, resolved, delivered⟩ := config.resolve_of_parts
    (config.isMultipart_contentType content_type) content_type
    (FormData.boundary_contentType plain) body upload_fits
    (FormData.parts_write plain sendable part_fits) working
  rw [delivers_eq] at delivered
  exact ⟨parts, after, resolved, delivered.files, delivered.fields, delivered.mem_files,
    delivered.mem_fields⟩

/-- A request with a form. -/
def formRequest (boundary : String) (sent : List SentPart) : Request where
  method := .post
  path := "/upload"
  headers := Dict.ofList [("content-type", FormData.contentType boundary)]
  body := some (FormData.write boundary sent)

/-- A form with a text and a file. -/
def letter : List SentPart :=
  [⟨"title", .text "hello"⟩, ⟨"doc", .file "a.txt" [0x0D, 0x0A, 0x2D]⟩]

theorem resolve_letter : ∃ taken parts after,
    (UploadConfig.mk 1024 none 0 none true).resolve (formRequest "b-1" letter) {} =
        (.ok (taken, parts), after) ∧
      parts.valuesOf "title" = ["hello"] ∧ (parts.filesOf "doc").length = 1 := by
  have plain : IsBoundary "b-1" := by decide +kernel
  have sendable : ∀ part ∈ letter, part.Sendable "b-1" := by
    intro part listed
    rcases List.mem_pair.mp listed with rfl | rfl
    · refine ⟨List.all_eq_true.mp (by decide +kernel), ?_, ?_, ?_, by decide +kernel⟩
      · rintro _ ⟨⟩
      · rintro ⟨⟩
      · rintro _ ⟨⟩
        decide +kernel
    · refine ⟨List.all_eq_true.mp (by decide +kernel), ?_, fun _ => by decide +kernel, ?_,
        by decide +kernel⟩
      · rintro _ ⟨⟩
        exact @of_decide_eq_true _ (List.decidableBAll _ _) (by decide +kernel)
      · rintro _ ⟨⟩
  have content_type : (formRequest "b-1" letter).contentType? =
      some (FormData.contentType "b-1") := by
    decide +kernel
  have working : Storage.Working {} := ⟨rfl, by simp⟩
  obtain ⟨parts, after, resolved, files, fields, -, -⟩ :=
    (UploadConfig.mk 1024 none 0 none true).resolve_write plain sendable content_type rfl
      (by decide +kernel) (by simp) working
  exact ⟨_, parts, after, resolved, fields "title", (files "doc").length_eq.symm⟩

/-- A form with a file that is taken for a text, since the search for its name ends in the name of
the part. -/
def mistaken : List SentPart := [⟨"filenamefilename", .file "f" [0x78]⟩]

/-- Whether a resolution succeeds without a file of a name. -/
def lacksFile (name : String) (resolved : Except Failure (Request × Parts)) : Bool :=
  match resolved with
  | .ok (_, parts) => (parts.filesOf name).isEmpty
  | .error _ => false

/-- Names of letters and digits alone do not make sure that a file is delivered. -/
theorem not_forall_filesOf_resolve :
    ¬ ∀ (config : UploadConfig) (boundary : String) (sent : List SentPart) (storage : Storage),
      boundary ≠ "" → IsBoundary boundary →
      (∀ part ∈ sent, part.name ≠ "" ∧ (∀ c ∈ part.name.toList, c.isAlphanum = true) ∧
        (∀ filename ∈ part.content.filename?, filename ≠ "" ∧
          ∀ c ∈ filename.toList, c.isAlphanum = true) ∧
        (∀ value, part.content = .text value → value.toList.head? ≠ some '\uFEFF') ∧
        ¬ FormData.lineEnd ++ FormData.delimiter boundary <:+: part.content.bytes) →
      (FormData.write boundary sent).length ≤ config.maxUpload →
      (∀ part ∈ sent, ∀ most ∈ config.maxPart, part.content.bytes.length ≤ most) →
      storage.Working →
      ∃ taken parts after,
        config.resolve (formRequest boundary sent) storage = (.ok (taken, parts), after) ∧
          ∀ name, (parts.filesOf name).length = (SentPart.filesOf sent name).length := by
  intro delivers
  have plain : IsBoundary "b" := by decide +kernel
  have sendable : ∀ part ∈ mistaken, part.name ≠ "" ∧
      (∀ c ∈ part.name.toList, c.isAlphanum = true) ∧
      (∀ filename ∈ part.content.filename?, filename ≠ "" ∧
        ∀ c ∈ filename.toList, c.isAlphanum = true) ∧
      (∀ value, part.content = .text value → value.toList.head? ≠ some '\uFEFF') ∧
      ¬ FormData.lineEnd ++ FormData.delimiter "b" <:+: part.content.bytes := by
    intro part listed
    obtain rfl := List.mem_singleton.mp listed
    refine ⟨by decide, List.all_eq_true.mp (by decide +kernel), ?_, ?_, by decide +kernel⟩
    · rintro _ ⟨⟩
      exact ⟨by decide, List.all_eq_true.mp (by decide +kernel)⟩
    · rintro _ ⟨⟩
  obtain ⟨taken, parts, after, resolved, files⟩ := delivers {} "b" mistaken {} (by decide) plain
    sendable (by decide +kernel) (by simp) ⟨rfl, by simp⟩
  have lacks : lacksFile "filenamefilename"
      (resolve {} (formRequest "b" mistaken) {}).1 = true := by
    decide +kernel
  have missing : (parts.filesOf "filenamefilename").length = 1 := files "filenamefilename"
  rw [resolved] at lacks
  simp [List.isEmpty_iff.mp lacks] at missing

end UploadConfig
end WebDispatch
