import WebDispatch.Http.Request
import WebDispatch.Text.Charset
import WebDispatch.Upload.Config
import WebDispatch.Upload.FormData

/-!
# Resolving uploads

How a multipart request becomes a request with parts: its body is taken and its files are stored,
those above a threshold in temporary files.  After a failure nothing of them is left.
-/

namespace WebDispatch

namespace UploadedFile

/-- Receive the pieces of a content behind what was received before.  It moves to a temporary file
as soon as it is larger than the threshold. -/
def receive (threshold : Nat) :
    List (List UInt8) → FileContent → Storage → Except StorageFault FileContent × Storage
  | [], content, storage => (.ok content, storage)
  | piece :: rest, .memory bytes, storage =>
      if threshold < (bytes ++ piece).length then
        match storage.create (bytes ++ piece) with
        | (.ok file, storage) => receive threshold rest (.stored file) storage
        | (.error fault, storage) => (.error fault, storage)
      else receive threshold rest (.memory (bytes ++ piece)) storage
  | piece :: rest, .stored file, storage =>
      receive threshold rest (.stored file) (storage.append file piece)

/-- The number of bytes of a content.  What is in a temporary file was counted piece by piece. -/
def receivedSize (pieces : List (List UInt8)) : FileContent → Nat
  | .memory bytes => bytes.length
  | .stored _ => pieces.foldl (fun size piece => size + piece.length) 0

/-- Store a file that is sent in pieces. -/
def store (threshold : Nat) (name : String) (filename contentType : Option String)
    (pieces : List (List UInt8)) (storage : Storage) : Except StorageFault UploadedFile × Storage :=
  match receive threshold pieces (.memory []) storage with
  | (.ok content, storage) =>
      (.ok { name, filename, contentType, size := receivedSize pieces content, content }, storage)
  | (.error fault, storage) => (.error fault, storage)

end UploadedFile

namespace FormPart

/-- The name of a part; a part without one has the empty name. -/
def name (part : FormPart) : String := part.head.name.getD ""

/-- The text of a part, in the character set that its media type names. -/
def text (part : FormPart) : String :=
  let label := part.head.mediaType >>= fun mediaType => mediaType.parameter "charset"
  ((label >>= Charset.ofLabel?).getD .utf8).decode part.content

end FormPart

namespace UploadConfig

/-- Store parts one after the other, up to the first fault.  Those with a file name are files. -/
def receiveParts (config : UploadConfig) : List FormPart → ReceivedParts → Storage →
    (Option StorageFault × ReceivedParts) × Storage
  | [], received, storage => ((none, received), storage)
  | part :: rest, received, storage =>
      match part.head.filename with
      | none =>
          config.receiveParts rest
            { received with fields := received.fields.push part.name part.text } storage
      | some filename =>
          match UploadedFile.store config.threshold part.name (some filename)
              (part.head.mediaType.map MediaType.text) part.pieces storage with
          | (.ok file, storage) =>
              config.receiveParts rest
                { received with files := received.files.push part.name file } storage
          | (.error fault, storage) => ((some fault, received), storage)

/-- The parts of a body, stored in order up to the first fault.  The temporary files of what was
received before a fault are deleted. -/
def parse (config : UploadConfig) (contentType : String) (body : List UInt8) (storage : Storage) :
    Except UploadFault Parts × Storage :=
  match FormData.boundary contentType with
  | .error fault => (.error fault.toUploadFault, storage)
  | .ok boundary =>
      if config.maxUpload < body.length then (.error (.uploadTooLarge config.maxUpload), storage)
      else
        let (parts, malformed) := FormData.parts boundary config.maxPart body
        match config.receiveParts parts {} storage, malformed with
        | ((some fault, received), after), _ =>
            (.error (.storage fault), after.delete received.storedFiles)
        | ((none, received), after), some fault =>
            (.error fault.toUploadFault, after.delete received.storedFiles)
        | ((none, received), after), none =>
            (.ok { toReceivedParts := received, number := after.nextUpload },
              { after with nextUpload := after.nextUpload + 1 })

/-- Whether a request counts as multipart by its content type. -/
def isMultipart (config : UploadConfig) (request : Request) : Bool :=
  match request.contentType? with
  | none => false
  | some contentType =>
      let lowered := (Text.trimStart Text.isBlank contentType.toList).map Char.toLower
      let expected := if config.strict then "multipart/form-data" else "multipart/"
      expected.toList.isPrefixOf lowered

/-- Turn the body of a multipart request into parts. -/
def resolve (config : UploadConfig) (request : Request) (storage : Storage) :
    Except Failure (Request × Parts) × Storage :=
  if config.isMultipart request then
    match config.parse (request.contentType?.getD "") (request.body.getD []) storage with
    | (.error fault, storage) => (.error (.upload fault), storage)
    | (.ok parts, storage) =>
        let request := { request with body := none }
        (.ok (request.setAttribute Context.uploadKey (.upload parts), parts), storage)
  else (.error (.upload (.notMultipart (request.contentType?.getD "none"))), storage)

end UploadConfig
end WebDispatch
