import WebDispatch.Dict
import WebDispatch.Failure
import WebDispatch.Text.Quoted

/-!
# Uploaded parts and their storage

The parts of a multipart request: files and text fields by name.  The content of a file is held in
memory or in a temporary file.  Temporary files live in a storage, and so does the knowledge which
requests have released theirs; releasing deletes the temporary files of a request.

Parts are shared: a request holds a share of them, and whoever is handed them may keep another one
for longer.  Temporary files that were not released go with the last share.
-/

namespace WebDispatch

/-- A directory for temporary files. -/
structure Storage where
  /-- Whether files can be made in the directory. -/
  available : Bool := true
  /-- The files that exist, by number, with their content. -/
  files : List (Nat × List UInt8) := []
  /-- The number of the next file. -/
  nextFile : Nat := 0
  /-- The uploads that were released, by number. -/
  released : List Nat := []
  /-- The number of the next upload. -/
  nextUpload : Nat := 0
  /-- The uploads, by number, of which something holds a share that outlives their request. -/
  kept : List Nat := []

namespace Storage

/-- Make a file with a content, and say its number. -/
def create (storage : Storage) (content : List UInt8) : Except StorageFault Nat × Storage :=
  if storage.available then
    (.ok storage.nextFile,
      { storage with
        files := storage.files ++ [(storage.nextFile, content)]
        nextFile := storage.nextFile + 1 })
  else (.error .unavailable, storage)

/-- Append to the content of a file. -/
def append (storage : Storage) (file : Nat) (content : List UInt8) : Storage :=
  { storage with
    files := storage.files.map fun entry =>
      if entry.1 = file then (file, entry.2 ++ content) else entry }

/-- The content of a file, if it exists. -/
def read? (storage : Storage) (file : Nat) : Option (List UInt8) := storage.files.lookup file

/-- Delete the files with the given numbers. -/
def delete (storage : Storage) (files : List Nat) : Storage :=
  { storage with files := storage.files.filter fun entry => !files.contains entry.1 }

end Storage

/-- Where the content of an uploaded file is. -/
inductive FileContent where
  /-- In memory. -/
  | memory (bytes : List UInt8)
  /-- In the temporary file with a number. -/
  | stored (file : Nat)
  deriving DecidableEq, Repr

/-- An uploaded file. -/
structure UploadedFile where
  /-- The name of the part. -/
  name : String
  /-- The name of the file as the sender gave it. -/
  filename : Option String
  /-- The media type as the sender gave it. -/
  contentType : Option String
  /-- The number of bytes. -/
  size : Nat
  /-- The content. -/
  content : FileContent
  deriving DecidableEq, Repr

namespace UploadedFile

/-- Whether the content is held in memory. -/
def inMemory (file : UploadedFile) : Bool :=
  match file.content with
  | .memory _ => true
  | .stored _ => false

/-- The number of the temporary file that holds the content. -/
def storedFile? (file : UploadedFile) : Option Nat :=
  match file.content with
  | .memory _ => none
  | .stored number => some number

/-- Whether the content is in a temporary file that exists. -/
def onDisk (file : UploadedFile) (storage : Storage) : Bool :=
  file.storedFile?.any fun number => (storage.read? number).isSome

/-- The content. -/
def read (file : UploadedFile) (storage : Storage) : Except Failure (List UInt8) :=
  match file.content with
  | .memory bytes => .ok bytes
  | .stored number =>
      match storage.read? number with
      | some bytes => .ok bytes
      | none => .error (.upload (.storage (.released file.name)))

/-- The content, copied to a place that can be written to or not. -/
def transfer (file : UploadedFile) (storage : Storage) (writable : Bool) :
    Except Failure (List UInt8) := do
  let bytes ← file.read storage
  if writable then return bytes else .error (.upload (.storage .unavailable))

/-- The description of a file in diagnostics. -/
def describe (file : UploadedFile) : String :=
  "MultipartFile \x7b name: " ++ Text.quote file.name ++
    ", original_filename: " ++ Text.quote? file.filename ++
    ", content_type: " ++ Text.quote? file.contentType ++
    ", size: " ++ toString file.size ++
    ", in_memory: " ++ toString file.inMemory ++ " \x7d"

end UploadedFile

/-- The files and text fields of parts. -/
structure ReceivedParts where
  /-- The files by the name of their part, in the order of the body. -/
  files : Dict (List UploadedFile) := Dict.empty
  /-- The text fields by name, in the order of the body. -/
  fields : Dict (List String) := Dict.empty

namespace ReceivedParts

/-- All files. -/
def allFiles (received : ReceivedParts) : List UploadedFile :=
  received.files.entries.flatMap Prod.snd

/-- The numbers of the temporary files. -/
def storedFiles (received : ReceivedParts) : List Nat :=
  received.allFiles.filterMap UploadedFile.storedFile?

end ReceivedParts

/-- The parts of one upload. -/
structure Parts extends ReceivedParts where
  /-- The number of the upload. -/
  number : Nat

namespace Parts

/-- The files of a name. -/
def filesOf (parts : Parts) (name : String) : List UploadedFile :=
  (parts.files.get? name).getD []

/-- The values of the text fields of a name. -/
def valuesOf (parts : Parts) (name : String) : List String :=
  (parts.fields.get? name).getD []

/-- The first file of a name. -/
def file? (parts : Parts) (name : String) : Option UploadedFile := (parts.filesOf name).head?

/-- The first value of a name. -/
def value? (parts : Parts) (name : String) : Option String := (parts.valuesOf name).head?

/-- How many files of an upload are in temporary files that exist. -/
def storedCount (parts : Parts) (storage : Storage) : Nat :=
  parts.allFiles.countP (·.onDisk storage)

/-- Whether the temporary files of an upload were released. -/
def isReleased (parts : Parts) (storage : Storage) : Bool :=
  storage.released.contains parts.number

/-- Delete the temporary files of an upload.  Only the first release says that it did. -/
def release (parts : Parts) (storage : Storage) : Bool × Storage :=
  if parts.isReleased storage then (false, storage)
  else
    let storage := storage.delete parts.storedFiles
    (true, { storage with released := parts.number :: storage.released })

/-- Whether a share of the parts is held that outlives their request. -/
def isKept (parts : Parts) (storage : Storage) : Bool := storage.kept.contains parts.number

/-- Keep a share of the parts that outlives their request. -/
def keep (parts : Parts) (storage : Storage) : Storage :=
  { storage with kept := parts.number :: storage.kept }

/-- Let go of the share of the parts that their request holds.  If it was the last one, the
temporary files go with it. -/
def letGo (parts : Parts) (storage : Storage) : Storage :=
  if parts.isKept storage then storage else storage.delete parts.storedFiles

end Parts
end WebDispatch
