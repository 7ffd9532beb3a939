import WebDispatch.Dict
import WebDispatch.Text.Basic

/-!
# Configuration of uploads

The limits of uploads, and how they are read from the environment of a program.  A variable that
holds no number counts as not set.
-/

namespace WebDispatch

/-- The variables of the environment of a program. -/
abbrev Environment := Dict String

namespace Environment

/-- The number that a text stands for: decimal digits, with or without a plus sign, of at most 64
bits. -/
def size? (text : List Char) : Option Nat :=
  let digits := match text with
    | '+' :: rest => rest
    | text => text
  if digits.isEmpty || !digits.all Char.isDigit then none
  else
    let value := digits.foldl (fun n c => n * 10 + (c.toNat - 48)) 0
    if value < 0x10000000000000000 then some value else none

/-- The number that a variable holds, with or without white space around it. -/
def number? (environment : Environment) (name : String) : Option Nat :=
  environment.get? name >>= fun value => size? (Text.trim Text.isBlank value.toList)

/-- The text that a variable holds, without white space around it, unless that is empty. -/
def text? (environment : Environment) (name : String) : Option String :=
  environment.get? name >>= fun value =>
    let text := Text.trimmed value
    if text.isEmpty then none else some text

/-- The number of bytes that a body may have. -/
def maxBodySize (environment : Environment) : Nat :=
  (environment.number? "MVCBRIDGE_MAX_BODY_SIZE").getD (5 * 1024 * 1024)

end Environment

/-- The limits of uploads. -/
structure UploadConfig where
  /-- The number of bytes that a body may have. -/
  maxUpload : Nat := 5 * 1024 * 1024
  /-- The number of bytes that each part may have. -/
  maxPart : Option Nat := none
  /-- The number of bytes up to which a file is held in memory. -/
  threshold : Nat := 10 * 1024
  /-- The directory of temporary files. -/
  directory : Option String := none
  /-- Whether only form data counts as multipart. -/
  strict : Bool := false
  deriving DecidableEq, Repr

namespace UploadConfig

/-- The limits that an environment sets. -/
def ofEnvironment (environment : Environment) : UploadConfig :=
  let default : UploadConfig := {}
  { maxUpload := environment.maxBodySize
    maxPart := environment.number? "MVCBRIDGE_MAX_FILE_SIZE"
    threshold := (environment.number? "MVCBRIDGE_FILE_SIZE_THRESHOLD").getD default.threshold
    directory := environment.text? "MVCBRIDGE_UPLOAD_TEMP_DIR" }

end UploadConfig
end WebDispatch
