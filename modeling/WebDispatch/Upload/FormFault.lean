import WebDispatch.Failure
import WebDispatch.Text.Quoted

/-!
# Faults of form data

What can be wrong with a multipart body as such, and the failure that each fault is reported as.
-/

namespace WebDispatch

/-- Why a body is no readable form data. -/
inductive FormFault where
  /-- A part has a name that is not expected. -/
  | unknownPart (name : Option String)
  /-- The body ends before the content of a part does. -/
  | incompletePart (name : Option String)
  /-- The name of a header is not readable. -/
  | headerName (name : String)
  /-- The value of a header is not readable. -/
  | headerValue
  /-- The headers of a part do not have the form of headers. -/
  | headerSyntax
  /-- The body ends before the headers of a part do. -/
  | incompleteHeaders
  /-- The content type is not readable. -/
  | mediaTypeSyntax
  /-- The content type is not that of form data. -/
  | otherMediaType
  /-- The content type has no boundary. -/
  | noBoundary
  /-- The body ends before the last boundary, or a boundary does not end its line. -/
  | incompleteBody
  /-- The body could not be received. -/
  | transfer
  /-- One part is larger than allowed. -/
  | partTooLarge (name : Option String) (limit : Nat)
  /-- The whole body is larger than allowed. -/
  | bodyTooLarge (limit : Nat)
  /-- The body is being read by another reader. -/
  | locked
  deriving DecidableEq, Repr

namespace FormFault

/-- The name of a part in messages. -/
def shown (name : Option String) : String := Text.quote (name.getD "<unknown>")

/-- The text of a fault. -/
def message : FormFault → String
  | unknownPart name => "unknown field received: " ++ shown name
  | incompletePart name => "field " ++ shown name ++ " received with incomplete data"
  | headerName name => "failed to decode field's raw header name: " ++ Text.quote name
  | headerValue => "failed to decode field's raw header value"
  | headerSyntax => "failed to read headers"
  | incompleteHeaders => "failed to read field complete headers"
  | mediaTypeSyntax => "failed to decode Content-Type"
  | otherMediaType => "Content-Type is not multipart/form-data"
  | noBoundary => "no boundary in content type"
  | incompleteBody => "incomplete multipart stream"
  | transfer => "stream read failed"
  | partTooLarge name limit =>
      "field " ++ shown name ++ " exceeded the size limit: " ++ toString limit ++ " bytes"
  | bodyTooLarge limit => "stream size exceeded limit: " ++ toString limit ++ " bytes"
  | locked => "failed to lock multipart state"

/-- The fault of the upload that a fault of its body is reported as. -/
def toUploadFault : FormFault → UploadFault
  | bodyTooLarge limit => .uploadTooLarge limit
  | partTooLarge name limit => .partTooLarge (name.getD "") limit
  | noBoundary => .noBoundary noBoundary.message
  | fault => .malformed fault.message

/-- The failure that a fault is reported as. -/
def toFailure (fault : FormFault) : Failure := .upload fault.toUploadFault

end FormFault
end WebDispatch
