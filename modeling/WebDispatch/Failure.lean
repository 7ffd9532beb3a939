import WebDispatch.Text.Quoted

/-!
# Failures

Everything that can go wrong between receiving a request and answering it, by cause.  A failure has
a message and the status of the response that reports it.
-/

namespace WebDispatch

/-- Why temporary storage could not be used. -/
inductive StorageFault where
  /-- The directory for temporary files cannot be written to. -/
  | unavailable
  /-- The storage of a part was released before it was read. -/
  | released (part : String)
  /-- Any other cause. -/
  | other (detail : String)
  deriving DecidableEq, Repr

namespace StorageFault

/-- The text of a storage fault. -/
def message : StorageFault → String
  | unavailable => "the directory for temporary files is not available"
  | released part => "temporary storage of part '" ++ part ++ "' has already been released"
  | other detail => detail

end StorageFault

/-- Why an upload could not be read. -/
inductive UploadFault where
  /-- The content type names no multipart body. -/
  | notMultipart (contentType : String)
  /-- The content type has no boundary. -/
  | noBoundary (detail : String)
  /-- The whole body is larger than allowed. -/
  | uploadTooLarge (limit : Nat)
  /-- One part is larger than allowed. -/
  | partTooLarge (part : String) (limit : Nat)
  /-- The body does not have the form of multipart data. -/
  | malformed (detail : String)
  /-- Temporary storage failed. -/
  | storage (fault : StorageFault)
  deriving DecidableEq, Repr

namespace UploadFault

/-- The text of an upload fault. -/
def message : UploadFault → String
  | notMultipart contentType =>
      "Request is not a multipart request (content type: " ++ contentType ++ ")"
  | noBoundary detail => "Multipart boundary missing or invalid: " ++ detail
  | uploadTooLarge limit => "Maximum upload size of " ++ toString limit ++ " bytes exceeded"
  | partTooLarge part limit =>
      "Maximum file size of " ++ toString limit ++ " bytes exceeded for part '" ++ part ++ "'"
  | malformed detail => "Malformed multipart body: " ++ detail
  | storage fault => "Multipart storage I/O error: " ++ fault.message

/-- The status that reports an upload fault. -/
def status : UploadFault → Nat
  | uploadTooLarge _ => 413
  | partTooLarge _ _ => 413
  | storage _ => 500
  | _ => 400

end UploadFault

/-- Why a pattern was refused. -/
inductive PatternFault where
  /-- Nothing is left of the pattern without its anchors. -/
  | empty
  /-- A URL pattern does not start at the root. -/
  | unrooted (pattern : String)
  /-- The anchored pattern is no regular expression. -/
  | expression (source : String) (reason : String)
  /-- Any other cause. -/
  | other (detail : String)
  deriving DecidableEq, Repr

namespace PatternFault

/-- The text of a pattern fault. -/
def message : PatternFault → String
  | empty => "Empty regex pattern is not allowed"
  | unrooted pattern => "URL pattern must start with '/': " ++ pattern
  | expression source reason => source ++ ": " ++ reason
  | other detail => detail

end PatternFault

/-- Why a request body was refused. -/
inductive BodyFault where
  /-- There is no body to parse. -/
  | absent
  /-- A handler that needs a body got none. -/
  | required
  /-- The body comes without a content type. -/
  | noContentType
  /-- The content type is not a kind of JSON. -/
  | unsupportedType (contentType : String)
  /-- The body is no JSON text of the expected form; positions count from one. -/
  | json (reason : String) (line column : Nat)
  /-- Any other cause. -/
  | other (detail : String)
  deriving DecidableEq, Repr

namespace BodyFault

/-- The text of a body fault. -/
def message : BodyFault → String
  | absent => "No request body"
  | required => "Missing request body"
  | noContentType => "Missing Content-Type header"
  | unsupportedType contentType =>
      "Unsupported Content-Type: " ++ contentType ++ " (expected application/json or *+json)"
  | json reason line column =>
      reason ++ " at line " ++ toString line ++ " column " ++ toString column
  | other detail => detail

end BodyFault

/-- Why a cookie was refused. -/
inductive CookieFault where
  /-- The name holds a character that names may not hold, or none at all. -/
  | badName (name : String)
  /-- The value of the named cookie holds a character that values may not hold. -/
  | badValue (name : String)
  /-- Any other cause. -/
  | other (detail : String)
  deriving DecidableEq, Repr

namespace CookieFault

/-- The text of a cookie fault. -/
def message : CookieFault → String
  | badName name => "invalid cookie name " ++ Text.quote name
  | badValue name => "invalid value for cookie '" ++ name ++ "'"
  | other detail => detail

end CookieFault

/-- Why a request could not be answered as asked. -/
inductive Failure where
  /-- No mapping knows a handler, and the dispatcher reports that as a failure. -/
  | noHandler (method path : String)
  /-- No adapter supports the handler. -/
  | noAdapter (handler : String)
  /-- A mapping or an adapter failed. -/
  | dispatch (detail : String)
  /-- An interceptor failed. -/
  | interceptor (detail : String)
  /-- A pattern was refused. -/
  | pattern (fault : PatternFault)
  /-- The request body was refused. -/
  | body (fault : BodyFault)
  /-- The response could not be written. -/
  | serialization (detail : String)
  /-- A header was refused. -/
  | header (detail : String)
  /-- A cookie was refused. -/
  | cookie (fault : CookieFault)
  /-- The sender is not known. -/
  | authentication (detail : String)
  /-- The sender may not do this. -/
  | authorization (detail : String)
  /-- The strategy in use does not offer the operation. -/
  | unsupported (detail : String)
  /-- An upload could not be read. -/
  | upload (fault : UploadFault)
  /-- Anything else that went wrong inside. -/
  | internal (detail : String)
  deriving DecidableEq, Repr

namespace Failure

/-- The text that describes a failure. -/
def message : Failure → String
  | noHandler method path => "No handler found for " ++ method ++ " " ++ path
  | noAdapter handler =>
      "No adapter for handler [" ++ handler ++
        "]: the dispatcher configuration needs a HandlerAdapter that supports this handler"
  | dispatch detail => "Dispatch error: " ++ detail
  | interceptor detail => "Interceptor error: " ++ detail
  | pattern fault => "Invalid path pattern: " ++ fault.message
  | body fault => "Invalid request body: " ++ fault.message
  | serialization detail => "Failed to serialize response: " ++ detail
  | header detail => "Invalid header: " ++ detail
  | cookie fault => "Invalid cookie: " ++ fault.message
  | authentication detail => "Authentication error: " ++ detail
  | authorization detail => "Authorization error: " ++ detail
  | unsupported detail => "Unsupported operation: " ++ detail
  | upload fault => fault.message
  | internal detail => "Internal server error: " ++ detail

/-- The status of the response that reports a failure. -/
def status : Failure → Nat
  | noHandler _ _ => 404
  | body _ => 400
  | header _ => 400
  | cookie _ => 400
  | authentication _ => 401
  | authorization _ => 403
  | upload fault => fault.status
  | _ => 500

end Failure
end WebDispatch
