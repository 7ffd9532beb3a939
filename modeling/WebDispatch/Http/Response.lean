import WebDispatch.Http.Cookie
import WebDispatch.Json.Printer
import WebDispatch.Text.Utf8

/-!
# Responses

A response under construction.  Header names keep the case in which they are first written; they are
looked up in any case.
-/

namespace WebDispatch

/-- The reason phrase of a status that reports a failure. -/
def reasonPhrase : Nat → String
  | 400 => "Bad Request"
  | 401 => "Unauthorized"
  | 403 => "Forbidden"
  | 404 => "Not Found"
  | 413 => "Payload Too Large"
  | 500 => "Internal Server Error"
  | _ => "Error"

/-- A response. -/
structure Response where
  /-- The status code. -/
  status : Nat
  /-- The headers by name. -/
  headers : Dict String := Dict.empty
  /-- The cookies that the response sets, in order. -/
  cookies : List Cookie := []
  /-- The body. -/
  body : Option (List UInt8) := none

namespace Response

/-- A response that reports success. -/
def ok : Response := { status := 200 }

/-- A response that says that nothing has changed. -/
def notModified : Response := { status := 304 }

/-- A response that says that nothing was found. -/
def notFound : Response := { status := 404 }

/-- Set a header, unless its value holds a control character. -/
def setHeader (response : Response) (name value : String) : Response :=
  if isFieldValue value then { response with headers := response.headers.insert name value }
  else response

/-- The value of a header, by its name in any case. -/
def header? (response : Response) (name : String) : Option String :=
  (response.headers.entries.find? fun entry => Text.sameIgnoringCase entry.1 name).map Prod.snd

/-- Set a cookie in the place of one of the same name. -/
def addCookie (response : Response) (cookie : Cookie) : Response :=
  { response with cookies := response.cookies.filter (·.name != cookie.name) ++ [cookie] }

/-- The values of the `Set-Cookie` headers. -/
def setCookieHeaders (response : Response) : List String := response.cookies.map Cookie.render

/-- Set the body and its content type. -/
def withContent (response : Response) (contentType : String) (body : List UInt8) : Response :=
  { response with
    headers := response.headers.insert "Content-Type" contentType
    body := some body }

/-- Set a body of plain text. -/
def text (response : Response) (body : String) : Response :=
  response.withContent "text/plain; charset=utf-8" (Text.encode body)

/-- Set a body of JSON. -/
def json (response : Response) (value : Json) : Response :=
  response.withContent "application/json" (Text.encode value.render)

/-- The response that reports a failure.  It does not tell more than its status. -/
def ofFailure (failure : Failure) : Response :=
  { ({ status := failure.status } : Response).setHeader "Content-Type" "text/plain" with
    body := some (Text.encode (reasonPhrase failure.status)) }

/-- Whether two responses are the same up to the order of their headers. -/
def sameAs (a b : Response) : Bool :=
  a.status == b.status && a.headers.sameAs b.headers && a.cookies == b.cookies && a.body == b.body

end Response
end WebDispatch
