import WebDispatch.Http.Context
import WebDispatch.Http.Method
import WebDispatch.Http.Query
import WebDispatch.Json.Decode

/-!
# Requests

A request as handlers see it.  Header names are kept in lower case.
-/

namespace WebDispatch

/-- A request. -/
structure Request where
  /-- The method. -/
  method : Method
  /-- The path, still encoded. -/
  path : String
  /-- The decoded parameters of the query. -/
  query : Dict String := Dict.empty
  /-- The headers by name in lower case. -/
  headers : Dict String := Dict.empty
  /-- The body. -/
  body : Option (List UInt8) := none
  /-- The attributes. -/
  context : Context := Context.empty

namespace Request

/-- Set a parameter of the query. -/
def withParameter (request : Request) (key value : String) : Request :=
  { request with query := request.query.insert key value }

/-- Set the parameters of a query string. -/
def withQueryString (request : Request) (query : String) : Request :=
  { request with query := request.query.insertAll (Query.pairs query) }

/-- Set a header, unless its value holds a control character. -/
def withHeader (request : Request) (name value : String) : Request :=
  if isFieldValue value then
    { request with headers := request.headers.insert (Text.lower name) value }
  else request

/-- The value of a header, by its name in any case. -/
def header? (request : Request) (name : String) : Option String :=
  request.headers.get? (Text.lower name)

/-- The content type. -/
def contentType? (request : Request) : Option String := request.header? "content-type"

/-- The value of a cookie. -/
def cookie? (request : Request) (name : String) : Option String :=
  request.header? "cookie" >>= fun header => (Cookie.parseHeader header).get? name

/-- The body, read as a type. -/
def json {α : Type} (request : Request) (read : Json.Node → Option α) : Except Failure α :=
  match request.body with
  | none => .error (.body .absent)
  | some body => Json.decode read body

/-- The uploaded parts, once the body was parsed. -/
def upload? (request : Request) : Option Parts :=
  request.context.get? Attribute.upload? Context.uploadKey

/-- Set an attribute. -/
def setAttribute (request : Request) (key : String) (value : Attribute) : Request :=
  { request with context := request.context.set key value }

/-- Publish an attribute of the handler that was found. -/
def publish (request : Request) (item : Published) (value : Attribute) : Request :=
  { request with context := request.context.publish item value }

end Request
end WebDispatch
