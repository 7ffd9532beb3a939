import WebDispatch.Dict
import WebDispatch.Failure
import WebDispatch.Text.Basic

/-!
# Cookies

Cookies as a response sets them, the text of a `Set-Cookie` header, and the reading of a `Cookie`
request header.  A cookie can only be made with a name and a value that need no quoting.
-/

namespace WebDispatch

/-- A span of time. -/
structure Span where
  /-- Its length in nanoseconds. -/
  nanoseconds : Nat
  deriving DecidableEq, Repr

namespace Span

/-- A span of whole seconds. -/
def ofSeconds (n : Nat) : Span := ⟨n * 1000000000⟩

/-- A span of whole milliseconds. -/
def ofMilliseconds (n : Nat) : Span := ⟨n * 1000000⟩

/-- The number of whole seconds in a span. -/
def seconds (span : Span) : Nat := span.nanoseconds / 1000000000

end Span

/-- Whether a text may stand as the value of a header: it holds no control character. -/
def isFieldValue (value : String) : Bool :=
  !value.toList.any Text.isControl

/-- How a cookie is sent along with requests from other sites. -/
inductive SameSite where
  | strict | lax | none
  deriving DecidableEq, Repr

namespace SameSite

/-- The name of the policy in a header. -/
def name : SameSite → String
  | strict => "Strict"
  | lax => "Lax"
  | none => "None"

/-- The policy of a name. -/
def ofName? (name : String) : Option SameSite :=
  [strict, lax, none].find? (·.name == name)

end SameSite

namespace Cookie

/-- The characters of cookie names: printable ASCII without separators. -/
def isNameChar (c : Char) : Bool :=
  Text.isAsciiGraphic c && !"()<>@,;:\\\"/[]?=\x7b\x7d".toList.contains c

/-- The characters of cookie values: printable ASCII without quote, comma, semicolon and
backslash. -/
def isValueChar (c : Char) : Bool :=
  Text.isAsciiGraphic c && !"\",;\\".toList.contains c

/-- Whether a text may be the name of a cookie. -/
def isName (name : String) : Bool :=
  !name.toList.isEmpty && name.toList.all isNameChar

/-- Whether a text may be the value of a cookie. -/
def isValue (value : String) : Bool :=
  value.toList.all isValueChar

end Cookie

/-- A cookie that a response sets. -/
structure Cookie where
  /-- The name. -/
  name : String
  /-- The value. -/
  value : String
  /-- The path that the cookie is limited to. -/
  path : Option String := none
  /-- The domain that the cookie is limited to. -/
  domain : Option String := none
  /-- How long the cookie is kept. -/
  maxAge : Option Span := none
  /-- Whether the cookie is sent over secure connections only. -/
  secure : Bool := false
  /-- Whether the cookie is hidden from scripts. -/
  httpOnly : Bool := false
  /-- How the cookie is sent along with requests from other sites. -/
  sameSite : Option SameSite := none
  /-- The name needs no quoting. -/
  isName_name : Cookie.isName name = true
  /-- The value needs no quoting. -/
  isValue_value : Cookie.isValue value = true
  deriving DecidableEq

namespace Cookie

/-- Check a name and a value. -/
def checkPair (name value : String) : Except Failure Unit :=
  if isName name then
    if isValue value then .ok () else .error (.cookie (.badValue name))
  else .error (.cookie (.badName name))

/-- A cookie without attributes. -/
def make (name value : String) : Except Failure Cookie :=
  if hname : isName name = true then
    if hvalue : isValue value = true then
      .ok { name, value, isName_name := hname, isValue_value := hvalue }
    else .error (.cookie (.badValue name))
  else .error (.cookie (.badName name))

theorem make_of_badName {name : String} (bad_name : isName name = false) (value : String) :
    make name value = .error (.cookie (.badName name)) := by
  simp [make, bad_name]

theorem make_of_badValue {name value : String} (name_valid : isName name = true)
    (bad_value : isValue value = false) :
    make name value = .error (.cookie (.badValue name)) := by
  simp [make, name_valid, bad_value]

theorem make_of_valid {name value : String} (name_valid : isName name = true)
    (value_valid : isValue value = true) :
    make name value =
      .ok { name, value, isName_name := name_valid, isValue_value := value_valid } := by
  simp [make, name_valid, value_valid]

/-- A cookie that makes the receiver forget the cookie of that name. -/
def expired (name : String) : Except Failure Cookie :=
  (make name "").map fun cookie => { cookie with maxAge := some ⟨0⟩ }

/-- Limit a cookie to a path. -/
def withPath (cookie : Cookie) (path : String) : Cookie := { cookie with path := some path }

/-- Limit a cookie to a domain. -/
def withDomain (cookie : Cookie) (domain : String) : Cookie := { cookie with domain := some domain }

/-- Have a cookie kept for a span of time. -/
def withMaxAge (cookie : Cookie) (span : Span) : Cookie := { cookie with maxAge := some span }

/-- Have a cookie sent over secure connections only, or not. -/
def withSecure (cookie : Cookie) (secure : Bool) : Cookie := { cookie with secure }

/-- Hide a cookie from scripts, or not. -/
def withHttpOnly (cookie : Cookie) (httpOnly : Bool) : Cookie := { cookie with httpOnly }

/-- Say how a cookie is sent along with requests from other sites. -/
def withSameSite (cookie : Cookie) (policy : SameSite) : Cookie :=
  { cookie with sameSite := some policy }

/-- The attribute with a label, unless its value is missing or holds a control character. -/
def labelled (label : String) : Option String → List String
  | none => []
  | some value => if isFieldValue value then [label ++ "=" ++ value] else []

/-- The items of a `Set-Cookie` header in order. -/
def items (cookie : Cookie) : List String :=
  [cookie.name ++ "=" ++ cookie.value] ++
    labelled "Path" cookie.path ++
    labelled "Domain" cookie.domain ++
    (cookie.maxAge.map fun age => "Max-Age=" ++ toString age.seconds).toList ++
    (if cookie.secure then ["Secure"] else []) ++
    (if cookie.httpOnly then ["HttpOnly"] else []) ++
    (cookie.sameSite.map fun policy => "SameSite=" ++ policy.name).toList

/-- The value of the `Set-Cookie` header. -/
def render (cookie : Cookie) : String :=
  "; ".intercalate cookie.items

/-- The name and value of one item of a `Cookie` header; an item without a name is dropped. -/
def received? (item : List Char) : Option (String × String) :=
  let (name, value) := Text.cutAt '=' item
  let name := Text.trim Text.isBlank name
  let value := Text.trim (· == '"') (Text.trim Text.isBlank value)
  if name.isEmpty then none else some (String.ofList name, String.ofList value)

/-- The cookies of a `Cookie` header; of two equal names the first wins. -/
def parseHeader (header : String) : Dict String :=
  ((header.toList.splitOn ';').filterMap received?).foldl
    (fun cookies (name, value) => cookies.insertNew name value) Dict.empty

end Cookie
end WebDispatch
