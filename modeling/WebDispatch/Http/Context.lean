import WebDispatch.Dict
import WebDispatch.Locale.Resolver
import WebDispatch.Upload.Parts

/-!
# Request attributes

What the steps of answering a request tell each other: values of several types under text keys.
Reading a key as a type other than that of its value finds nothing.
-/

namespace WebDispatch

/-- What identifies a handler: copies of one handler have the same number. -/
structure HandlerTag where
  /-- The number of the handler. -/
  number : Nat
  /-- The description of the handler. -/
  description : String
  deriving DecidableEq, Repr

/-- The matrix variables of a path: by segment or path variable, then by name. -/
abbrev MatrixVariables := Dict (Dict (List String))

/-- The value of an attribute. -/
inductive Attribute where
  | number (value : Int)
  | flag (value : Bool)
  | text (value : String)
  | texts (value : List String)
  | handler (tag : HandlerTag)
  | captured (values : Dict String)
  | matrix (values : MatrixVariables)
  | resolver (resolver : LocaleResolver)
  /-- The locale that was set while the request is answered, or that it was cleared. -/
  | localeChange (locale : Option Locale)
  | upload (parts : Parts)

namespace Attribute

def number? : Attribute → Option Int
  | number value => some value
  | _ => none

def flag? : Attribute → Option Bool
  | flag value => some value
  | _ => none

def text? : Attribute → Option String
  | text value => some value
  | _ => none

def texts? : Attribute → Option (List String)
  | texts value => some value
  | _ => none

def handler? : Attribute → Option HandlerTag
  | handler tag => some tag
  | _ => none

def captured? : Attribute → Option (Dict String)
  | captured values => some values
  | _ => none

def matrix? : Attribute → Option MatrixVariables
  | matrix values => some values
  | _ => none

def resolver? : Attribute → Option LocaleResolver
  | resolver value => some value
  | _ => none

def localeChange? : Attribute → Option (Option Locale)
  | localeChange locale => some locale
  | _ => none

def upload? : Attribute → Option Parts
  | upload parts => some parts
  | _ => none

end Attribute

/-- The attributes that mappings publish about the handler they found. -/
inductive Published where
  | bestMatchingHandler
  | pathWithinMapping
  | bestMatchingPattern
  | introspectTypeLevelMapping
  | uriTemplateVariables
  | matrixVariables
  | producibleMediaTypes
  deriving DecidableEq, Repr

namespace Published

/-- All published attributes. -/
def all : List Published :=
  [bestMatchingHandler, pathWithinMapping, bestMatchingPattern, introspectTypeLevelMapping,
    uriTemplateVariables, matrixVariables, producibleMediaTypes]

/-- The key of a published attribute. -/
def key : Published → String
  | bestMatchingHandler => "mvcbridge.handler.bestMatchingHandler"
  | pathWithinMapping => "mvcbridge.handler.pathWithinHandlerMapping"
  | bestMatchingPattern => "mvcbridge.handler.bestMatchingPattern"
  | introspectTypeLevelMapping => "mvcbridge.handler.introspectTypeLevelMapping"
  | uriTemplateVariables => "mvcbridge.handler.uriTemplateVariables"
  | matrixVariables => "mvcbridge.handler.matrixVariables"
  | producibleMediaTypes => "mvcbridge.handler.producibleMediaTypes"

end Published

/-- The attributes of a request. -/
structure Context where
  /-- The values by key. -/
  values : Dict Attribute

namespace Context

/-- The key of the locale resolver in use. -/
def resolverKey : String := "mvcbridge.locale.resolver"

/-- The key of the locale that was set while the request is answered. -/
def localeChangeKey : String := "mvcbridge.locale.cookie.override"

/-- The key of the uploaded parts. -/
def uploadKey : String := "mvcbridge.multipart.parts"

/-- No attributes. -/
def empty : Context := ⟨Dict.empty⟩

/-- Give a key a value. -/
def set (context : Context) (key : String) (value : Attribute) : Context :=
  ⟨context.values.insert key value⟩

/-- The value under a key, read as a type. -/
def get? {α : Type} (context : Context) (read : Attribute → Option α) (key : String) : Option α :=
  context.values.get? key >>= read

/-- Remove a key if its value is of a type, and say the value. -/
def remove {α : Type} (context : Context) (read : Attribute → Option α) (key : String) :
    Option α × Context :=
  match context.get? read key with
  | some value => (some value, ⟨context.values.erase key⟩)
  | none => (none, context)

/-- Remove a key. -/
def erase (context : Context) (key : String) : Context := ⟨context.values.erase key⟩

/-- Publish an attribute of a handler. -/
def publish (context : Context) (item : Published) (value : Attribute) : Context :=
  context.set item.key value

/-- A published attribute, read as a type. -/
def published? {α : Type} (context : Context) (read : Attribute → Option α)
    (item : Published) : Option α :=
  context.get? read item.key

/-- Whether a key has a value. -/
def contains (context : Context) (key : String) : Bool := context.values.contains key

/-- The keys in ascending order. -/
def keys (context : Context) : List String :=
  context.values.keys.mergeSort fun a b => !(b < a)

/-- Whether there are no attributes. -/
def isEmpty (context : Context) : Bool := context.values.entries.isEmpty

/-- The description of the attributes in diagnostics. -/
def describe (context : Context) : String :=
  "RequestContext \x7b keys: " ++ Text.quoteAll context.keys ++ " \x7d"

end Context
end WebDispatch
