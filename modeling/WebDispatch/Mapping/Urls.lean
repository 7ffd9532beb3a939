import WebDispatch.Mapping.Basic

/-!
# The mapping of URLs

Handlers for single paths and for everything below a path, whatever the method.  A single path goes
first, and then the longest path that the request is below.
-/

namespace WebDispatch

variable {σ : Type}

/-- A pattern for paths without variables. -/
inductive UrlPattern where
  /-- One path. -/
  | exact (path : String)
  /-- A path and everything below it. -/
  | under (parent : String)
  deriving DecidableEq, Repr

namespace UrlPattern

/-- The pattern of a text; one that ends in `/*` is for everything below a path. -/
def parse (text : String) : Except Failure UrlPattern :=
  match text.toList with
  | '/' :: _ =>
      match text.toList.reverse with
      | '*' :: '/' :: parent => .ok (under (String.ofList parent.reverse))
      | _ => .ok (exact text)
  | _ => .error (.pattern (.unrooted text))

/-- The text of a pattern. -/
def source : UrlPattern → String
  | exact path => path
  | under parent => parent ++ "/*"

/-- The part of a path that the pattern leaves open, if the path matches. -/
def pathWithin? (pattern : UrlPattern) (path : String) : Option String :=
  match pattern with
  | exact expected => if expected = path then some path else none
  | under parent =>
      if parent.toList.isPrefixOf path.toList then
        match path.toList.drop parent.length with
        | [] => some ""
        | '/' :: rest => some (String.ofList rest)
        | _ => none
      else none

/-- Whether a pattern comes later than another: single paths go first, and longer ones go before
shorter ones. -/
def isLater : UrlPattern → UrlPattern → Bool
  | under _, exact _ => true
  | exact _, under _ => false
  | exact a, exact b => a.utf8ByteSize < b.utf8ByteSize
  | under a, under b => a.utf8ByteSize < b.utf8ByteSize

end UrlPattern

/-- A mapping of URLs. -/
structure UrlMapping (σ : Type) where
  /-- The patterns and their handlers in the order in which they are tried. -/
  entries : List (UrlPattern × Handler σ) := []
  /-- The handler for paths that nothing matches. -/
  defaultHandler : Option (Handler σ) := none
  /-- The interceptors around all handlers. -/
  interceptors : List (Interceptor σ) := []
  /-- The priority that the mapping asks for. -/
  order : Option Int := none

/-- What a mapping of URLs finds for a path. -/
structure UrlMatch (σ : Type) where
  /-- The text of the pattern. -/
  pattern : String
  /-- The part of the path that the pattern leaves open. -/
  within : String
  /-- The handler. -/
  handler : Handler σ

namespace UrlMapping

/-- Add a handler for the paths of a pattern. -/
def map (mapping : UrlMapping σ) (pattern : String) (handler : Handler σ) :
    Except Failure (UrlMapping σ) := do
  let pattern ← UrlPattern.parse pattern
  return { mapping with
    entries := insertRanked (fun a b => a.1.isLater b.1) (pattern, handler) mapping.entries }

/-- The match of the first pattern for a path. -/
def lookup? (mapping : UrlMapping σ) (path : String) : Option (UrlMatch σ) :=
  mapping.entries.findSome? fun (pattern, handler) =>
    (pattern.pathWithin? path).map fun within => { pattern := pattern.source, within, handler }

/-- The match for a path, or else the one of the default handler. -/
def match? (mapping : UrlMapping σ) (path : String) : Option (UrlMatch σ) :=
  match mapping.lookup? path with
  | some found => some found
  | none => mapping.defaultHandler.map fun handler => { pattern := "/*", within := path, handler }

/-- The attributes of a request for which a handler was found. -/
def publish (request : Request) (found : UrlMatch σ) : Request :=
  let request := request.publish .bestMatchingHandler (.handler found.handler.tag)
  let request := request.publish .bestMatchingPattern (.text found.pattern)
  let request := request.publish .pathWithinMapping (.text found.within)
  request.publish .introspectTypeLevelMapping (.flag false)

/-- Find the handler for a request. -/
def find (mapping : UrlMapping σ) (visit : Visit σ) :
    Except Failure (Option (HandlerChain σ)) × Visit σ :=
  match mapping.match? visit.request.path with
  | none => (.ok none, visit)
  | some found =>
      (.ok (some { handler := found.handler, interceptors := mapping.interceptors }),
        { visit with request := publish visit.request found })

/-- The strategy that finds the handlers of URLs. -/
def toMapping (mapping : UrlMapping σ) : Mapping σ where
  name := "SimpleUrlHandlerMapping"
  order := mapping.order
  find := mapping.find

end UrlMapping
end WebDispatch
