import WebDispatch.Mapping.Routes
import WebDispatch.Mapping.Urls

/-!
# What mappings publish

A mapping of routes and a mapping of URLs publish different attributes for what they find, and both
leave the attributes alone that they do not publish.  `RouteMapping.attribute?_publish` and
`UrlMapping.attribute?_publish` say what is under each key afterwards.
-/

namespace WebDispatch

namespace Published

theorem key_inj {item other : Published} : item.key = other.key ↔ item = other := by
  constructor
  · cases item <;> cases other <;> decide
  · exact congrArg key

end Published

namespace Request

/-- The value of a published attribute, of any type. -/
def attribute? (request : Request) (item : Published) : Option Attribute :=
  request.context.values.get? item.key

@[simp]
theorem attribute?_publish (request : Request) (item other : Published) (value : Attribute) :
    (request.publish item value).attribute? other =
      if other = item then some value else request.attribute? other := by
  simp [attribute?, publish, Context.publish, Context.set, Published.key_inj]

@[simp]
theorem attribute?_erase (request : Request) (item other : Published) :
    ({ request with context := request.context.erase item.key } : Request).attribute? other =
      if other = item then none else request.attribute? other := by
  simp [attribute?, Context.erase, Dict.get?_erase, Published.key_inj]

end Request

variable {σ : Type}

/-- What a mapping of routes publishes about a route.  It does not publish whether the mapping looks
into handlers. -/
def RouteMapping.published? (route : Route σ) (path : String) (captured : Dict String)
    (matrix : MatrixVariables) : Published → Option Attribute
  | .bestMatchingHandler => some (.handler (Handler.ofRoute route).tag)
  | .pathWithinMapping => some (.text path)
  | .bestMatchingPattern => some (.text route.pattern.source)
  | .introspectTypeLevelMapping => none
  | .uriTemplateVariables => some (.captured captured)
  | .matrixVariables => some (.matrix (Matrix.byPathVariable captured matrix))
  | .producibleMediaTypes =>
      if route.produces.isEmpty then none else some (.texts route.produces)

/-- A mapping of routes replaces or removes all published attributes but one. -/
theorem RouteMapping.attribute?_publish (request : Request) (route : Route σ) (path : String)
    (captured : Dict String) (matrix : MatrixVariables) (item : Published) :
    (publish request route path captured matrix).attribute? item =
      if item = .introspectTypeLevelMapping then request.attribute? item
      else published? route path captured matrix item := by
  unfold publish
  split <;> cases item <;> simp_all [published?]

theorem RouteMapping.find_of_match?_eq_none {mapping : RouteMapping σ} {visit : Visit σ}
    (unmatched : mapping.match? visit.request.method
      (Matrix.lookupPath visit.request.path) = none) :
    mapping.find visit = (.ok none, visit) := by
  simp only [find, unmatched]

theorem RouteMapping.find_of_match?_eq_some {mapping : RouteMapping σ} {visit : Visit σ}
    {route : Route σ} {captured : Dict String}
    (matched : mapping.match? visit.request.method
      (Matrix.lookupPath visit.request.path) = some (route, captured)) :
    mapping.find visit =
      (.ok (some { handler := Handler.ofRoute route
                   interceptors :=
                     mapping.interceptorsFor (Matrix.lookupPath visit.request.path) }),
        { visit with
          request := publish visit.request route (Matrix.lookupPath visit.request.path) captured
            (Matrix.ofPath visit.request.path) }) := by
  simp only [find, matched]

/-- The route that is found is one of the mapping, and its pattern matches. -/
theorem RouteMapping.captures_of_match? {mapping : RouteMapping σ} {method : Method} {path : String}
    {route : Route σ} {captured : Dict String}
    (matched : mapping.match? method path = some (route, captured)) :
    route ∈ mapping.routes ∧ route.pattern.captures path = some captured := by
  obtain ⟨candidate, listed, answers⟩ := List.exists_of_findSome?_eq_some matched
  unfold captures? at answers
  split at answers
  · obtain ⟨vars, vars_eq, found_eq⟩ := Option.map_eq_some_iff.mp answers
    obtain ⟨rfl, rfl⟩ := Prod.mk.inj found_eq
    exact ⟨listed, vars_eq⟩
  · cases answers

/-- What a mapping of URLs publishes about what it found. -/
def UrlMapping.published? (found : UrlMatch σ) : Published → Option Attribute
  | .bestMatchingHandler => some (.handler found.handler.tag)
  | .pathWithinMapping => some (.text found.within)
  | .bestMatchingPattern => some (.text found.pattern)
  | .introspectTypeLevelMapping => some (.flag false)
  | .uriTemplateVariables | .matrixVariables | .producibleMediaTypes => none

/-- A mapping of URLs replaces four of the published attributes. -/
theorem UrlMapping.attribute?_publish (request : Request) (found : UrlMatch σ)
    (item : Published) :
    (publish request found).attribute? item =
      (published? found item).or (request.attribute? item) := by
  cases item <;> simp [publish, published?]

end WebDispatch
