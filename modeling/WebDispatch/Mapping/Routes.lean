import WebDispatch.Mapping.Basic
import WebDispatch.Mapping.Matrix

/-!
# The mapping of routes

Routes are tried in the order of how specific their patterns are, and equally specific ones in the
order of their registration.  The first route that has the method of the request and whose pattern
matches its path without matrix variables is found.
-/

namespace WebDispatch

variable {σ : Type}

/-- A mapping of routes. -/
structure RouteMapping (σ : Type) where
  /-- The routes in the order in which they are tried. -/
  routes : List (Route σ) := []
  /-- The interceptors around all routes. -/
  interceptors : List (Interceptor σ) := []
  /-- The interceptors around the routes of some paths. -/
  mapped : List (MappedInterceptor σ) := []
  /-- The priority that the mapping asks for. -/
  order : Option Int := none

namespace RouteMapping

/-- Add a route, behind those that are as specific. -/
def addRoute (mapping : RouteMapping σ) (route : Route σ) : RouteMapping σ :=
  { mapping with
    routes := insertRanked (fun a b => a.pattern.specificity < b.pattern.specificity) route
      mapping.routes }

/-- Add an interceptor around all routes. -/
def addInterceptor (mapping : RouteMapping σ) (interceptor : Interceptor σ) : RouteMapping σ :=
  { mapping with interceptors := mapping.interceptors ++ [interceptor] }

/-- Add an interceptor around the routes of some paths. -/
def addMapped (mapping : RouteMapping σ) (interceptor : MappedInterceptor σ) : RouteMapping σ :=
  { mapping with mapped := mapping.mapped ++ [interceptor] }

/-- The path variables if a route answers a method and a path. -/
def captures? (method : Method) (path : String) (route : Route σ) :
    Option (Route σ × Dict String) :=
  if route.method = method then (route.pattern.captures path).map (route, ·) else none

/-- The first route for a method and a path, and the path variables. -/
def match? (mapping : RouteMapping σ) (method : Method) (path : String) :
    Option (Route σ × Dict String) :=
  mapping.routes.findSome? (captures? method path)

/-- The interceptors for a path. -/
def interceptorsFor (mapping : RouteMapping σ) (path : String) : List (Interceptor σ) :=
  mapping.interceptors ++
    (mapping.mapped.filter fun mapped => mapped.covers path).map MappedInterceptor.interceptor

/-- The attributes of a request for which a route was found. -/
def publish (request : Request) (route : Route σ) (path : String) (captured : Dict String)
    (matrix : MatrixVariables) : Request :=
  let request := request.publish .bestMatchingHandler (.handler (Handler.ofRoute route).tag)
  let request := request.publish .bestMatchingPattern (.text route.pattern.source)
  let request := request.publish .pathWithinMapping (.text path)
  let request := request.publish .uriTemplateVariables (.captured captured)
  let request := request.publish .matrixVariables
    (.matrix (Matrix.byPathVariable captured matrix))
  if route.produces.isEmpty then
    { request with context := request.context.erase Published.producibleMediaTypes.key }
  else request.publish .producibleMediaTypes (.texts route.produces)

/-- Find the route for a request. -/
def find (mapping : RouteMapping σ) (visit : Visit σ) :
    Except Failure (Option (HandlerChain σ)) × Visit σ :=
  let path := Matrix.lookupPath visit.request.path
  match mapping.match? visit.request.method path with
  | none => (.ok none, visit)
  | some (route, captured) =>
      let interceptors := mapping.interceptorsFor path
      (.ok (some { handler := Handler.ofRoute route, interceptors }),
        { visit with
          request := publish visit.request route path captured
            (Matrix.ofPath visit.request.path) })

/-- The strategy that finds routes. -/
def toMapping (mapping : RouteMapping σ) : Mapping σ where
  name := "RouteHandlerMapping"
  order := mapping.order
  usesPathPatterns := true
  find := mapping.find

end RouteMapping
end WebDispatch
