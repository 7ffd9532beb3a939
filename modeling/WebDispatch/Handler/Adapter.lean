import WebDispatch.Handler.Basic

/-!
# Adapters

How handlers of each kind are called.  Of the adapters that support a handler, the first one that
was registered calls it.  The answer of a route takes the place of the response, but keeps the
cookies and headers that were set before and that it does not set itself.
-/

namespace WebDispatch

namespace Response

/-- The headers with those added whose names, in any case, are not among them. -/
def completeHeaders (response : Response) (earlier : Dict String) : Response :=
  earlier.entries.foldl (fun response (name, value) =>
    match response.header? name with
    | some _ => response
    | none => { response with headers := response.headers.insert name value }) response

/-- The cookies with those added, in order, whose names are not among them. -/
def completeCookies (response : Response) (earlier : List Cookie) : Response :=
  earlier.foldl (fun response cookie =>
    if response.cookies.any (·.name == cookie.name) then response
    else { response with cookies := response.cookies ++ [cookie] }) response

/-- The response that takes the place of an earlier one. -/
def replacing (response earlier : Response) : Response :=
  (response.completeCookies earlier.cookies).completeHeaders earlier.headers

end Response

/-- A way to call handlers. -/
structure Adapter (σ : Type) where
  /-- The name. -/
  name : String
  /-- Whether a handler can be called. -/
  supports : Handler σ → Bool
  /-- Call a handler; without a view, the response is as it should be. -/
  handle : Handler σ → Exchange σ → Except Failure (Option ModelAndView) × Exchange σ
  /-- When what a request asks a handler for has last changed, if that is known. -/
  lastModified : Handler σ → Request → Option Instant := fun _ _ => none

namespace Adapter

variable {σ : Type}

/-- Calls routes. -/
def routes : Adapter σ where
  name := "RouteHandlerAdapter"
  supports handler := match handler.kind with
    | .route _ => true
    | _ => false
  handle handler x := match handler.kind with
    | .route route =>
        match route.respond x.toVisit with
        | (.error failure, world) => (.error failure, x.withWorld world)
        | (.ok produced, world) =>
            (.ok none, { x.withWorld world with response := produced.replacing x.response })
    | _ => (.error (.noAdapter handler.description), x)

/-- Calls controllers. -/
def controllers : Adapter σ where
  name := "ControllerAdapter"
  supports handler := match handler.kind with
    | .controller _ => true
    | _ => false
  handle handler x := match handler.kind with
    | .controller controller => controller.handle x
    | _ => (.error (.noAdapter handler.description), x)
  lastModified handler request := match handler.kind with
    | .controller controller => controller.lastModified request
    | _ => none

/-- Calls handlers that write the response. -/
def writers : Adapter σ where
  name := "HttpRequestHandlerAdapter"
  supports handler := match handler.kind with
    | .writer _ => true
    | _ => false
  handle handler x := match handler.kind with
    | .writer writer =>
        match writer.handle x with
        | (.error failure, x) => (.error failure, x)
        | (.ok _, x) => (.ok none, x)
    | _ => (.error (.noAdapter handler.description), x)

/-- The adapters that are used if no others are registered. -/
def defaults : List (Adapter σ) := [routes, controllers, writers]

/-- The first adapter that supports a handler. -/
def find (adapters : List (Adapter σ)) (handler : Handler σ) : Except Failure (Adapter σ) :=
  match adapters.find? fun adapter => adapter.supports handler with
  | some adapter => .ok adapter
  | none => .error (.noAdapter handler.description)

theorem mem_of_find {adapters : List (Adapter σ)} {handler : Handler σ} {adapter : Adapter σ}
    (supported : find adapters handler = .ok adapter) : adapter ∈ adapters := by
  unfold find at supported
  split at supported
  · next found found_eq =>
      cases supported
      exact List.mem_of_find?_eq_some found_eq
  · contradiction

/-- Call a handler with the first adapter that supports it. -/
def invoke (adapters : List (Adapter σ)) (handler : Handler σ) (x : Exchange σ) :
    Except Failure (Option ModelAndView) × Exchange σ :=
  match find adapters handler with
  | .ok adapter => adapter.handle handler x
  | .error failure => (.error failure, x)

end Adapter
end WebDispatch
