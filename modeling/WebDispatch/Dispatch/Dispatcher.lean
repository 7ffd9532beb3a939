import WebDispatch.Dispatch.Outcome
import WebDispatch.Dispatch.ViewName
import WebDispatch.Handler.Adapter
import WebDispatch.Http.Date
import WebDispatch.Locale.Resolution
import WebDispatch.Mapping.Routes
import WebDispatch.Mapping.Urls
import WebDispatch.Upload.Guard

/-!
# The dispatcher

Answers requests: it parses an upload, finds the handler and the adapter for it, runs the handler
among its interceptors and cleans up.  Every interceptor whose first hook was entered gets its last
hook.
-/

namespace WebDispatch

variable {σ : Type}

/-- A dispatcher. -/
structure Dispatcher (σ : Type) where
  /-- The mappings. -/
  registry : MappingRegistry σ := {}
  /-- The adapters that were registered; the default ones are used if there are none. -/
  registeredAdapters : List (Adapter σ) := []
  /-- What finds the locale of a request. -/
  localeResolver : LocaleResolver := .accept {}
  /-- The limits of uploads; they are not parsed if there are none. -/
  upload : Option UploadConfig := none
  /-- Whether it is a failure that there is no handler. -/
  failsWithoutHandler : Bool := false

namespace HandlerChain

/-- How the part of answering a request ends that runs between interceptors. -/
inductive Ending where
  /-- An interceptor did not let the handler answer. -/
  | shortCircuited
  /-- The handler left the response to a view, or wrote it. -/
  | handled (view : Option ModelAndView)

/-- Run the handler and the hooks that see the view. -/
def runHandler (chain : HandlerChain σ) (adapter : Adapter σ) (x : Exchange σ) :
    Except Failure (Option ModelAndView) × Exchange σ :=
  match adapter.handle chain.handler x with
  | (.error failure, x) => (.error failure, x)
  | (.ok view, x) =>
      let view := view.map (·.withDefaultView (defaultViewName x.request.path))
      match Interceptor.postAll chain.handler chain.interceptors.reverse view x with
      | (.error failure, _, x) => (.error failure, x)
      | (.ok _, view, x) => (.ok view, x)

/-- Run the last hooks of the first `entered` interceptors. -/
def leave (chain : HandlerChain σ) (entered : Nat) (failure : Option Failure) (x : Exchange σ) :
    Except Failure Unit × Exchange σ :=
  Interceptor.completeAll chain.handler failure (chain.interceptors.take entered).reverse x

/-- Run the last hooks after a failure, which stays the failure whatever they do. -/
def fail (chain : HandlerChain σ) (entered : Nat) (failure : Failure) (x : Exchange σ) :
    Except Failure Ending × Exchange σ :=
  (.error failure, (chain.leave entered (some failure) x).2)

/-- Run the last hooks after a success, which turns into a failure if one of them fails. -/
def succeed (chain : HandlerChain σ) (entered : Nat) (ending : Ending) (x : Exchange σ) :
    Except Failure Ending × Exchange σ :=
  match chain.leave entered none x with
  | (.error failure, x) => (.error failure, x)
  | (.ok _, x) => (.ok ending, x)

/-- Run the handler among its interceptors. -/
def run (chain : HandlerChain σ) (adapter : Adapter σ) (x : Exchange σ) :
    Except Failure Ending × Exchange σ :=
  match Interceptor.enterAll chain.handler chain.interceptors x with
  | ((.error failure, entered), x) => chain.fail entered failure x
  | ((.ok false, entered), x) => chain.succeed entered .shortCircuited x
  | ((.ok true, entered), x) =>
      match chain.runHandler adapter x with
      | (.error failure, x) => chain.fail entered failure x
      | (.ok view, x) => chain.succeed entered (.handled view) x

end HandlerChain

/-- Whether nothing has changed since the time that a request names. -/
def isNotModified (request : Request) (lastModified : Instant) : Bool :=
  match request.header? "if-modified-since" >>= HttpDate.parse? with
  | some since => lastModified.seconds ≤ since.seconds
  | none => false

namespace Dispatcher

/-- The adapters in use. -/
def adapters (dispatcher : Dispatcher σ) : List (Adapter σ) :=
  if dispatcher.registeredAdapters.isEmpty then Adapter.defaults else dispatcher.registeredAdapters

/-- Find the handler for a request. -/
def resolve (dispatcher : Dispatcher σ) (visit : Visit σ) :
    Except Failure (Option (HandlerChain σ)) × Visit σ :=
  dispatcher.registry.resolve visit

/-- When what a request asks for has last changed; only requests that read are asked for it. -/
def lastModified? (chain : HandlerChain σ) (adapter : Adapter σ) (request : Request) :
    Option Instant :=
  if request.method = .get ∨ request.method = .head then
    adapter.lastModified chain.handler request
  else none

/-- The response under construction at the start. -/
def startResponse (response : Response) : Option Instant → Response
  | none => response
  | some instant => response.setHeader "Last-Modified" (HttpDate.render instant)

/-- Answer a request for which a handler and an adapter were found. -/
def answer (chain : HandlerChain σ) (adapter : Adapter σ) (visit : Visit σ) :
    Except Failure Outcome × Visit σ :=
  let lastModified := lastModified? chain adapter visit.request
  if lastModified.any (isNotModified visit.request) then
    (.ok (.notModified (startResponse .notModified lastModified)), visit)
  else
    match chain.run adapter { visit with response := startResponse .ok lastModified } with
    | (.error failure, x) => (.error failure, x.toVisit)
    | (.ok .shortCircuited, x) => (.ok (.shortCircuited x.response), x.toVisit)
    | (.ok (.handled none), x) => (.ok (.completed x.response), x.toVisit)
    | (.ok (.handled (some view)), x) => (.ok (.view view x.response), x.toVisit)

/-- Answer a request whose upload was parsed. -/
def dispatchResolved (dispatcher : Dispatcher σ) (visit : Visit σ) :
    Except Failure Outcome × Visit σ :=
  match dispatcher.resolve visit with
  | (.error failure, visit) => (.error failure, visit)
  | (.ok none, visit) =>
      if dispatcher.failsWithoutHandler then
        (.error (.noHandler visit.request.method.name visit.request.path), visit)
      else (.ok .notFound, visit)
  | (.ok (some chain), visit) =>
      match Adapter.find dispatcher.adapters chain.handler with
      | .error failure => (.error failure, visit)
      | .ok adapter => answer chain adapter visit

/-- Answer a request.  Also says how it leaves the request and what outlives it.  The share of the
parts that the request came to the mappings with ends with the dispatch, whether or not a hook took
the parts off the request. -/
def dispatch (dispatcher : Dispatcher σ) (visit : Visit σ) : Except Failure Outcome × Visit σ :=
  let request := visit.request.exposeResolver dispatcher.localeResolver
  match UploadGuard.resolve dispatcher.upload request visit.world.storage with
  | (.error failure, storage) =>
      (.error failure, { request, world := { visit.world with storage } })
  | (.ok guard, storage) =>
      let (outcome, visit) := dispatcher.dispatchResolved
        { request := guard.request, world := { visit.world with storage } }
      let storage := ({ guard with request := visit.request }).close visit.world.storage
      let storage := guard.request.letGoUpload storage
      (outcome, { visit with world := { visit.world with storage } })

/-- Answer a request with a response, whether it fails or not. -/
def handle (dispatcher : Dispatcher σ) (visit : Visit σ) : Response × World σ :=
  match dispatcher.dispatch visit with
  | (.ok outcome, visit) => (outcome.toResponse, visit.world)
  | (.error failure, visit) => (Response.ofFailure failure, visit.world)

end Dispatcher
end WebDispatch
