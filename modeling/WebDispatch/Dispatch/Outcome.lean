import WebDispatch.Dispatch.ModelAndView
import WebDispatch.Handler.Adapter

/-!
# Outcomes

How answering a request ends if it does not fail, and the response that is sent then.
-/

namespace WebDispatch

/-- The outcome of answering a request. -/
inductive Outcome where
  /-- The handler left the response to a view. -/
  | view (view : ModelAndView) (response : Response)
  /-- The handler wrote the response. -/
  | completed (response : Response)
  /-- An interceptor did not let the handler answer. -/
  | shortCircuited (response : Response)
  /-- The sender has the current state already. -/
  | notModified (response : Response)
  /-- There is no handler for the request. -/
  | notFound

namespace Outcome

/-- The name of an outcome. -/
def name : Outcome → String
  | view _ _ => "View"
  | completed _ => "Completed"
  | shortCircuited _ => "ShortCircuited"
  | notModified _ => "NotModified"
  | notFound => "NotFound"

/-- The view that the response is left to. -/
def view? : Outcome → Option ModelAndView
  | view shown _ => some shown
  | _ => none

/-- The response that was written; a view is not shown in it. -/
def response? : Outcome → Option Response
  | view _ response => some response
  | completed response => some response
  | shortCircuited response => some response
  | notModified response => some response
  | notFound => none

/-- The response that shows a view: it keeps the headers and cookies of the response under
construction, and its status unless the view sets one. -/
def render (view : ModelAndView) (response : Response) : Response :=
  let rendered := view.toResponse
  let status := if view.status.isSome then rendered.status else response.status
  { ({ rendered with status }).completeHeaders response.headers with cookies := response.cookies }

/-- The response that is sent. -/
def toResponse : Outcome → Response
  | view shown response => render shown response
  | completed response => response
  | shortCircuited response => response
  | notModified response => response
  | notFound => .notFound

end Outcome
end WebDispatch
