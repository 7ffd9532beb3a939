import WebDispatch.Dispatch.ModelAndView
import WebDispatch.Handler.Route
import WebDispatch.Time.Calendar

/-!
# Handlers

What a request is handed to.  There are several kinds, and handlers of a kind of one's own are told
apart by their name and hold a value.
-/

namespace WebDispatch

/-- A handler that writes the response or leaves it to a view. -/
structure Controller (σ : Type) where
  /-- The name. -/
  name : String
  /-- Answer a request; without a view, the response is as it should be. -/
  handle : Exchange σ → Except Failure (Option ModelAndView) × Exchange σ
  /-- When what a request asks for has last changed, if that is known. -/
  lastModified : Request → Option Instant := fun _ => none

/-- A handler that writes the response. -/
structure RequestWriter (σ : Type) where
  /-- The name. -/
  name : String
  /-- Answer a request. -/
  handle : Exchange σ → Except Failure Unit × Exchange σ

/-- The value of a handler of one's own kind. -/
inductive Payload where
  /-- A number of 32 bits. -/
  | word (value : Nat)
  /-- A text. -/
  | text (value : String)
  deriving DecidableEq, Repr

namespace Payload

/-- The number, if the value is one. -/
def word? : Payload → Option Nat
  | word value => some value
  | text _ => none

/-- The text, if the value is one. -/
def text? : Payload → Option String
  | text value => some value
  | word _ => none

end Payload

/-- What a handler does. -/
inductive HandlerKind (σ : Type) where
  | route (route : Route σ)
  | controller (controller : Controller σ)
  | writer (writer : RequestWriter σ)
  | custom (name : String) (payload : Payload)

/-- A handler. -/
structure Handler (σ : Type) where
  /-- The number by which copies of the handler are known to be the same. -/
  number : Nat
  /-- What the handler does. -/
  kind : HandlerKind σ

namespace Handler

variable {σ : Type}

/-- The handler of a route. -/
def ofRoute (route : Route σ) : Handler σ := ⟨route.number, .route route⟩

/-- The description of a handler. -/
def description (handler : Handler σ) : String :=
  match handler.kind with
  | .route route => route.description
  | .controller controller => "controller " ++ controller.name
  | .writer writer => "http request handler " ++ writer.name
  | .custom name _ => "custom handler " ++ name

/-- What identifies a handler. -/
def tag (handler : Handler σ) : HandlerTag := ⟨handler.number, handler.description⟩

/-- Whether two handlers are copies of one. -/
def sameAs (a b : Handler σ) : Bool := a.number == b.number

/-- The value of a handler of one's own kind. -/
def payload? (handler : Handler σ) : Option Payload :=
  match handler.kind with
  | .custom _ payload => some payload
  | _ => none

end Handler
end WebDispatch
