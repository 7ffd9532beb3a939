import WebDispatch.Http.Request
import WebDispatch.Http.Response

/-!
# What a request is answered in

A request is answered step by step, and each step may change the request, the response and what
outlives them: the storage of uploads and the state of the application, which may be of any type.
Whatever a step did before it failed stays done.
-/

namespace WebDispatch

/-- What outlives a request. -/
structure World (σ : Type) where
  /-- The storage of uploads. -/
  storage : Storage := {}
  /-- The state of the application. -/
  app : σ

/-- A request before there is a response. -/
structure Visit (σ : Type) where
  /-- The request. -/
  request : Request
  /-- What outlives the request. -/
  world : World σ

/-- A request and the response under construction. -/
structure Exchange (σ : Type) extends Visit σ where
  /-- The response. -/
  response : Response

namespace Exchange

variable {σ : Type}

/-- The exchange with what outlives the request replaced. -/
def withWorld (x : Exchange σ) (world : World σ) : Exchange σ := { x with world }

end Exchange
end WebDispatch
