import WebDispatch.Handler.Basic

/-!
# Interceptors

Code that runs around a handler.  Each interceptor has three hooks: one before the handler, which
may end the request there; one after a handler that succeeded, which may still change the view; and
one when the request is complete, whatever the outcome.
-/

namespace WebDispatch

/-- An interceptor. -/
structure Interceptor (σ : Type) where
  /-- The name. -/
  name : String
  /-- Runs before the handler and says whether to go on. -/
  preHandle : Handler σ → Exchange σ → Except Failure Bool × Exchange σ :=
    fun _ x => (.ok true, x)
  /-- Runs after a handler that succeeded, and sees the view if there is one. -/
  postHandle : Handler σ → Option ModelAndView → Exchange σ →
      Except Failure Unit × Option ModelAndView × Exchange σ :=
    fun _ view x => (.ok (), view, x)
  /-- Runs when the request is complete, and sees the failure if there was one. -/
  afterCompletion : Handler σ → Option Failure → Exchange σ → Except Failure Unit × Exchange σ :=
    fun _ _ x => (.ok (), x)

/-- An interceptor for some paths only. -/
structure MappedInterceptor (σ : Type) where
  /-- The patterns of the paths that it is for; all of them if empty. -/
  includes : List PathPattern
  /-- The patterns of the paths that it is not for, whatever includes them. -/
  excludes : List PathPattern
  /-- The interceptor. -/
  interceptor : Interceptor σ

namespace MappedInterceptor

variable {σ : Type}

/-- Limit an interceptor to the paths that match the patterns. -/
def make (includes excludes : List String) (interceptor : Interceptor σ) :
    Except Failure (MappedInterceptor σ) := do
  let includes ← includes.mapM PathPattern.compile
  let excludes ← excludes.mapM PathPattern.compile
  return { includes, excludes, interceptor }

/-- Whether the interceptor is for a path. -/
def covers (mapped : MappedInterceptor σ) (path : String) : Bool :=
  !mapped.excludes.any (·.isMatch path) &&
    (mapped.includes.isEmpty || mapped.includes.any (·.isMatch path))

end MappedInterceptor
end WebDispatch
