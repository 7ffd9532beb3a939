import WebDispatch.Dispatch.Dispatcher

/-!
# The stages of a dispatch

A dispatch either stops before any hook is called, for one of five reasons, or reaches the chain
that a mapping found.  What it does to the state of the application is then what the stage does that
it came to.
-/

namespace WebDispatch

variable {σ : Type}

namespace Dispatcher

/-- The guard of the upload of a request. -/
def guardFor (dispatcher : Dispatcher σ) (visit : Visit σ) :
    Except Failure UploadGuard × Storage :=
  UploadGuard.resolve dispatcher.upload (visit.request.exposeResolver dispatcher.localeResolver)
    visit.world.storage

/-- The visit that the mappings get once the upload was parsed. -/
def guarded (visit : Visit σ) (guard : UploadGuard) (storage : Storage) : Visit σ :=
  { request := guard.request, world := { visit.world with storage } }

/-- A dispatch that stops before any hook is called, and the state of the application then. -/
inductive StopsEarly (dispatcher : Dispatcher σ) (visit : Visit σ) : σ → Prop where
  /-- The upload cannot be parsed. -/
  | uploadFails {failure : Failure} {storage : Storage}
      (parsed : dispatcher.guardFor visit = (.error failure, storage)) :
      StopsEarly dispatcher visit visit.world.app
  /-- A mapping fails. -/
  | mappingFails {guard : UploadGuard} {storage : Storage} {failure : Failure} {after : Visit σ}
      (parsed : dispatcher.guardFor visit = (.ok guard, storage))
      (found : dispatcher.resolve (guarded visit guard storage) = (.error failure, after)) :
      StopsEarly dispatcher visit after.world.app
  /-- No mapping finds a handler. -/
  | nothingFound {guard : UploadGuard} {storage : Storage} {after : Visit σ}
      (parsed : dispatcher.guardFor visit = (.ok guard, storage))
      (found : dispatcher.resolve (guarded visit guard storage) = (.ok none, after)) :
      StopsEarly dispatcher visit after.world.app
  /-- No adapter supports the handler. -/
  | unsupported {guard : UploadGuard} {storage : Storage} {chain : HandlerChain σ}
      {after : Visit σ} {failure : Failure}
      (parsed : dispatcher.guardFor visit = (.ok guard, storage))
      (found : dispatcher.resolve (guarded visit guard storage) = (.ok (some chain), after))
      (supported : Adapter.find dispatcher.adapters chain.handler = .error failure) :
      StopsEarly dispatcher visit after.world.app
  /-- The sender has the current state already. -/
  | notModified {guard : UploadGuard} {storage : Storage} {chain : HandlerChain σ}
      {after : Visit σ} {adapter : Adapter σ}
      (parsed : dispatcher.guardFor visit = (.ok guard, storage))
      (found : dispatcher.resolve (guarded visit guard storage) = (.ok (some chain), after))
      (supported : Adapter.find dispatcher.adapters chain.handler = .ok adapter)
      (current : (lastModified? chain adapter after.request).any (isNotModified after.request)) :
      StopsEarly dispatcher visit after.world.app

/-- A dispatch that runs a chain with an adapter, and the exchange that the run starts with. -/
inductive Reaches (dispatcher : Dispatcher σ) (visit : Visit σ) :
    HandlerChain σ → Adapter σ → Exchange σ → Prop where
  | intro {guard : UploadGuard} {storage : Storage} {chain : HandlerChain σ} {after : Visit σ}
      {adapter : Adapter σ} (parsed : dispatcher.guardFor visit = (.ok guard, storage))
      (found : dispatcher.resolve (guarded visit guard storage) = (.ok (some chain), after))
      (supported : Adapter.find dispatcher.adapters chain.handler = .ok adapter)
      (stale : ¬ (lastModified? chain adapter after.request).any (isNotModified after.request)) :
      Reaches dispatcher visit chain adapter
        { after with response := startResponse .ok (lastModified? chain adapter after.request) }

theorem stopsEarly_or_reaches (dispatcher : Dispatcher σ) (visit : Visit σ) :
    (∃ app, dispatcher.StopsEarly visit app) ∨
      ∃ chain adapter x, dispatcher.Reaches visit chain adapter x := by
  rcases parsed : dispatcher.guardFor visit with ⟨failure | guard, storage⟩
  · exact .inl ⟨_, .uploadFails parsed⟩
  rcases found : dispatcher.resolve (guarded visit guard storage) with ⟨failure | _ | chain, after⟩
  · exact .inl ⟨_, .mappingFails parsed found⟩
  · exact .inl ⟨_, .nothingFound parsed found⟩
  rcases supported : Adapter.find dispatcher.adapters chain.handler with failure | adapter
  · exact .inl ⟨_, .unsupported parsed found supported⟩
  by_cases current : (lastModified? chain adapter after.request).any (isNotModified after.request)
  · exact .inl ⟨_, .notModified parsed found supported current⟩
  · exact .inr ⟨_, _, _, .intro parsed found supported current⟩

theorem not_reaches_of_stopsEarly {dispatcher : Dispatcher σ} {visit : Visit σ} {app : σ}
    (stops : dispatcher.StopsEarly visit app) {chain : HandlerChain σ} {adapter : Adapter σ}
    {x : Exchange σ} : ¬ dispatcher.Reaches visit chain adapter x := by
  rintro ⟨parsed, found, supported, stale⟩
  cases stops <;> simp_all

/-- Closing the guard of an upload changes nothing about how a dispatch ends. -/
theorem dispatch_of_guardFor {dispatcher : Dispatcher σ} {visit : Visit σ} {guard : UploadGuard}
    {storage : Storage} (parsed : dispatcher.guardFor visit = (.ok guard, storage)) :
    (dispatcher.dispatch visit).1 = (dispatcher.dispatchResolved (guarded visit guard storage)).1 := by
  unfold guardFor at parsed
  simp only [dispatch, parsed]
  rfl

/-- A dispatch that stops early without a failure has found nothing, or nothing new. -/
theorem outcome_of_stopsEarly {dispatcher : Dispatcher σ} {visit : Visit σ} {app : σ}
    (stops : dispatcher.StopsEarly visit app) {outcome : Outcome}
    (ended : (dispatcher.dispatch visit).1 = .ok outcome) :
    outcome = .notFound ∨
      ∃ lastModified, outcome = .notModified (startResponse .notModified lastModified) := by
  cases stops with
  | uploadFails parsed =>
      unfold guardFor at parsed
      simp only [dispatch, parsed, reduceCtorEq] at ended
  | mappingFails parsed found =>
      simp only [dispatch_of_guardFor parsed, dispatchResolved, found, reduceCtorEq] at ended
  | nothingFound parsed found =>
      simp only [dispatch_of_guardFor parsed, dispatchResolved, found] at ended
      split at ended
      · contradiction
      · exact .inl (Except.ok.inj ended).symm
  | unsupported parsed found supported =>
      simp only [dispatch_of_guardFor parsed, dispatchResolved, found, supported,
        reduceCtorEq] at ended
  | notModified parsed found supported current =>
      simp only [dispatch_of_guardFor parsed, dispatchResolved, found, supported, answer, current,
        if_true] at ended
      exact .inr ⟨_, (Except.ok.inj ended).symm⟩

/-- Closing the guard of an upload leaves the state of the application alone. -/
theorem app_dispatch_of_guardFor {dispatcher : Dispatcher σ} {visit : Visit σ}
    {guard : UploadGuard} {storage : Storage}
    (parsed : dispatcher.guardFor visit = (.ok guard, storage)) :
    (dispatcher.dispatch visit).2.world.app =
      (dispatcher.dispatchResolved (guarded visit guard storage)).2.world.app := by
  unfold guardFor at parsed
  simp only [dispatch, parsed]
  rfl

theorem app_dispatch_of_stopsEarly {dispatcher : Dispatcher σ} {visit : Visit σ} {app : σ}
    (stops : dispatcher.StopsEarly visit app) : (dispatcher.dispatch visit).2.world.app = app := by
  cases stops with
  | uploadFails parsed =>
      unfold guardFor at parsed
      simp only [dispatch, parsed]
  | mappingFails parsed found =>
      simp only [app_dispatch_of_guardFor parsed, dispatchResolved, found]
  | nothingFound parsed found =>
      simp only [app_dispatch_of_guardFor parsed, dispatchResolved, found]
      split <;> rfl
  | unsupported parsed found supported =>
      simp only [app_dispatch_of_guardFor parsed, dispatchResolved, found, supported]
  | notModified parsed found supported current =>
      simp only [app_dispatch_of_guardFor parsed, dispatchResolved, found, supported, answer,
        current, if_true]

theorem app_dispatch_of_reaches {dispatcher : Dispatcher σ} {visit : Visit σ}
    {chain : HandlerChain σ} {adapter : Adapter σ} {x : Exchange σ}
    (reaches : dispatcher.Reaches visit chain adapter x) :
    (dispatcher.dispatch visit).2.world.app = (chain.run adapter x).2.world.app := by
  cases reaches with
  | intro parsed found supported stale =>
      simp only [app_dispatch_of_guardFor parsed, dispatchResolved, found, supported, answer,
        stale, Bool.false_eq_true, if_false]
      split <;> simp_all only

end Dispatcher
end WebDispatch
