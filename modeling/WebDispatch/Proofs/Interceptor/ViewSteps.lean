import WebDispatch.Dispatch.Dispatcher
import WebDispatch.Proofs.Interceptor.HookCalls

/-!
# The view between hooks

A view that a handler returns is shown to one hook after the other, and each of them is shown what
the one before it left.  So a view with a name keeps it until a hook puts a view without one in its
place: `HandedOn.shown_hasView` and `HandedOn.last_hasView`.
-/

namespace WebDispatch

/-- One call of a hook that sees the view. -/
structure ViewStep where
  /-- The view that the hook is shown. -/
  shown : ModelAndView
  /-- The view that the hook leaves. -/
  left : ModelAndView

/-- The hook puts a view without a name in the place of one with a name. -/
def ViewStep.Unnames (step : ViewStep) : Prop :=
  step.shown.hasView = true ∧ step.left.hasView = false

/-- A view that is handed from hook to hook: the first step is shown the first view, every other one
what the step before it left, and the last view is what the last step left. -/
inductive HandedOn : ModelAndView → List ViewStep → ModelAndView → Prop
  | refl (view : ModelAndView) : HandedOn view [] view
  | head {shown left last : ModelAndView} {rest : List ViewStep} (later : HandedOn left rest last) :
      HandedOn shown (⟨shown, left⟩ :: rest) last

namespace HandedOn

variable {view last : ModelAndView} {steps : List ViewStep}

/-- A view that a step is shown has a name if the first one has, unless an earlier step took it. -/
theorem shown_hasView (handed : HandedOn view steps last) (named : view.hasView = true)
    {front back : List ViewStep} {step : ViewStep} (split : steps = front ++ step :: back) :
    step.shown.hasView = true ∨ ∃ earlier ∈ front, earlier.Unnames := by
  induction handed generalizing front with
  | refl => simp at split
  | @head shown left last rest later ih =>
      cases front with
      | nil =>
          obtain ⟨rfl, -⟩ : ⟨shown, left⟩ = step ∧ rest = back := by simpa using split
          exact .inl named
      | cons first front =>
          obtain ⟨rfl, rest_split⟩ : ⟨shown, left⟩ = first ∧ rest = front ++ step :: back := by
            simpa using split
          cases left_named : left.hasView with
          | true =>
              refine (ih left_named rest_split).imp_right ?_
              rintro ⟨earlier, listed, unnames⟩
              exact ⟨earlier, List.mem_cons_of_mem _ listed, unnames⟩
          | false => exact .inr ⟨_, List.mem_cons_self, named, left_named⟩

/-- The last view has a name if the first one has, unless a step took it. -/
theorem last_hasView (handed : HandedOn view steps last) (named : view.hasView = true) :
    last.hasView = true ∨ ∃ step ∈ steps, step.Unnames := by
  induction handed with
  | refl => exact .inl named
  | @head shown left last rest later ih =>
      cases left_named : left.hasView with
      | true =>
          refine (ih left_named).imp_right ?_
          rintro ⟨step, listed, unnames⟩
          exact ⟨step, List.mem_cons_of_mem _ listed, unnames⟩
      | false => exact .inr ⟨_, List.mem_cons_self, named, left_named⟩

end HandedOn

theorem ModelAndView.hasView_withDefaultView (view : ModelAndView) (name : String) :
    (view.withDefaultView name).hasView = true := rfl

variable {σ : Type}

namespace Interceptor

/-- The calls of the hooks that see a view, in the order of the list, up to the first that fails. -/
def viewSteps (handler : Handler σ) :
    List (Interceptor σ) → ModelAndView → Exchange σ → List ViewStep
  | [], _, _ => []
  | interceptor :: rest, view, x =>
      match interceptor.postHandle handler (some view) x with
      | (.ok _, changed, x) =>
          ⟨view, changed.getD view⟩ :: viewSteps handler rest (changed.getD view) x
      | (.error _, changed, _) => [⟨view, changed.getD view⟩]

/-- The view of a run of the hooks that see it is handed on from one to the next. -/
theorem handedOn_viewSteps (handler : Handler σ) (interceptors : List (Interceptor σ))
    (view : ModelAndView) (x : Exchange σ) :
    ∃ last, HandedOn view (viewSteps handler interceptors view x) last ∧
      (postAll handler interceptors (some view) x).2.1 = some last := by
  induction interceptors generalizing view x with
  | nil => exact ⟨view, .refl view, rfl⟩
  | cons interceptor rest ih =>
      unfold viewSteps postAll
      rcases interceptor.postHandle handler (some view) x with ⟨failure | ⟨⟩, changed, y⟩
      · exact ⟨changed.getD view, .head (.refl _), rfl⟩
      · obtain ⟨last, handed, last_eq⟩ := ih (changed.getD view) y
        exact ⟨last, .head handed, last_eq⟩

theorem postAll_none (handler : Handler σ) (interceptors : List (Interceptor σ))
    (x : Exchange σ) : (postAll handler interceptors none x).2.1 = none := by
  induction interceptors generalizing x with
  | nil => rfl
  | cons interceptor rest ih =>
      unfold postAll
      rcases interceptor.postHandle handler none x with ⟨failure | ⟨⟩, changed, y⟩
      · rfl
      · exact ih y

end Interceptor

namespace HandlerChain

/-- The calls of the hooks that see the view in a run of a handler among its interceptors. -/
def viewSteps (chain : HandlerChain σ) (adapter : Adapter σ) (x : Exchange σ) : List ViewStep :=
  match Interceptor.enterAll chain.handler chain.interceptors x with
  | ((.ok true, _), x) =>
      match adapter.handle chain.handler x with
      | (.ok (some view), x) =>
          Interceptor.viewSteps chain.handler chain.interceptors.reverse
            (view.withDefaultView (defaultViewName x.request.path)) x
      | _ => []
  | _ => []

/-- The path of the request as the handler leaves it, which a view without a name is named after. -/
def handledPath (chain : HandlerChain σ) (adapter : Adapter σ) (x : Exchange σ) : String :=
  let entered := (Interceptor.enterAll chain.handler chain.interceptors x).2
  (adapter.handle chain.handler entered).2.request.path

end HandlerChain
end WebDispatch
