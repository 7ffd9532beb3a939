import WebDispatch.Proofs.Dispatch.HookOrder

/-!
# The moments of a run

A run of a handler among its interceptors is a sequence of calls, each of which is given the
exchange that the call before it left.  So what every call keeps holds at every moment of the run:
`HandlerChain.passes_moments` and `HandlerChain.Passes.forall_mem`.
-/

namespace WebDispatch

variable {σ : Type}

namespace Interceptor

/-- What the first hooks leave, in order, up to the first that fails or does not go on. -/
def enterMoments (handler : Handler σ) : List (Interceptor σ) → Exchange σ → List (Exchange σ)
  | [], _ => []
  | interceptor :: rest, x =>
      match interceptor.preHandle handler x with
      | (.ok true, y) => y :: enterMoments handler rest y
      | (_, y) => [y]

/-- What the hooks that see the view leave, in the order of the list, up to the first that fails. -/
def postMoments (handler : Handler σ) :
    List (Interceptor σ) → Option ModelAndView → Exchange σ → List (Exchange σ)
  | [], _, _ => []
  | interceptor :: rest, view, x =>
      match interceptor.postHandle handler view x with
      | (.ok _, changed, y) => y :: postMoments handler rest (keptView view changed) y
      | (.error _, _, y) => [y]

/-- What the last hooks leave, in the order of the list. -/
def completeMoments (handler : Handler σ) (failure : Option Failure) :
    List (Interceptor σ) → Exchange σ → List (Exchange σ)
  | [], _ => []
  | interceptor :: rest, x =>
      let y := (interceptor.afterCompletion handler failure x).2
      y :: completeMoments handler failure rest y

end Interceptor

namespace HandlerChain

/-- What the handler leaves, and then the hooks that see the view. -/
def handlerMoments (chain : HandlerChain σ) (adapter : Adapter σ) (x : Exchange σ) :
    List (Exchange σ) :=
  match adapter.handle chain.handler x with
  | (.error _, y) => [y]
  | (.ok view, y) =>
      y :: Interceptor.postMoments chain.handler chain.interceptors.reverse
        (view.map (·.withDefaultView (defaultViewName y.request.path))) y

/-- What the last hooks of the first `entered` interceptors leave. -/
def leaveMoments (chain : HandlerChain σ) (entered : Nat) (failure : Option Failure)
    (x : Exchange σ) : List (Exchange σ) :=
  Interceptor.completeMoments chain.handler failure (chain.interceptors.take entered).reverse x

/-- What the calls of a run leave, in order. -/
def moments (chain : HandlerChain σ) (adapter : Adapter σ) (x : Exchange σ) : List (Exchange σ) :=
  Interceptor.enterMoments chain.handler chain.interceptors x ++
    match Interceptor.enterAll chain.handler chain.interceptors x with
    | ((.error failure, entered), y) => chain.leaveMoments entered (some failure) y
    | ((.ok false, entered), y) => chain.leaveMoments entered none y
    | ((.ok true, entered), y) =>
        chain.handlerMoments adapter y ++
          match chain.runHandler adapter y with
          | (.error failure, z) => chain.leaveMoments entered (some failure) z
          | (.ok _, z) => chain.leaveMoments entered none z

/-- The first exchange is the one that a hook or the handler of a chain is given, and the second the
one that it leaves. -/
inductive Calls (chain : HandlerChain σ) (adapter : Adapter σ) : Exchange σ → Exchange σ → Prop
  /-- A first hook. -/
  | pre {interceptor : Interceptor σ} (listed : interceptor ∈ chain.interceptors)
      (x : Exchange σ) : Calls chain adapter x (interceptor.preHandle chain.handler x).2
  /-- The handler. -/
  | handle (x : Exchange σ) : Calls chain adapter x (adapter.handle chain.handler x).2
  /-- A hook that sees the view. -/
  | post {interceptor : Interceptor σ} (listed : interceptor ∈ chain.interceptors)
      (view : Option ModelAndView) (x : Exchange σ) :
      Calls chain adapter x (interceptor.postHandle chain.handler view x).2.2
  /-- A last hook. -/
  | after {interceptor : Interceptor σ} (listed : interceptor ∈ chain.interceptors)
      (failure : Option Failure) (x : Exchange σ) :
      Calls chain adapter x (interceptor.afterCompletion chain.handler failure x).2

/-- Calls that follow each other, and what each of them leaves. -/
inductive Passes (chain : HandlerChain σ) (adapter : Adapter σ) :
    Exchange σ → List (Exchange σ) → Exchange σ → Prop
  | refl (x : Exchange σ) : Passes chain adapter x [] x
  | head {x y last : Exchange σ} {rest : List (Exchange σ)} (call : chain.Calls adapter x y)
      (later : Passes chain adapter y rest last) : Passes chain adapter x (y :: rest) last

namespace Passes

variable {chain : HandlerChain σ} {adapter : Adapter σ} {x y z : Exchange σ}
  {front back : List (Exchange σ)}

theorem trans (one : chain.Passes adapter x front y) (two : chain.Passes adapter y back z) :
    chain.Passes adapter x (front ++ back) z := by
  induction one with
  | refl => exact two
  | head call _ ih => exact .head call (ih two)

/-- What every call keeps holds at every moment. -/
theorem forall_mem {P : Exchange σ → Prop} (passes : chain.Passes adapter x front y)
    (kept : ∀ {before after}, chain.Calls adapter before after → P before → P after)
    (start : P x) : ∀ moment ∈ x :: front, P moment := by
  induction passes with
  | refl => simpa using start
  | head call _ ih => exact List.forall_mem_cons.mpr ⟨start, ih (kept call start)⟩

theorem last_mem (passes : chain.Passes adapter x front y) : y ∈ x :: front := by
  induction passes with
  | refl => exact List.mem_cons_self
  | head _ _ ih => exact List.mem_cons_of_mem _ ih

end Passes

section Runs

variable (chain : HandlerChain σ) (adapter : Adapter σ)

theorem passes_enterMoments {interceptors : List (Interceptor σ)}
    (around : ∀ interceptor ∈ interceptors, interceptor ∈ chain.interceptors) (x : Exchange σ) :
    chain.Passes adapter x (Interceptor.enterMoments chain.handler interceptors x)
      (Interceptor.enterAll chain.handler interceptors x).2 := by
  induction interceptors generalizing x with
  | nil => exact .refl x
  | cons interceptor rest ih =>
      obtain ⟨listed, rest_around⟩ := List.forall_mem_cons.mp around
      have call : chain.Calls adapter x (interceptor.preHandle chain.handler x).2 :=
        .pre listed x
      unfold Interceptor.enterMoments Interceptor.enterAll
      rcases pre_eq : interceptor.preHandle chain.handler x with ⟨_ | _ | _, y⟩ <;>
        rw [pre_eq] at call
      · exact .head call (.refl y)
      · exact .head call (.refl y)
      · exact .head call (ih rest_around y)

theorem passes_postMoments {interceptors : List (Interceptor σ)}
    (around : ∀ interceptor ∈ interceptors, interceptor ∈ chain.interceptors)
    (view : Option ModelAndView) (x : Exchange σ) :
    chain.Passes adapter x (Interceptor.postMoments chain.handler interceptors view x)
      (Interceptor.postAll chain.handler interceptors view x).2.2 := by
  induction interceptors generalizing view x with
  | nil => exact .refl x
  | cons interceptor rest ih =>
      obtain ⟨listed, rest_around⟩ := List.forall_mem_cons.mp around
      have call : chain.Calls adapter x (interceptor.postHandle chain.handler view x).2.2 :=
        .post listed view x
      unfold Interceptor.postMoments Interceptor.postAll
      rcases post_eq : interceptor.postHandle chain.handler view x with ⟨_ | _, changed, y⟩ <;>
        rw [post_eq] at call
      · exact .head call (.refl y)
      · exact .head call (ih rest_around _ y)

theorem passes_completeMoments {interceptors : List (Interceptor σ)}
    (around : ∀ interceptor ∈ interceptors, interceptor ∈ chain.interceptors)
    (failure : Option Failure) (x : Exchange σ) :
    chain.Passes adapter x (Interceptor.completeMoments chain.handler failure interceptors x)
      (Interceptor.completeAll chain.handler failure interceptors x).2 := by
  induction interceptors generalizing x with
  | nil => exact .refl x
  | cons interceptor rest ih =>
      obtain ⟨listed, rest_around⟩ := List.forall_mem_cons.mp around
      have call : chain.Calls adapter x (interceptor.afterCompletion chain.handler failure x).2 :=
        .after listed failure x
      simp only [Interceptor.completeMoments, Interceptor.completeAll]
      split <;> exact .head call (ih rest_around _)

theorem passes_handlerMoments (x : Exchange σ) :
    chain.Passes adapter x (chain.handlerMoments adapter x) (chain.runHandler adapter x).2 := by
  have call : chain.Calls adapter x (adapter.handle chain.handler x).2 := .handle x
  unfold handlerMoments runHandler
  rcases handle_eq : adapter.handle chain.handler x with ⟨failure | view, y⟩ <;>
    rw [handle_eq] at call
  · exact .head call (.refl y)
  · have around : ∀ interceptor ∈ chain.interceptors.reverse, interceptor ∈ chain.interceptors :=
      fun _ listed => List.mem_reverse.mp listed
    have posted := chain.passes_postMoments adapter around
      (view.map (·.withDefaultView (defaultViewName y.request.path))) y
    simp only
    split <;> simp_all only <;> exact .head call posted

theorem passes_leaveMoments (entered : Nat) (failure : Option Failure) (x : Exchange σ) :
    chain.Passes adapter x (chain.leaveMoments entered failure x)
      (chain.leave entered failure x).2 :=
  chain.passes_completeMoments adapter
    (fun _ listed => List.mem_of_mem_take (List.mem_reverse.mp listed)) failure x

/-- A run passes through its moments, one call after the other. -/
theorem passes_moments (x : Exchange σ) :
    chain.Passes adapter x (chain.moments adapter x) (chain.run adapter x).2 := by
  have entering := chain.passes_enterMoments adapter (fun _ listed => listed) x
  have leaving := chain.passes_leaveMoments adapter
  unfold moments run
  rcases enter_eq : Interceptor.enterAll chain.handler chain.interceptors x with
    ⟨⟨failure | _ | _, entered⟩, y⟩ <;> rw [enter_eq] at entering <;> simp only
  · exact entering.trans (leaving entered (some failure) y)
  · rw [succeed_eq]
    exact entering.trans (leaving entered none y)
  · have handling := chain.passes_handlerMoments adapter y
    rcases handler_eq : chain.runHandler adapter y with ⟨failure | view, z⟩ <;>
      rw [handler_eq] at handling
    · exact entering.trans (handling.trans (leaving entered (some failure) z))
    · simp only [succeed_eq]
      exact entering.trans (handling.trans (leaving entered none z))

end Runs

end HandlerChain
end WebDispatch
