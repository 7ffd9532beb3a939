import Mathlib.Logic.Basic
import Mathlib.Tactic.ByContra
import WebDispatch.Proofs.Mapping.Publishing

/-!
# What earlier resolutions leave

When a request is resolved again, a strategy overwrites only the attributes that it publishes
itself.  So the attributes are those of a fresh request exactly if all earlier resolutions that
found something were won by strategies of the same kind.  `Strategy.leaveAll_of_allWonBy` and
`Strategy.isSome_leaveAll_telltale` say what a run of resolutions keeps, and
`MappingRegistry.resolveAs_after_earlier` is the result.
-/

namespace WebDispatch

variable {σ : Type}

/-- The strategies that publish attributes. -/
inductive Strategy (σ : Type) where
  | routes (mapping : RouteMapping σ)
  | urls (mapping : UrlMapping σ)

namespace Strategy

/-- The strategy as a mapping. -/
def toMapping : Strategy σ → Mapping σ
  | routes mapping => mapping.toMapping
  | urls mapping => mapping.toMapping

/-- The kinds of strategies. -/
inductive Kind where
  | routes
  | urls
  deriving DecidableEq, Repr

namespace Kind

/-- Whether a strategy replaces or removes an attribute when it finds something. -/
def settles : Kind → Published → Bool
  | routes, item => item ≠ .introspectTypeLevelMapping
  | urls, item => item ∈ [.bestMatchingHandler, .pathWithinMapping, .bestMatchingPattern,
      .introspectTypeLevelMapping]

/-- An attribute that strategies of the other kind always publish and that those of this kind leave
alone. -/
def telltale : Kind → Published
  | routes => .introspectTypeLevelMapping
  | urls => .uriTemplateVariables

@[simp]
theorem settles_telltale (kind other : Kind) :
    kind.settles other.telltale = decide (kind ≠ other) := by
  cases kind <;> cases other <;> rfl

end Kind

/-- What a strategy finds for a method and a path. -/
structure Finding (σ : Type) where
  /-- The kind of the strategy. -/
  kind : Kind
  /-- The handler among its interceptors. -/
  chain : HandlerChain σ
  /-- The attributes that are published. -/
  published : Published → Option Attribute
  /-- Only attributes are published that the strategy settles. -/
  published_of_not_settles : ∀ item, kind.settles item = false → published item = none
  /-- The attributes are published that strategies of the other kind leave alone. -/
  isSome_published_telltale : ∀ other, other ≠ kind → (published other.telltale).isSome

namespace Finding

/-- What a mapping of routes finds. -/
def ofRoute (mapping : RouteMapping σ) (path : String) (route : Route σ)
    (captured : Dict String) : Finding σ where
  kind := .routes
  chain :=
    { handler := Handler.ofRoute route
      interceptors := mapping.interceptorsFor (Matrix.lookupPath path) }
  published := RouteMapping.published? route (Matrix.lookupPath path) captured (Matrix.ofPath path)
  published_of_not_settles := by
    intro item kept
    obtain rfl : item = .introspectTypeLevelMapping := by simpa [Kind.settles] using kept
    rfl
  isSome_published_telltale := by
    intro other differs
    cases other
    · contradiction
    · rfl

/-- What a mapping of URLs finds. -/
def ofUrl (mapping : UrlMapping σ) (found : UrlMatch σ) : Finding σ where
  kind := .urls
  chain := { handler := found.handler, interceptors := mapping.interceptors }
  published := UrlMapping.published? found
  published_of_not_settles := by
    intro item kept
    cases item <;> simp_all [Kind.settles, UrlMapping.published?]
  isSome_published_telltale := by
    intro other differs
    cases other
    · rfl
    · contradiction

/-- The attributes after a finding is published. -/
def applied (finding : Finding σ) (before : Published → Option Attribute)
    (item : Published) : Option Attribute :=
  if finding.kind.settles item then finding.published item else before item

end Finding

/-- What a strategy finds for a method and a path. -/
def find? : Strategy σ → Method → String → Option (Finding σ)
  | routes mapping, method, path =>
      (mapping.match? method (Matrix.lookupPath path)).map fun (route, captured) =>
        .ofRoute mapping path route captured
  | urls mapping, _, path => (mapping.match? path).map (.ofUrl mapping)

/-- What the first of some strategies finds that finds something. -/
def findFirst? (strategies : List (Strategy σ)) (method : Method) (path : String) :
    Option (Finding σ) :=
  strategies.findSome? fun strategy => strategy.find? method path

/-- The attributes after a resolution: those before it if nothing is found. -/
def leave (found : Option (Finding σ)) (before : Published → Option Attribute) :
    Published → Option Attribute :=
  match found with
  | none => before
  | some finding => finding.applied before

/-- A strategy returns what it finds and publishes it, and changes nothing if it finds nothing. -/
theorem find_toMapping (strategy : Strategy σ) (visit : Visit σ) :
    match strategy.find? visit.request.method visit.request.path with
    | none => strategy.toMapping.find visit = (.ok none, visit)
    | some finding =>
        (strategy.toMapping.find visit).1 = .ok (some finding.chain) ∧
          (strategy.toMapping.find visit).2.request.attribute? =
            finding.applied visit.request.attribute? := by
  cases strategy with
  | routes mapping =>
      simp only [find?, toMapping, RouteMapping.toMapping]
      rcases matched : mapping.match? visit.request.method
        (Matrix.lookupPath visit.request.path) with _ | ⟨route, captured⟩
      · exact RouteMapping.find_of_match?_eq_none matched
      · simp only [Option.map_some, RouteMapping.find_of_match?_eq_some matched]
        refine ⟨rfl, funext fun item => ?_⟩
        rw [RouteMapping.attribute?_publish]
        by_cases kept : item = .introspectTypeLevelMapping <;>
          simp [Finding.applied, Finding.ofRoute, Kind.settles, kept]
  | urls mapping =>
      simp only [find?, toMapping, UrlMapping.toMapping, UrlMapping.find]
      rcases mapping.match? visit.request.path with _ | found
      · rfl
      · refine ⟨rfl, funext fun item => ?_⟩
        change (UrlMapping.publish visit.request found).attribute? item = _
        rw [UrlMapping.attribute?_publish]
        cases item <;> rfl

/-- A list of strategies returns what the first of them finds that finds something. -/
theorem firstFound_toMapping (strategies : List (Strategy σ)) (visit : Visit σ) :
    (MappingRegistry.firstFound (strategies.map toMapping) visit).1 =
        .ok ((findFirst? strategies visit.request.method visit.request.path).map
          Finding.chain) ∧
      (MappingRegistry.firstFound (strategies.map toMapping) visit).2.request.attribute? =
        leave (findFirst? strategies visit.request.method visit.request.path)
          visit.request.attribute? := by
  induction strategies with
  | nil => exact ⟨rfl, rfl⟩
  | cons strategy rest ih =>
      have found_eq := strategy.find_toMapping visit
      rw [List.map_cons, MappingRegistry.firstFound, findFirst?, List.findSome?_cons]
      rcases find_eq : strategy.find? visit.request.method visit.request.path with _ | finding <;>
        rw [find_eq] at found_eq <;> simp only at found_eq
      · rw [found_eq]
        exact ih
      · rcases result_eq : strategy.toMapping.find visit with ⟨result, after⟩
        rw [result_eq] at found_eq
        obtain ⟨rfl, attributes_eq⟩ : result = _ ∧ _ := found_eq
        exact ⟨rfl, attributes_eq⟩

/-! ## Runs of resolutions -/

/-- The attributes after resolutions of some methods and paths. -/
def leaveAll (strategies : List (Strategy σ)) (earlier : List (Method × String))
    (before : Published → Option Attribute) : Published → Option Attribute :=
  earlier.foldl (fun before (method, path) =>
    leave (findFirst? strategies method path) before) before

/-- The strategies that win resolutions of some methods and paths are all of one kind. -/
def AllWonBy (strategies : List (Strategy σ)) (kind : Kind) (earlier : List (Method × String)) :
    Prop :=
  ∀ pair ∈ earlier, ∀ finding, findFirst? strategies pair.1 pair.2 = some finding →
    finding.kind = kind

theorem leaveAll_cons (strategies : List (Strategy σ)) (pair : Method × String)
    (earlier : List (Method × String)) (before : Published → Option Attribute) :
    leaveAll strategies (pair :: earlier) before =
      leaveAll strategies earlier (leave (findFirst? strategies pair.1 pair.2) before) :=
  rfl

theorem allWonBy_cons {strategies : List (Strategy σ)} {kind : Kind} {pair : Method × String}
    {earlier : List (Method × String)} :
    AllWonBy strategies kind (pair :: earlier) ↔
      (∀ finding, findFirst? strategies pair.1 pair.2 = some finding → finding.kind = kind) ∧
        AllWonBy strategies kind earlier :=
  List.forall_mem_cons

/-- Strategies of one kind leave the attributes alone that they do not settle. -/
theorem leaveAll_of_allWonBy {strategies : List (Strategy σ)} {kind : Kind}
    {earlier : List (Method × String)} (won : AllWonBy strategies kind earlier)
    (before : Published → Option Attribute) {item : Published}
    (kept : kind.settles item = false) :
    leaveAll strategies earlier before item = before item := by
  induction earlier generalizing before with
  | nil => rfl
  | cons pair earlier ih =>
      obtain ⟨first_won, rest_won⟩ := allWonBy_cons.mp won
      rw [leaveAll_cons, ih rest_won]
      rcases found : findFirst? strategies pair.1 pair.2 with _ | finding
      · rfl
      · simp [leave, Finding.applied, first_won finding found, kept]

/-- The attribute that strategies of one kind leave alone stays once it is there, and is there once
a strategy of the other kind has won. -/
theorem isSome_leaveAll_telltale (strategies : List (Strategy σ)) (kind : Kind)
    (earlier : List (Method × String)) (before : Published → Option Attribute) :
    (leaveAll strategies earlier before kind.telltale).isSome ↔
      (before kind.telltale).isSome ∨ ¬ AllWonBy strategies kind earlier := by
  induction earlier generalizing before with
  | nil => simp [leaveAll, AllWonBy]
  | cons pair earlier ih =>
      rw [leaveAll_cons, ih, allWonBy_cons, not_and_or, ← or_assoc]
      refine or_congr_left ?_
      rcases found : findFirst? strategies pair.1 pair.2 with _ | finding
      · simp [leave]
      · by_cases same : finding.kind = kind
        · simp [leave, Finding.applied, same]
        · have published := finding.isSome_published_telltale kind (Ne.symm same)
          simp [leave, Finding.applied, same, published]

end Strategy

namespace MappingRegistry

/-- Resolve a request once more, as a request of a method and a path. -/
def resolveAs (registry : MappingRegistry σ) (method : Method) (path : String) (visit : Visit σ) :
    Except Failure (Option (HandlerChain σ)) × Visit σ :=
  registry.resolve { visit with request := { visit.request with method, path } }

/-- The visit after resolutions of some methods and paths. -/
def resolveAll (registry : MappingRegistry σ) (earlier : List (Method × String))
    (visit : Visit σ) : Visit σ :=
  earlier.foldl (fun visit (method, path) => (registry.resolveAs method path visit).2) visit

open Strategy (Finding AllWonBy findFirst? leave leaveAll)

variable {registry : MappingRegistry σ} {strategies : List (Strategy σ)}

/-- One resolution. -/
theorem resolveAs_eq (registered : registry.mappings = strategies.map Strategy.toMapping)
    (method : Method) (path : String) (visit : Visit σ) :
    (registry.resolveAs method path visit).1 =
        .ok ((findFirst? strategies method path).map Finding.chain) ∧
      (registry.resolveAs method path visit).2.request.attribute? =
        leave (findFirst? strategies method path) visit.request.attribute? := by
  rw [resolveAs, resolve, registered]
  exact Strategy.firstFound_toMapping strategies _

/-- A run of resolutions. -/
theorem attribute?_resolveAll (registered : registry.mappings = strategies.map Strategy.toMapping)
    (earlier : List (Method × String)) (visit : Visit σ) :
    (registry.resolveAll earlier visit).request.attribute? =
      leaveAll strategies earlier visit.request.attribute? := by
  induction earlier generalizing visit with
  | nil => rfl
  | cons pair earlier ih =>
      change (registry.resolveAll earlier _).request.attribute? = _
      rw [ih, (resolveAs_eq registered _ _ _).2]
      rfl

/-- A resolution that finds something finds the same on a fresh request, and what its strategy
settles is published alike.  The other attributes are missing on a fresh request, and are left as
earlier resolutions left them.  So all attributes are those of a fresh request exactly if all
earlier resolutions that found something were won by strategies of the same kind. -/
theorem resolveAs_after_earlier
    (registered : registry.mappings = strategies.map Strategy.toMapping) {fresh : Visit σ}
    (unpublished : ∀ item, fresh.request.attribute? item = none)
    (earlier : List (Method × String)) {method : Method} {path : String} {finding : Finding σ}
    (found : findFirst? strategies method path = some finding) :
    (registry.resolveAs method path (registry.resolveAll earlier fresh)).1 =
        .ok (some finding.chain) ∧
      (registry.resolveAs method path fresh).1 = .ok (some finding.chain) ∧
      (∀ item, finding.kind.settles item = true →
        (registry.resolveAs method path (registry.resolveAll earlier fresh)).2.request.attribute?
            item = finding.published item ∧
          (registry.resolveAs method path fresh).2.request.attribute? item =
            finding.published item) ∧
      (∀ item, finding.kind.settles item = false →
        (registry.resolveAs method path (registry.resolveAll earlier fresh)).2.request.attribute?
            item = (registry.resolveAll earlier fresh).request.attribute? item ∧
          (registry.resolveAs method path fresh).2.request.attribute? item = none) ∧
      ((registry.resolveAs method path
          (registry.resolveAll earlier fresh)).2.request.attribute? =
            (registry.resolveAs method path fresh).2.request.attribute? ↔
        AllWonBy strategies finding.kind earlier) := by
  obtain ⟨again_eq, again_attributes⟩ :=
    resolveAs_eq registered method path (registry.resolveAll earlier fresh)
  obtain ⟨first_eq, first_attributes⟩ := resolveAs_eq registered method path fresh
  have fresh_none : fresh.request.attribute? = fun _ => none := funext unpublished
  have earlier_attributes := attribute?_resolveAll registered earlier fresh
  rw [found] at again_eq again_attributes first_eq first_attributes
  rw [fresh_none] at first_attributes earlier_attributes
  simp only [leave] at again_attributes first_attributes
  refine ⟨again_eq, first_eq, ?_, ?_, ?_⟩
  · intro item settled
    simp [again_attributes, first_attributes, Finding.applied, settled]
  · intro item kept
    simp [again_attributes, first_attributes, Finding.applied, kept]
  · rw [again_attributes, first_attributes, earlier_attributes]
    constructor
    · intro same
      by_contra mixed
      have left := (Strategy.isSome_leaveAll_telltale strategies finding.kind earlier
        fun _ => none).mpr (.inr mixed)
      have same_telltale := congrFun same finding.kind.telltale
      simp only [Finding.applied, Strategy.Kind.settles_telltale, ne_eq, not_true_eq_false,
        decide_false, Bool.false_eq_true, if_false] at same_telltale
      simp [same_telltale] at left
    · intro won
      funext item
      cases settled : finding.kind.settles item with
      | true => simp [Finding.applied, settled]
      | false =>
          simp [Finding.applied, settled, Strategy.leaveAll_of_allWonBy won _ settled]

/-- A strategy that knows a route, and one that knows a URL. -/
def pages : List (Strategy Unit) :=
  [.routes { routes := [{
      number := 1
      method := .get
      pattern := {
        source := "^/route$"
        expression := .sequence
          [.look .textStart, .literal ['/', 'r', 'o', 'u', 't', 'e'], .look .textEnd] }
      respond := fun visit => (.ok .ok, visit.world) }] },
    .urls { entries := [(.exact "/url", ⟨2, .custom "page" (.word 0)⟩)] }]

/-- A registry with both. -/
def pageRegistry : MappingRegistry Unit :=
  ⟨pages.map fun strategy => ⟨none, strategy.toMapping⟩⟩

/-- A fresh request. -/
def pageVisit : Visit Unit := ⟨{ method := .get, path := "/" }, { app := () }⟩

theorem attribute?_pageVisit (item : Published) : pageVisit.request.attribute? item = none := rfl

/-- A route that was found earlier shows in the attributes of a URL. -/
theorem resolveAs_url_after_route :
    (pageRegistry.resolveAs .get "/url"
        (pageRegistry.resolveAll [(.get, "/route")] pageVisit)).2.request.attribute? ≠
      (pageRegistry.resolveAs .get "/url" pageVisit).2.request.attribute? := by
  obtain ⟨url, url_found, url_kind⟩ :
      ∃ url, findFirst? pages .get "/url" = some url ∧ url.kind = .urls := ⟨_, rfl, rfl⟩
  obtain ⟨route, route_found, route_kind⟩ :
      ∃ route, findFirst? pages .get "/route" = some route ∧ route.kind = .routes := by
    have kind_eq : (findFirst? pages .get "/route").map Finding.kind = some .routes := by
      decide +kernel
    simpa using kind_eq
  have registered : pageRegistry.mappings = pages.map Strategy.toMapping := rfl
  obtain ⟨-, -, -, -, alike_iff⟩ := resolveAs_after_earlier registered attribute?_pageVisit
    [(.get, "/route")] url_found
  intro alike
  have same_kind := alike_iff.mp alike _ List.mem_cons_self route route_found
  rw [route_kind, url_kind] at same_kind
  contradiction

/-- A resolution does not always publish what it publishes on a fresh request. -/
theorem not_forall_attribute?_resolveAs :
    ¬ ∀ (strategies : List (Strategy Unit)) (registry : MappingRegistry Unit),
      registry.mappings = strategies.map Strategy.toMapping →
      ∀ (fresh : Visit Unit), (∀ item, fresh.request.attribute? item = none) →
      ∀ earlier method path chain,
        (registry.resolveAs method path (registry.resolveAll earlier fresh)).1 =
          .ok (some chain) →
        ∀ item,
          (registry.resolveAs method path
            (registry.resolveAll earlier fresh)).2.request.attribute? item =
              (registry.resolveAs method path fresh).2.request.attribute? item := by
  intro forgets
  have same := forgets pages pageRegistry rfl pageVisit attribute?_pageVisit [(.get, "/route")] .get
    "/url" _ rfl .uriTemplateVariables
  have fresh_none : (pageRegistry.resolveAs .get "/url" pageVisit).2.request.attribute?
      .uriTemplateVariables = none := rfl
  have left : ((pageRegistry.resolveAs .get "/url" (pageRegistry.resolveAll [(.get, "/route")]
      pageVisit)).2.request.attribute? .uriTemplateVariables).isSome = true := by
    decide +kernel
  simp [same, fresh_none] at left

end MappingRegistry
end WebDispatch
