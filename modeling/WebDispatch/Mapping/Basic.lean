import WebDispatch.Interceptor.Execution
import WebDispatch.Ranked

/-!
# Mappings

Strategies that find the handler for a request, and a registry that asks them in the order of their
priorities.  A mapping says with attributes of the request what it found.
-/

namespace WebDispatch

variable {σ : Type}

/-- A strategy that finds the handler for a request. -/
structure Mapping (σ : Type) where
  /-- The name. -/
  name : String
  /-- The priority that the mapping asks for; lower ones come first. -/
  order : Option Int := none
  /-- Whether the mapping matches paths by parsed patterns. -/
  usesPathPatterns : Bool := false
  /-- Find the handler for a request; nothing if the mapping knows none. -/
  find : Visit σ → Except Failure (Option (HandlerChain σ)) × Visit σ

/-- A mapping with the priority that it is asked in. -/
structure RegisteredMapping (σ : Type) where
  /-- The priority; mappings without one come last. -/
  priority : Option Int
  /-- The mapping. -/
  mapping : Mapping σ

/-- Whether the first of two priorities comes later than the second. -/
def isLaterPriority : Option Int → Option Int → Bool
  | some a, some b => b < a
  | none, some _ => true
  | _, none => false

/-- The mappings in the order in which they are asked.  Those of equal priority are asked in the
order of their registration. -/
structure MappingRegistry (σ : Type) where
  /-- The mappings in order. -/
  registered : List (RegisteredMapping σ) := []

namespace MappingRegistry

/-- Register a mapping with or without a priority. -/
def insert (registry : MappingRegistry σ) (priority : Option Int) (mapping : Mapping σ) :
    MappingRegistry σ :=
  ⟨insertRanked (fun a b => isLaterPriority a.priority b.priority) ⟨priority, mapping⟩
    registry.registered⟩

/-- Register a mapping with the priority that it asks for. -/
def register (registry : MappingRegistry σ) (mapping : Mapping σ) : MappingRegistry σ :=
  registry.insert mapping.order mapping

/-- Register a mapping with a priority. -/
def registerWithPriority (registry : MappingRegistry σ) (mapping : Mapping σ) (priority : Int) :
    MappingRegistry σ :=
  registry.insert (some priority) mapping

/-- The mappings in the order in which they are asked. -/
def mappings (registry : MappingRegistry σ) : List (Mapping σ) :=
  registry.registered.map RegisteredMapping.mapping

/-- Ask mappings in order until one finds something or fails. -/
def firstFound : List (Mapping σ) → Visit σ → Except Failure (Option (HandlerChain σ)) × Visit σ
  | [], visit => (.ok none, visit)
  | mapping :: rest, visit =>
      match mapping.find visit with
      | (.ok none, visit) => firstFound rest visit
      | found => found

/-- Ask the mappings for the handler of a request. -/
def resolve (registry : MappingRegistry σ) (visit : Visit σ) :
    Except Failure (Option (HandlerChain σ)) × Visit σ :=
  firstFound registry.mappings visit

end MappingRegistry
end WebDispatch
