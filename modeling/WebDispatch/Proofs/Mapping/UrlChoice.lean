import Mathlib.Data.List.Induction
import Mathlib.Data.Prod.Lex
import WebDispatch.Proofs.Mapping.Publishing
import WebDispatch.Proofs.StableOrder

/-!
# Which URL is found

However URLs are added to a mapping, a path of its own goes before everything below a path, the
longest of the paths that a request is below goes first, and of equal patterns the one that was
added first; behind all of them is the fallback handler.  `UrlMapping.Chosen` says so about the
patterns as they were written, and `UrlMapping.find_ofSettings` that this is what is found.
-/

namespace WebDispatch

variable {σ : Type}

/-! ### Patterns as they are written -/

namespace UrlPattern

/-- A text that is the pattern for everything below a path. -/
def IsWildcard (text : String) : Prop := ∃ parent, text = parent ++ "/*"

/-- A path is below a parent, and the part of it behind the slash.  The parent is below itself, and
nothing is left of it. -/
inductive Below (parent : String) : String → String → Prop
  | self : Below parent parent ""
  | inside (rest : String) : Below parent (parent ++ "/" ++ rest) rest

/-- A pattern is the one of its own text. -/
def IsWritten (pattern : UrlPattern) : Prop :=
  ∀ path, pattern = exact path → ¬ IsWildcard path

theorem parse_eq_ok {text : String} {pattern : UrlPattern} (parsed : parse text = .ok pattern) :
    pattern.source = text ∧ pattern.IsWritten := by
  unfold parse at parsed
  split at parsed
  · split at parsed
    · next parent reverse_eq =>
        obtain rfl := Except.ok.inj parsed
        have text_eq : text.toList = parent.reverse ++ ['/', '*'] := by
          simpa using congrArg List.reverse reverse_eq
        refine ⟨?_, fun path eq => by cases eq⟩
        apply String.toList_inj.mp
        simp [source, text_eq]
    · next other =>
        obtain rfl := Except.ok.inj parsed
        refine ⟨rfl, ?_⟩
        rintro path ⟨rfl⟩ ⟨parent, rfl⟩
        apply other parent.toList.reverse
        simp
  · cases parsed

theorem pathWithin?_exact {expected path within : String} :
    (exact expected).pathWithin? path = some within ↔ expected = path ∧ within = path := by
  simp [pathWithin?, eq_comm]

theorem pathWithin?_exact_self (path : String) : (exact path).pathWithin? path = some path :=
  pathWithin?_exact.mpr ⟨rfl, rfl⟩

theorem Below.exists_append {parent path within : String} (below : Below parent path within) :
    ∃ rest, path = parent ++ rest := by
  cases below with
  | self => exact ⟨"", by simp⟩
  | inside => exact ⟨"/" ++ within, String.append_assoc⟩

theorem pathWithin?_under {parent path within : String} :
    (under parent).pathWithin? path = some within ↔ Below parent path within := by
  constructor
  · intro matched
    simp only [pathWithin?] at matched
    split at matched
    · next inside =>
        obtain ⟨rest, path_eq⟩ := List.isPrefixOf_iff_prefix.mp inside
        rw [← path_eq, ← String.length_toList, List.drop_left] at matched
        split at matched
        · obtain rfl := Option.some.inj matched
          obtain rfl : parent = path := String.toList_inj.mp (by simpa using path_eq)
          exact .self
        · next rest =>
            obtain rfl := Option.some.inj matched
            obtain rfl : parent ++ "/" ++ String.ofList rest = path :=
              String.toList_inj.mp (by simpa using path_eq)
            exact .inside _
        · cases matched
    · cases matched
  · intro below
    have inside : parent.toList.isPrefixOf path.toList = true := by
      obtain ⟨rest, rfl⟩ := below.exists_append
      simp
    rw [pathWithin?, if_pos inside, ← String.length_toList]
    cases below with
    | self => simp
    | inside rest => simp [List.append_assoc]

/-- Of two parents of one path, one goes on where the other ends. -/
theorem Below.exists_more {parent other path within rest : String}
    (below : Below parent path within) (other_below : Below other path rest) :
    ∃ more, other = parent ++ more ∨ parent = other ++ more := by
  obtain ⟨back, path_eq⟩ := below.exists_append
  obtain ⟨other_back, other_eq⟩ := other_below.exists_append
  have of_prefix : ∀ {a b : String}, a.toList <+: b.toList → ∃ more, b = a ++ more := by
    rintro a b ⟨more, b_eq⟩
    exact ⟨String.ofList more, String.toList_inj.mp (by simp [b_eq])⟩
  have parent_first : parent.toList <+: path.toList := by simp [path_eq]
  have other_first : other.toList <+: path.toList := by simp [other_eq]
  rcases List.prefix_or_prefix_of_prefix parent_first other_first with shorter | longer
  · obtain ⟨more, more_eq⟩ := of_prefix shorter
    exact ⟨more, .inl more_eq⟩
  · obtain ⟨more, more_eq⟩ := of_prefix longer
    exact ⟨more, .inr more_eq⟩

/-- Of two parents of one path, the one that has more bytes has more characters. -/
theorem Below.utf8ByteSize_le_iff {parent other path within rest : String}
    (below : Below parent path within) (other_below : Below other path rest) :
    parent.utf8ByteSize ≤ other.utf8ByteSize ↔ parent.length ≤ other.length := by
  obtain ⟨more, rfl | rfl⟩ := below.exists_more other_below
  · simp
  · have empty_iff : more.utf8ByteSize = 0 ↔ more.length = 0 := by simp
    rw [String.utf8ByteSize_append, String.length_append]
    omega

/-- Parents of one path that are equally long are the same. -/
theorem Below.eq_of_length_eq {parent other path within rest : String}
    (below : Below parent path within) (other_below : Below other path rest)
    (length_eq : parent.length = other.length) : parent = other := by
  obtain ⟨more, rfl | rfl⟩ := below.exists_more other_below
  · have nothing : more = "" := by simpa using length_eq
    rw [nothing, String.append_empty]
  · have nothing : more = "" := by simpa using length_eq
    rw [nothing, String.append_empty]

/-- The rank by which patterns are tried: paths of their own go first, and longer ones go before
shorter ones. -/
def rank : UrlPattern → Nat ×ₗ OrderDual Nat
  | exact path => toLex (0, OrderDual.toDual path.utf8ByteSize)
  | under parent => toLex (1, OrderDual.toDual parent.utf8ByteSize)

theorem isLater_iff {pattern other : UrlPattern} :
    pattern.isLater other = true ↔ rank other < rank pattern := by
  cases pattern <;> cases other <;> simp [isLater, rank, Prod.Lex.toLex_lt_toLex]

theorem rank_exact_lt_under (path parent : String) : rank (exact path) < rank (under parent) :=
  isLater_iff.mp rfl

theorem rank_under_lt {parent other : String} :
    rank (under parent) < rank (under other) ↔ other.utf8ByteSize < parent.utf8ByteSize := by
  rw [← isLater_iff, isLater, decide_eq_true_eq]

end UrlPattern

/-! ### Settings of a mapping -/

namespace UrlMapping

/-- What is set up for a mapping. -/
inductive Setting (σ : Type) where
  /-- A handler for the paths of a pattern. -/
  | url (pattern : String) (handler : Handler σ)
  /-- The handler for paths that nothing matches. -/
  | fallback (handler : Handler σ)
  /-- An interceptor around all handlers. -/
  | interceptor (interceptor : Interceptor σ)
  /-- The priority that the mapping asks for. -/
  | order (order : Int)

namespace Setting

/-- The pattern and its handler, if they are set. -/
def url? : Setting σ → Option (String × Handler σ)
  | url pattern handler => some (pattern, handler)
  | _ => none

/-- The handler for paths that nothing matches, if it is set. -/
def fallback? : Setting σ → Option (Handler σ)
  | fallback handler => some handler
  | _ => none

/-- The interceptor, if one is set. -/
def interceptor? : Setting σ → Option (Interceptor σ)
  | interceptor added => some added
  | _ => none

end Setting

/-- Set something up. -/
def set (mapping : UrlMapping σ) : Setting σ → Except Failure (UrlMapping σ)
  | .url pattern handler => mapping.map pattern handler
  | .fallback handler => .ok { mapping with defaultHandler := some handler }
  | .interceptor interceptor =>
      .ok { mapping with interceptors := mapping.interceptors ++ [interceptor] }
  | .order order => .ok { mapping with order := some order }

/-- The mapping that is set up from nothing, unless a pattern is refused. -/
def ofSettings (settings : List (Setting σ)) : Except Failure (UrlMapping σ) :=
  settings.foldlM set {}

/-- A pattern and its handler as they were written. -/
def written (entry : UrlPattern × Handler σ) : String × Handler σ := (entry.1.source, entry.2)

/-- What a mapping holds after some settings, where `added` are the patterns in the order in which
they were added. -/
structure Holds (mapping : UrlMapping σ) (settings : List (Setting σ))
    (added : List (UrlPattern × Handler σ)) : Prop where
  entries_eq : mapping.entries = sortByRank (fun entry => entry.1.rank) added
  urls_eq : settings.filterMap Setting.url? = added.map written
  all_written : ∀ entry ∈ added, entry.1.IsWritten
  fallback_eq : mapping.defaultHandler = (settings.filterMap Setting.fallback?).getLast?
  interceptors_eq : mapping.interceptors = settings.filterMap Setting.interceptor?

theorem map_eq_ok {mapping next : UrlMapping σ} {text : String} {handler : Handler σ}
    (succeeded : mapping.map text handler = .ok next) :
    ∃ pattern, pattern.source = text ∧ pattern.IsWritten ∧
      next = { mapping with
        entries := insertRanked (fun a b => a.1.isLater b.1) (pattern, handler)
          mapping.entries } := by
  unfold map at succeeded
  cases parsed : UrlPattern.parse text with
  | error failure =>
      rw [parsed] at succeeded
      cases succeeded
  | ok pattern =>
      rw [parsed] at succeeded
      obtain ⟨source_eq, written⟩ := UrlPattern.parse_eq_ok parsed
      exact ⟨pattern, source_eq, written, (Except.ok.inj succeeded).symm⟩

theorem Holds.set {mapping next : UrlMapping σ} {settings : List (Setting σ)}
    {added : List (UrlPattern × Handler σ)} (holds : Holds mapping settings added)
    {setting : Setting σ} (succeeded : mapping.set setting = .ok next) :
    ∃ more, Holds next (settings ++ [setting]) more := by
  cases setting with
  | url text handler =>
      obtain ⟨pattern, source_eq, pattern_written, rfl⟩ := map_eq_ok succeeded
      refine ⟨added ++ [(pattern, handler)], ?_, ?_, ?_, ?_, ?_⟩
      · have later_iff (a b : UrlPattern × Handler σ) :
            a.1.isLater b.1 = true ↔ b.1.rank < a.1.rank := UrlPattern.isLater_iff
        rw [holds.entries_eq]
        exact insertRanked_sortByRank later_iff (pattern, handler) added
      · simp [holds.urls_eq, Setting.url?, written, source_eq]
      · intro entry listed
        rcases List.mem_append.mp listed with before | last
        · exact holds.all_written entry before
        · rw [List.mem_singleton.mp last]
          exact pattern_written
      · simp [holds.fallback_eq, Setting.fallback?]
      · simp [holds.interceptors_eq, Setting.interceptor?]
  | fallback handler =>
      obtain rfl := Except.ok.inj succeeded
      exact ⟨added, holds.entries_eq, by simp [holds.urls_eq, Setting.url?], holds.all_written,
        by simp [Setting.fallback?], by simp [holds.interceptors_eq, Setting.interceptor?]⟩
  | interceptor interceptor =>
      obtain rfl := Except.ok.inj succeeded
      exact ⟨added, holds.entries_eq, by simp [holds.urls_eq, Setting.url?], holds.all_written,
        by simp [holds.fallback_eq, Setting.fallback?],
        by simp [holds.interceptors_eq, Setting.interceptor?]⟩
  | order order =>
      obtain rfl := Except.ok.inj succeeded
      exact ⟨added, holds.entries_eq, by simp [holds.urls_eq, Setting.url?], holds.all_written,
        by simp [holds.fallback_eq, Setting.fallback?],
        by simp [holds.interceptors_eq, Setting.interceptor?]⟩

theorem ofSettings_append_singleton (front : List (Setting σ)) (last : Setting σ) :
    ofSettings (front ++ [last]) = (ofSettings front).bind fun mapping => mapping.set last := by
  rw [ofSettings, List.foldlM_append, ← ofSettings]
  cases ofSettings front with
  | error failure => rfl
  | ok mapping => exact bind_pure (mapping.set last)

theorem exists_holds {settings : List (Setting σ)} {mapping : UrlMapping σ}
    (built : ofSettings settings = .ok mapping) : ∃ added, Holds mapping settings added := by
  induction settings using List.reverseRecOn generalizing mapping with
  | nil =>
      obtain rfl := Except.ok.inj built
      exact ⟨[], by simp [sortByRank], rfl, by simp, rfl, rfl⟩
  | append_singleton front last ih =>
      rw [ofSettings_append_singleton] at built
      cases front_built : ofSettings front with
      | error failure =>
          rw [front_built] at built
          cases built
      | ok before =>
          obtain ⟨added, holds⟩ := ih front_built
          rw [front_built] at built
          exact holds.set built

/-! ### The choice for a path -/

/-- No pattern for a path of its own is the path. -/
def Unlisted (registered : List (String × Handler σ)) (path : String) : Prop :=
  ∀ entry ∈ registered, entry.1 = path → UrlPattern.IsWildcard path

/-- Every parent of a path that there is a pattern for satisfies a condition. -/
def ForallParents (registered : List (String × Handler σ)) (path : String)
    (condition : String → Prop) : Prop :=
  ∀ entry ∈ registered, ∀ parent rest, entry.1 = parent ++ "/*" →
    UrlPattern.Below parent path rest → condition parent

/-- What is chosen for a path, where the patterns are as they were written, in the order in which
they were added. -/
inductive Chosen (registered : List (String × Handler σ)) (fallback : Option (Handler σ))
    (path : String) : Option (UrlMatch σ) → Prop
  /-- The first pattern that is the path. -/
  | exact {front back : List (String × Handler σ)} {handler : Handler σ}
      (order : registered = front ++ (path, handler) :: back)
      (single : ¬ UrlPattern.IsWildcard path) (first : ∀ entry ∈ front, entry.1 ≠ path) :
      Chosen registered fallback path (some { pattern := path, within := path, handler })
  /-- The first pattern with the longest parent that the path is below. -/
  | below {front back : List (String × Handler σ)} {parent within : String} {handler : Handler σ}
      (unlisted : Unlisted registered path)
      (order : registered = front ++ (parent ++ "/*", handler) :: back)
      (inside : UrlPattern.Below parent path within)
      (longest : ForallParents registered path fun other => other.length ≤ parent.length)
      (first : ForallParents front path fun other => other.length < parent.length) :
      Chosen registered fallback path (some { pattern := parent ++ "/*", within, handler })
  /-- The fallback handler, if there is one. -/
  | otherwise (unlisted : Unlisted registered path)
      (outside : ForallParents registered path fun _ => False) :
      Chosen registered fallback path
        (fallback.map fun handler => { pattern := "/*", within := path, handler })

/-- A pattern that is written as a path is the one for this path or a wildcard. -/
theorem unlisted_map_written {added : List (UrlPattern × Handler σ)} {path : String}
    (not_exact : ∀ entry ∈ added, entry.1 ≠ .exact path) : Unlisted (added.map written) path := by
  intro entry listed path_eq
  obtain ⟨⟨pattern, handler⟩, inside, rfl⟩ := List.mem_map.mp listed
  cases pattern with
  | exact expected => exact absurd (congrArg UrlPattern.exact path_eq) (not_exact _ inside)
  | under parent => exact ⟨parent, path_eq.symm⟩

theorem forallParents_map_written {added : List (UrlPattern × Handler σ)} {path : String}
    {condition : String → Prop} (all_written : ∀ entry ∈ added, entry.1.IsWritten)
    (holds : ∀ entry ∈ added, ∀ parent rest, entry.1 = .under parent →
      UrlPattern.Below parent path rest → condition parent) :
    ForallParents (added.map written) path condition := by
  intro entry listed parent rest text_eq below
  obtain ⟨⟨pattern, handler⟩, inside, rfl⟩ := List.mem_map.mp listed
  cases pattern with
  | exact expected => exact absurd ⟨parent, text_eq⟩ (all_written _ inside expected rfl)
  | under other =>
      have parent_eq : other = parent := by
        have chars_eq := congrArg String.toList text_eq
        simpa [written, UrlPattern.source, String.toList_inj] using chars_eq
      exact holds _ inside parent rest (by rw [parent_eq]) below

/-- An entry of a mapping that goes before all others with patterns that match a path, where the
entries are in the order in which they were added. -/
structure Foremost (path : String) (front : List (UrlPattern × Handler σ))
    (entry : UrlPattern × Handler σ) (back : List (UrlPattern × Handler σ)) : Prop where
  all_written : ∀ other ∈ front ++ entry :: back, other.1.IsWritten
  lowest : ∀ other ∈ front ++ entry :: back, ∀ rest, other.1.pathWithin? path = some rest →
    entry.1.rank ≤ other.1.rank
  first : ∀ other ∈ front, ∀ rest, other.1.pathWithin? path = some rest →
    entry.1.rank < other.1.rank

variable {path : String} {front back : List (UrlPattern × Handler σ)} {handler : Handler σ}
  {fallback : Option (Handler σ)}

theorem Foremost.chosen_exact (foremost : Foremost path front (.exact path, handler) back) :
    Chosen ((front ++ (.exact path, handler) :: back).map written) fallback path
      (some { pattern := path, within := path, handler }) := by
  have single : ¬ UrlPattern.IsWildcard path :=
    foremost.all_written (.exact path, handler) (by simp) path rfl
  have order : (front ++ (.exact path, handler) :: back).map written =
      front.map written ++ (path, handler) :: back.map written := by simp [written, UrlPattern.source]
  refine .exact order single ?_
  have unlisted : Unlisted (front.map written) path := by
    refine unlisted_map_written ?_
    rintro ⟨_, other⟩ early rfl
    have rank_lt := foremost.first _ early path (UrlPattern.pathWithin?_exact_self path)
    exact lt_irrefl _ rank_lt
  intro entry early path_eq
  exact single (unlisted entry early path_eq)

theorem Foremost.chosen_below {parent within : String}
    (foremost : Foremost path front (.under parent, handler) back)
    (below : UrlPattern.Below parent path within) :
    Chosen ((front ++ (.under parent, handler) :: back).map written) fallback path
      (some { pattern := parent ++ "/*", within, handler }) := by
  have order : (front ++ (.under parent, handler) :: back).map written =
      front.map written ++ (parent ++ "/*", handler) :: back.map written := by
    simp [written, UrlPattern.source]
  refine .below ?_ order below ?_ ?_
  · refine unlisted_map_written ?_
    rintro ⟨_, other⟩ listed rfl
    have rank_le := foremost.lowest _ listed path (UrlPattern.pathWithin?_exact_self path)
    exact absurd (UrlPattern.rank_exact_lt_under path parent) (not_lt.mpr rank_le)
  · refine forallParents_map_written foremost.all_written ?_
    rintro ⟨_, other_handler⟩ listed other rest rfl other_below
    have rank_le := foremost.lowest _ listed rest (UrlPattern.pathWithin?_under.mpr other_below)
    rw [← not_lt, UrlPattern.rank_under_lt, not_lt] at rank_le
    exact (other_below.utf8ByteSize_le_iff below).mp rank_le
  · refine forallParents_map_written
      (fun entry early => foremost.all_written entry (List.mem_append_left _ early)) ?_
    rintro ⟨_, other_handler⟩ early other rest rfl other_below
    have rank_lt := foremost.first _ early rest (UrlPattern.pathWithin?_under.mpr other_below)
    rw [UrlPattern.rank_under_lt, ← not_le, below.utf8ByteSize_le_iff other_below] at rank_lt
    exact not_le.mp rank_lt

theorem chosen_of_unmatched {added : List (UrlPattern × Handler σ)}
    (all_written : ∀ entry ∈ added, entry.1.IsWritten)
    (unmatched : ∀ entry ∈ added, entry.1.pathWithin? path = none) :
    Chosen (added.map written) fallback path
      (fallback.map fun handler => { pattern := "/*", within := path, handler }) := by
  have unlisted : Unlisted (added.map written) path := by
    refine unlisted_map_written ?_
    rintro ⟨_, handler⟩ listed rfl
    have matched := UrlPattern.pathWithin?_exact_self path
    simp [unmatched _ listed] at matched
  have outside : ForallParents (added.map written) path fun _ => False := by
    refine forallParents_map_written all_written ?_
    rintro ⟨_, handler⟩ listed parent rest rfl below
    have matched := UrlPattern.pathWithin?_under.mpr below
    simp [unmatched _ listed] at matched
  exact .otherwise unlisted outside

/-- What is found is chosen. -/
theorem Holds.chosen_match? {mapping : UrlMapping σ} {settings : List (Setting σ)}
    {added : List (UrlPattern × Handler σ)} (holds : Holds mapping settings added)
    (path : String) :
    Chosen (settings.filterMap Setting.url?) (settings.filterMap Setting.fallback?).getLast? path
      (mapping.match? path) := by
  rw [holds.urls_eq, ← holds.fallback_eq, match?]
  have lookup_eq : mapping.lookup? path =
      (sortByRank (fun entry => entry.1.rank) added).findSome? fun entry =>
        (entry.1.pathWithin? path).map fun within =>
          { pattern := entry.1.source, within, handler := entry.2 } := by
    rw [← holds.entries_eq]
    rfl
  cases looked : mapping.lookup? path with
  | some found =>
      rw [lookup_eq] at looked
      obtain ⟨front, ⟨pattern, handler⟩, back, added_eq, gives, lowest, first⟩ :=
        findSome?_sortByRank looked
      obtain ⟨within, matched, rfl⟩ := Option.map_eq_some_iff.mp gives
      have foremost : Foremost path front (pattern, handler) back := by
        refine ⟨added_eq ▸ holds.all_written, ?_, ?_⟩
        · intro other listed rest other_matched
          exact lowest other (added_eq ▸ listed) (by simp [other_matched])
        · intro other early rest other_matched
          exact first other early (by simp [other_matched])
      rw [added_eq]
      cases pattern with
      | exact expected =>
          obtain ⟨rfl, rfl⟩ := UrlPattern.pathWithin?_exact.mp matched
          exact foremost.chosen_exact
      | under parent => exact foremost.chosen_below (UrlPattern.pathWithin?_under.mp matched)
  | none =>
      rw [lookup_eq, List.findSome?_eq_none_iff] at looked
      refine chosen_of_unmatched holds.all_written ?_
      intro entry listed
      exact Option.map_eq_none_iff.mp (looked entry (mem_sortByRank.mpr listed))

/-! ### One choice at most -/

/-- The handler of the first pattern of a text. -/
theorem handler_unique {registered front back other_front other_back : List (String × Handler σ)}
    {text : String} {handler other : Handler σ}
    (order : registered = front ++ (text, handler) :: back)
    (first : ∀ entry ∈ front, entry.1 ≠ text)
    (other_order : registered = other_front ++ (text, other) :: other_back)
    (other_first : ∀ entry ∈ other_front, entry.1 ≠ text) : handler = other := by
  have found : registered.find? (fun entry => entry.1 = text) = some (text, handler) :=
    List.find?_eq_some_iff_append.mpr ⟨by simp, front, back, order, by simpa using first⟩
  have other_found : registered.find? (fun entry => entry.1 = text) = some (text, other) :=
    List.find?_eq_some_iff_append.mpr
      ⟨by simp, other_front, other_back, other_order, by simpa using other_first⟩
  rw [found] at other_found
  exact congrArg Prod.snd (Option.some.inj other_found)

theorem within_unique {parent within rest : String}
    (below : UrlPattern.Below parent path within) (other_below : UrlPattern.Below parent path rest) :
    within = rest := by
  have matched := UrlPattern.pathWithin?_under.mpr below
  rw [UrlPattern.pathWithin?_under.mpr other_below] at matched
  exact (Option.some.inj matched).symm

/-- At most one thing is chosen. -/
theorem Chosen.unique {registered : List (String × Handler σ)} {choice other : Option (UrlMatch σ)}
    (chosen : Chosen registered fallback path choice)
    (other_chosen : Chosen registered fallback path other) : choice = other := by
  cases chosen with
  | @exact front back handler order single first =>
      have listed : (path, handler) ∈ registered := by simp [order]
      cases other_chosen with
      | exact other_order _ other_first =>
          rw [handler_unique order first other_order other_first]
      | below unlisted | otherwise unlisted => exact absurd (unlisted _ listed rfl) single
  | @below front back parent within handler unlisted order inside longest first =>
      have listed : (parent ++ "/*", handler) ∈ registered := by simp [order]
      cases other_chosen with
      | @exact _ _ other_handler other_order single =>
          have other_listed : (path, other_handler) ∈ registered := by simp [other_order]
          exact absurd (unlisted _ other_listed rfl) single
      | @below _ _ other_parent _ other_handler _ other_order other_inside other_longest
          other_first =>
          have other_listed : (other_parent ++ "/*", other_handler) ∈ registered := by
            simp [other_order]
          have length_eq : parent.length = other_parent.length :=
            le_antisymm (other_longest _ listed parent _ rfl inside)
              (longest _ other_listed other_parent _ rfl other_inside)
          obtain rfl := inside.eq_of_length_eq other_inside length_eq
          obtain rfl := within_unique inside other_inside
          rw [handler_unique order
            (fun entry early text_eq => lt_irrefl _ (first entry early parent _ text_eq inside))
            other_order
            (fun entry early text_eq => lt_irrefl _ (other_first entry early parent _ text_eq inside))]
      | otherwise _ outside => exact (outside _ listed parent _ rfl inside).elim
  | otherwise unlisted outside =>
      cases other_chosen with
      | @exact _ _ other_handler other_order single =>
          have other_listed : (path, other_handler) ∈ registered := by simp [other_order]
          exact absurd (unlisted _ other_listed rfl) single
      | @below _ _ other_parent _ other_handler _ other_order other_inside =>
          have other_listed : (other_parent ++ "/*", other_handler) ∈ registered := by
            simp [other_order]
          exact (outside _ other_listed other_parent _ rfl other_inside).elim
      | otherwise => rfl

/-- However handlers for patterns, fallback handlers, interceptors and priorities are set up one
after the other, exactly one thing is chosen for a path, and a request with the path finds it: the
handler among all interceptors in their order, and the text of the pattern and the part of the path
that it leaves open as attributes of the request.  If nothing is chosen, nothing is found, and the
request is left alone. -/
theorem find_ofSettings {settings : List (Setting σ)} {mapping : UrlMapping σ}
    (built : ofSettings settings = .ok mapping) (visit : Visit σ) :
    let chosen := Chosen (settings.filterMap Setting.url?)
      (settings.filterMap Setting.fallback?).getLast? visit.request.path
    (∃! choice, chosen choice) ∧
      (chosen none → mapping.find visit = (.ok none, visit)) ∧
      ∀ found, chosen (some found) →
        ∃ request, mapping.find visit =
            (.ok (some { handler := found.handler
                         interceptors := settings.filterMap Setting.interceptor? }),
              { visit with request }) ∧
          request.attribute? .bestMatchingHandler = some (.handler found.handler.tag) ∧
          request.attribute? .bestMatchingPattern = some (.text found.pattern) ∧
          request.attribute? .pathWithinMapping = some (.text found.within) := by
  intro chosen
  obtain ⟨added, holds⟩ := exists_holds built
  have matched : chosen (mapping.match? visit.request.path) := holds.chosen_match? visit.request.path
  refine ⟨⟨_, matched, fun other other_chosen => other_chosen.unique matched⟩, ?_, ?_⟩
  · intro nothing
    have match_eq := matched.unique nothing
    simp only [find, match_eq]
  · intro found found_chosen
    have match_eq := matched.unique found_chosen
    refine ⟨publish visit.request found, ?_, ?_, ?_, ?_⟩
    · simp only [find, match_eq, holds.interceptors_eq]
    all_goals
      rw [attribute?_publish]
      rfl

/-- A handler for pictures. -/
def pictures : Handler Unit := ⟨3, .custom "pictures" (.word 0)⟩

/-- Settings with patterns that match the same paths. -/
def site : List (Setting Unit) :=
  [.fallback ⟨0, .custom "missing" (.word 0)⟩, .url "/*" ⟨1, .custom "pages" (.word 0)⟩,
    .url "/static/*" ⟨2, .custom "files" (.word 0)⟩, .url "/static/img/*" pictures,
    .url "/static/img/*" ⟨4, .custom "late" (.word 0)⟩,
    .url "/static/img" ⟨5, .custom "gallery" (.word 0)⟩]

/-- A request for a picture. -/
def pictureVisit : Visit Unit := ⟨{ method := .get, path := "/static/img/a/1.png" }, { app := () }⟩

theorem chosen_pictures :
    Chosen (site.filterMap Setting.url?) (site.filterMap Setting.fallback?).getLast?
      pictureVisit.request.path
      (some { pattern := "/static/img/*", within := "a/1.png", handler := pictures }) := by
  have parent_length {text parent : String} (text_eq : text = parent ++ "/*") :
      parent.length = text.length - 2 := by
    rw [text_eq, String.length_append]
    rfl
  have pattern_eq : "/static/img" ++ "/*" = "/static/img/*" := by decide +kernel
  have order : site.filterMap Setting.url? =
      [("/*", ⟨1, .custom "pages" (.word 0)⟩), ("/static/*", ⟨2, .custom "files" (.word 0)⟩)] ++
        ("/static/img" ++ "/*", pictures) ::
          [("/static/img/*", ⟨4, .custom "late" (.word 0)⟩),
            ("/static/img", ⟨5, .custom "gallery" (.word 0)⟩)] := by
    rw [pattern_eq]
    rfl
  have unlisted : ∀ text ∈ (site.filterMap Setting.url?).map Prod.fst,
      text ≠ pictureVisit.request.path := by decide +kernel
  have short : ∀ text ∈ (site.filterMap Setting.url?).map Prod.fst,
      text.length - 2 ≤ "/static/img".length := by decide +kernel
  have shorter : ∀ text ∈ ["/*", "/static/*"], text.length - 2 < "/static/img".length := by
    decide +kernel
  have below : UrlPattern.Below "/static/img" pictureVisit.request.path "a/1.png" := by
    have path_eq : pictureVisit.request.path = "/static/img" ++ "/" ++ "a/1.png" := by
      decide +kernel
    exact path_eq ▸ .inside "a/1.png"
  rw [← pattern_eq]
  refine .below ?_ order below ?_ ?_
  · intro entry listed path_eq
    exact absurd path_eq (unlisted _ (List.mem_map_of_mem listed))
  · intro entry listed parent rest text_eq _
    show parent.length ≤ _
    rw [parent_length text_eq]
    exact short _ (List.mem_map_of_mem listed)
  · intro entry early parent rest text_eq _
    show parent.length < _
    rw [parent_length text_eq]
    exact shorter _ (List.mem_map_of_mem early)

theorem find_ofSettings_pictures :
    ∃ mapping, ofSettings site = .ok mapping ∧
      ∃ request, mapping.find pictureVisit =
          (.ok (some { handler := pictures, interceptors := [] }), { pictureVisit with request }) ∧
        request.attribute? .bestMatchingPattern = some (.text "/static/img/*") ∧
        request.attribute? .pathWithinMapping = some (.text "a/1.png") := by
  have accepted : (ofSettings site).toOption.isSome = true := by decide +kernel
  cases built : ofSettings site with
  | error failure =>
      rw [built] at accepted
      cases accepted
  | ok mapping =>
      obtain ⟨-, -, finds⟩ := find_ofSettings built pictureVisit
      obtain ⟨request, find_eq, -, pattern_eq, within_eq⟩ := finds _ chosen_pictures
      exact ⟨mapping, rfl, request, find_eq, pattern_eq, within_eq⟩

end UrlMapping
end WebDispatch
