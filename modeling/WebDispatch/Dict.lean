/-!
# Finite maps with text keys

A dictionary keeps its entries in the order in which the keys were first inserted.  A key occurs at
most once in every dictionary made by the operations below.
-/

namespace WebDispatch

/-- A finite map from texts to values. -/
structure Dict (α : Type) where
  /-- The entries in order of first insertion. -/
  entries : List (String × α)
  deriving Repr, BEq, Inhabited

namespace Dict

variable {α : Type}

/-- The map without entries. -/
def empty : Dict α := ⟨[]⟩

/-- The keys in order. -/
def keys (d : Dict α) : List String := d.entries.map Prod.fst

/-- The value under a key. -/
def get? (d : Dict α) (key : String) : Option α := d.entries.lookup key

/-- Whether a key has a value. -/
def contains (d : Dict α) (key : String) : Bool := (d.get? key).isSome

/-- The entries with the value under a key replaced, or put last under a new key. -/
def put (key : String) (value : α) : List (String × α) → List (String × α)
  | [] => [(key, value)]
  | entry :: rest =>
      if entry.1 = key then (key, value) :: rest else entry :: put key value rest

/-- Give a key a value, replacing the one it has. -/
def insert (d : Dict α) (key : String) (value : α) : Dict α := ⟨put key value d.entries⟩

/-- Give a key a value unless it has one. -/
def insertNew (d : Dict α) (key : String) (value : α) : Dict α :=
  if d.contains key then d else d.insert key value

/-- Remove a key. -/
def erase (d : Dict α) (key : String) : Dict α := ⟨d.entries.filter (·.1 != key)⟩

/-- Insert the pairs of a list from left to right, so that of two equal keys the later wins. -/
def insertAll (d : Dict α) (pairs : List (String × α)) : Dict α :=
  pairs.foldl (fun d (key, value) => d.insert key value) d

/-- The map of a list of pairs; of two equal keys the later wins. -/
def ofList (pairs : List (String × α)) : Dict α := empty.insertAll pairs

/-- Append a value to the list under a key. -/
def push (d : Dict (List α)) (key : String) (value : α) : Dict (List α) :=
  d.insert key ((d.get? key).getD [] ++ [value])

/-- Whether two maps have the same values under the same keys, in any order. -/
def sameAs [BEq α] (d e : Dict α) : Bool :=
  d.entries.length == e.entries.length && d.entries.all fun (key, value) => e.get? key == some value

@[simp]
theorem get?_empty (key : String) : (empty : Dict α).get? key = none := rfl

theorem isSome_get?_iff (d : Dict α) (key : String) :
    (d.get? key).isSome = true ↔ key ∈ d.keys := by
  simp only [get?, keys, List.lookup_isSome_iff, List.mem_map, beq_iff_eq, eq_comm (a := key)]

theorem lookup_put (key other : String) (value : α) (entries : List (String × α)) :
    (put key value entries).lookup other =
      if other = key then some value else entries.lookup other := by
  induction entries with
  | nil =>
      by_cases h : other = key
      · simp [put, h]
      · have hne : (other == key) = false := beq_eq_false_iff_ne.2 h
        simp [put, List.lookup_cons, h, hne]
  | cons entry rest ih =>
      obtain ⟨first, old⟩ := entry
      by_cases hk : first = key
      · subst hk
        by_cases h : other = first
        · simp [put, h]
        · have hne : (other == first) = false := beq_eq_false_iff_ne.2 h
          simp [put, List.lookup_cons, h, hne]
      · by_cases h : other = key
        · subst h
          have hne : (other == first) = false := beq_eq_false_iff_ne.2 (Ne.symm hk)
          simp [put, List.lookup_cons, hk, hne, ih]
        · simp [put, List.lookup_cons, hk, h, ih]

@[simp]
theorem get?_insert (d : Dict α) (key other : String) (value : α) :
    (d.insert key value).get? other = if other = key then some value else d.get? other :=
  lookup_put key other value d.entries

theorem get?_insert_self (d : Dict α) (key : String) (value : α) :
    (d.insert key value).get? key = some value := by
  simp

theorem get?_push (d : Dict (List α)) (key other : String) (value : α) :
    (d.push key value).get? other =
      if other = key then some ((d.get? key).getD [] ++ [value]) else d.get? other :=
  get?_insert d key other _

theorem mem_keys_insert (d : Dict α) (key other : String) (value : α) :
    other ∈ (d.insert key value).keys ↔ other ∈ d.keys ∨ other = key := by
  obtain ⟨entries⟩ := d
  simp only [insert, keys]
  induction entries with
  | nil => simp [put]
  | cons entry rest ih =>
      by_cases same : entry.1 = key
      · simp only [put, same, if_true, List.map_cons, List.mem_cons]
        exact ⟨.inl, fun listed => listed.elim id .inl⟩
      · simp only [put, same, if_false, List.map_cons, List.mem_cons, ih]
        exact or_assoc.symm

theorem nodup_keys_insert {d : Dict α} (distinct : d.keys.Nodup) (key : String) (value : α) :
    (d.insert key value).keys.Nodup := by
  obtain ⟨entries⟩ := d
  simp only [insert, keys] at distinct ⊢
  induction entries with
  | nil => simp [put]
  | cons entry rest ih =>
      rw [List.map_cons, List.nodup_cons] at distinct
      by_cases same : entry.1 = key
      · rw [put, if_pos same, List.map_cons, List.nodup_cons, ← same]
        exact distinct
      · have outside : entry.1 ∉ (put key value rest).map Prod.fst := by
          have listed_iff := mem_keys_insert ⟨rest⟩ key entry.1 value
          exact fun listed => (listed_iff.mp listed).elim distinct.1 same
        rw [put, if_neg same, List.map_cons, List.nodup_cons]
        exact ⟨outside, ih distinct.2⟩

/-- A new key is put last. -/
theorem entries_insert_of_notMem {d : Dict α} {key : String} (outside : key ∉ d.keys) (value : α) :
    (d.insert key value).entries = d.entries ++ [(key, value)] := by
  obtain ⟨entries⟩ := d
  simp only [insert, keys] at outside ⊢
  induction entries with
  | nil => rfl
  | cons entry rest ih =>
      rw [List.map_cons, List.mem_cons, not_or] at outside
      rw [put, if_neg (Ne.symm outside.1), ih outside.2, List.cons_append]

/-- An entry of a map is an earlier one or the one that was put there last. -/
theorem mem_entries_insert {d : Dict α} {key : String} {value : α} {entry : String × α}
    (listed : entry ∈ (d.insert key value).entries) :
    entry = (key, value) ∨ entry ∈ d.entries := by
  obtain ⟨entries⟩ := d
  simp only [insert] at listed ⊢
  induction entries with
  | nil => exact .inl (by simpa [put] using listed)
  | cons first rest ih =>
      by_cases replaced : first.1 = key
      · simp only [put, replaced, if_true, List.mem_cons] at listed
        rcases listed with new | later
        · exact .inl new
        · exact .inr (List.mem_cons_of_mem first later)
      · simp only [put, replaced, if_false, List.mem_cons] at listed
        rcases listed with rfl | later
        · exact .inr List.mem_cons_self
        · exact (ih later).imp id (List.mem_cons_of_mem first)

/-- A map with distinct keys has the value of an entry under its key. -/
theorem mem_entries_iff {d : Dict α} (distinct : d.keys.Nodup) (key : String) (value : α) :
    (key, value) ∈ d.entries ↔ d.get? key = some value := by
  obtain ⟨entries⟩ := d
  simp only [get?, keys] at distinct ⊢
  induction entries with
  | nil => simp
  | cons entry rest ih =>
      obtain ⟨first, old⟩ := entry
      rw [List.map_cons, List.nodup_cons] at distinct
      by_cases same : key = first
      · subst same
        have outside : (key, value) ∉ rest := fun listed =>
          distinct.1 (List.mem_map.mpr ⟨_, listed, rfl⟩)
        simp [outside, eq_comm]
      · have passed : (key == first) = false := by simpa using same
        simp [List.lookup_cons, same, passed, ih distinct.2]

theorem mem_keys_insertAll (d : Dict α) (pairs : List (String × α)) (key : String) :
    key ∈ (d.insertAll pairs).keys ↔ key ∈ d.keys ∨ key ∈ pairs.map Prod.fst := by
  induction pairs generalizing d with
  | nil => simp [insertAll]
  | cons pair rest ih =>
      have inserted : d.insertAll (pair :: rest) = (d.insert pair.1 pair.2).insertAll rest := rfl
      rw [inserted, ih, mem_keys_insert, List.map_cons, List.mem_cons, or_assoc]

theorem insertAll_append (d : Dict α) (front back : List (String × α)) :
    d.insertAll (front ++ back) = (d.insertAll front).insertAll back :=
  List.foldl_append

/-- Pairs with new and distinct keys are put last. -/
theorem entries_insertAll {d : Dict α} {pairs : List (String × α)}
    (distinct : ((d.entries ++ pairs).map Prod.fst).Nodup) :
    (d.insertAll pairs).entries = d.entries ++ pairs := by
  induction pairs generalizing d with
  | nil => exact (List.append_nil _).symm
  | cons pair rest ih =>
      obtain ⟨key, value⟩ := pair
      have outside : key ∉ d.keys := by
        rw [List.map_append, List.map_cons, List.nodup_append] at distinct
        exact fun listed => distinct.2.2 key listed key List.mem_cons_self rfl
      have inserted : d.insertAll ((key, value) :: rest) = (d.insert key value).insertAll rest :=
        rfl
      have entries_eq := entries_insert_of_notMem outside value
      rw [inserted, ih (by simpa [entries_eq] using distinct), entries_eq, List.append_assoc,
        List.singleton_append]

/-- The entries of a map of pairs with distinct keys are these pairs. -/
theorem entries_ofList {pairs : List (String × α)} (distinct : (pairs.map Prod.fst).Nodup) :
    (ofList pairs).entries = pairs :=
  entries_insertAll distinct

theorem nodup_keys_insertAll {d : Dict α} (distinct : d.keys.Nodup)
    (pairs : List (String × α)) : (d.insertAll pairs).keys.Nodup := by
  induction pairs generalizing d with
  | nil => exact distinct
  | cons pair rest ih => exact ih (nodup_keys_insert distinct pair.1 pair.2)

theorem nodup_keys_ofList (pairs : List (String × α)) : (ofList pairs).keys.Nodup := by
  have none_stored : (empty : Dict α).keys.Nodup := List.nodup_nil
  exact nodup_keys_insertAll none_stored pairs

/-- Of the pairs that are inserted one after the other, the last of each key counts. -/
theorem get?_insertAll (d : Dict α) (pairs : List (String × α)) (key : String) :
    (d.insertAll pairs).get? key = (pairs.reverse.lookup key <|> d.get? key) := by
  induction pairs generalizing d with
  | nil => simp [insertAll]
  | cons pair rest ih =>
      obtain ⟨first, value⟩ := pair
      have inserted : d.insertAll ((first, value) :: rest) = (d.insert first value).insertAll rest :=
        rfl
      rw [inserted, ih, get?_insert, List.reverse_cons, List.lookup_append]
      by_cases same : key = first
      · subst same
        cases rest.reverse.lookup key <;> simp
      · have passed : (key == first) = false := by simpa using same
        cases rest.reverse.lookup key <;> simp [List.lookup_cons, same, passed]

theorem mem_keys_ofList (pairs : List (String × α)) (key : String) :
    key ∈ (ofList pairs).keys ↔ key ∈ pairs.map Prod.fst := by
  rw [ofList, mem_keys_insertAll]
  simp [keys, empty]

theorem get?_ofList (pairs : List (String × α)) (key : String) :
    (ofList pairs).get? key = pairs.reverse.lookup key := by
  rw [ofList, get?_insertAll, get?_empty]
  simp

theorem get?_erase (d : Dict α) (key other : String) :
    (d.erase key).get? other = if other = key then none else d.get? other := by
  obtain ⟨entries⟩ := d
  simp only [get?, erase]
  induction entries with
  | nil => simp
  | cons entry rest ih =>
      obtain ⟨first, value⟩ := entry
      by_cases erased : first = key
      · subst erased
        by_cases same : other = first
        · simpa [same] using ih
        · have passed : (other == first) = false := by simpa using same
          simpa [List.lookup_cons, passed] using ih
      · by_cases found : other = first
        · subst found
          simp [erased]
        · have passed : (other == first) = false := by simpa using found
          simpa [erased, List.lookup_cons, passed] using ih

theorem get?_insertNew (d : Dict α) (key other : String) (value : α) :
    (d.insertNew key value).get? other =
      (d.get? other <|> if other = key then some value else none) := by
  unfold insertNew contains
  rcases present : d.get? key with _ | old
  · simp only [Option.isSome_none, Bool.false_eq_true, if_false, get?_insert]
    by_cases same : other = key
    · simp [same, present]
    · simp [same]
  · simp only [Option.isSome_some, if_true]
    by_cases same : other = key
    · simp [same, present]
    · simp [same]

/-- Of the pairs that are inserted one after the other, the first of each key counts. -/
theorem get?_foldl_insertNew (pairs : List (String × α)) (d : Dict α)
    (key : String) :
    (pairs.foldl (fun d (name, value) => d.insertNew name value) d).get? key =
      (d.get? key <|> pairs.lookup key) := by
  induction pairs generalizing d with
  | nil => simp
  | cons pair rest ih =>
      obtain ⟨name, value⟩ := pair
      rw [List.foldl_cons, ih, get?_insertNew]
      by_cases same : key = name
      · subst same
        cases d.get? key <;> simp
      · have other : (key == name) = false := by simpa using same
        cases d.get? key <;> simp [same, List.lookup_cons, other]

end Dict
end WebDispatch
