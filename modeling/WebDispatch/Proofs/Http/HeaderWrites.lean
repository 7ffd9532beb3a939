import Mathlib.Data.List.Find
import WebDispatch.Http.Response

/-!
# Which write of a header is read

The headers of a response are kept under their names as they were written, while they are looked up
in any case.  So every spelling of a name keeps a value of its own, which is that of the last write
in that spelling, and only a name that is written in one spelling alone has the value of its last
write: `Response.header?_performAll`.
-/

namespace WebDispatch
namespace Response

/-- An operation on a response that may write a header. -/
inductive HeaderOperation where
  /-- Set a header. -/
  | setHeader (name value : String)
  /-- Set a body of plain text, and the content type that says so. -/
  | text (body : String)
  /-- Set a body of JSON, and the content type that says so. -/
  | json (value : Json)

namespace HeaderOperation

/-- What an operation does to a response. -/
def perform (response : Response) : HeaderOperation → Response
  | setHeader name value => response.setHeader name value
  | text body => response.text body
  | json value => response.json value

/-- The name and the value that an operation writes; values with control characters are not
accepted. -/
def write? : HeaderOperation → Option (String × String)
  | setHeader name value => if isFieldValue value then some (name, value) else none
  | text _ => some ("Content-Type", "text/plain; charset=utf-8")
  | json _ => some ("Content-Type", "application/json")

/-- The accepted writes of some operations in order. -/
def writes (operations : List HeaderOperation) : List (String × String) :=
  operations.filterMap write?

end HeaderOperation

open HeaderOperation (perform write? writes)

/-- What operations do to a response, one after the other. -/
def performAll (operations : List HeaderOperation) (response : Response) : Response :=
  operations.foldl perform response

/-- The value of the last write whose name is of a class. -/
def lastWrite? (writes : List (String × String)) (named : String → Bool) : Option String :=
  (writes.reverse.find? fun write => named write.1).map Prod.snd

/-- Whether the writes of a name are all in one spelling. -/
def SpelledAlike (writes : List (String × String)) (name : String) : Prop :=
  ∀ a ∈ writes, ∀ b ∈ writes, Text.sameIgnoringCase a.1 name → Text.sameIgnoringCase b.1 name →
    a.1 = b.1

theorem headers_perform (response : Response) (operation : HeaderOperation) :
    (perform response operation).headers = response.headers.insertAll operation.write?.toList := by
  cases operation with
  | setHeader name value =>
      simp only [perform, setHeader, write?]
      split <;> rfl
  | text body => rfl
  | json value => rfl

/-- Operations write into the headers what they are accepted to write, in order. -/
theorem headers_performAll (operations : List HeaderOperation) (response : Response) :
    (performAll operations response).headers = response.headers.insertAll (writes operations) := by
  induction operations generalizing response with
  | nil => rfl
  | cons operation rest ih =>
      have performed : performAll (operation :: rest) response =
          performAll rest (perform response operation) := rfl
      have written : writes (operation :: rest) = operation.write?.toList ++ writes rest := by
        cases written_eq : operation.write? <;> simp [writes, written_eq]
      rw [performed, ih, headers_perform, written]
      simp only [Dict.insertAll, List.foldl_append]

section Lookup

variable {writes : List (String × String)}

theorem lookup_reverse_eq_lastWrite? (writes : List (String × String)) (name : String) :
    writes.reverse.lookup name = lastWrite? writes (· == name) := by
  unfold lastWrite?
  induction writes.reverse with
  | nil => rfl
  | cons write rest ih =>
      obtain ⟨first, value⟩ := write
      by_cases same : name = first
      · simp [same]
      · have passed : (name == first) = false := by simpa using same
        have not_found : (first == name) = false := by simpa using Ne.symm same
        simp [List.lookup_cons, passed, not_found, ih]

theorem lastWrite?_eq_none_iff {named : String → Bool} :
    lastWrite? writes named = none ↔ ∀ write ∈ writes, named write.1 = false := by
  simp [lastWrite?]

/-- Classes of names that the writes do not tell apart have the same last write. -/
theorem lastWrite?_congr {named other : String → Bool}
    (alike : ∀ write ∈ writes, named write.1 = other write.1) :
    lastWrite? writes named = lastWrite? writes other := by
  unfold lastWrite?
  rw [List.find?_congr fun write listed => alike write (List.mem_reverse.mp listed)]

theorem sameIgnoringCase_iff {a b : String} :
    Text.sameIgnoringCase a b = true ↔ Text.lower a = Text.lower b :=
  beq_iff_eq

end Lookup

/-! ## Headers that were written -/

section Written

variable {response : Response} {writes : List (String × String)}

theorem mem_keys_iff (written : response.headers = Dict.ofList writes) (name : String) :
    name ∈ response.headers.keys ↔ name ∈ writes.map Prod.fst := by
  rw [written, Dict.mem_keys_ofList]

theorem nodup_keys (written : response.headers = Dict.ofList writes) :
    response.headers.keys.Nodup := by
  rw [written]
  exact Dict.nodup_keys_ofList writes

/-- Each spelling of a name has the value of the last write in that spelling. -/
theorem get?_headers (written : response.headers = Dict.ofList writes) (name : String) :
    response.headers.get? name = lastWrite? writes (· == name) := by
  rw [written, Dict.get?_ofList, lookup_reverse_eq_lastWrite?]

theorem header?_eq_none_iff (written : response.headers = Dict.ofList writes) (name : String) :
    response.header? name = none ↔ ∀ write ∈ writes, ¬ Text.sameIgnoringCase write.1 name := by
  have unlisted : response.header? name = none ↔
      ∀ key ∈ response.headers.keys, ¬ Text.sameIgnoringCase key name := by
    simp [header?, Dict.keys]
  rw [unlisted]
  simp only [mem_keys_iff written, List.forall_mem_map]

/-- What is read under a name is the last write in some spelling of it. -/
theorem exists_spelling_of_header? (written : response.headers = Dict.ofList writes)
    {name value : String} (read : response.header? name = some value) :
    ∃ spelling, Text.sameIgnoringCase spelling name ∧
      lastWrite? writes (· == spelling) = some value := by
  obtain ⟨⟨spelling, found⟩, found_eq, rfl⟩ := Option.map_eq_some_iff.mp read
  have listed := List.mem_of_find?_eq_some found_eq
  rw [Dict.mem_entries_iff (nodup_keys written), get?_headers written] at listed
  exact ⟨spelling, by simpa using List.find?_some found_eq, listed⟩

/-- A name that is written in one spelling alone is read as it was written last. -/
theorem header?_of_spelledAlike (written : response.headers = Dict.ofList writes) {name : String}
    (alike : SpelledAlike writes name) :
    response.header? name = lastWrite? writes (Text.sameIgnoringCase · name) := by
  rcases read : response.header? name with _ | value
  · have unwritten := (header?_eq_none_iff written name).mp read
    exact (lastWrite?_eq_none_iff.mpr fun write listed => by simpa using unwritten write listed).symm
  · obtain ⟨spelling, same, last⟩ := exists_spelling_of_header? written read
    obtain ⟨⟨first, _⟩, found_eq, rfl⟩ := Option.map_eq_some_iff.mp last
    have found := List.mem_reverse.mp (List.mem_of_find?_eq_some found_eq)
    obtain rfl : first = spelling := by simpa using List.find?_some found_eq
    -- The writes of the name are those in the spelling that was found.
    have classes_alike : ∀ write ∈ writes,
        (write.1 == first) = Text.sameIgnoringCase write.1 name := by
      intro write listed
      rw [Bool.eq_iff_iff, beq_iff_eq]
      constructor
      · rintro rfl
        exact same
      · intro also
        exact alike write listed _ found also same
    have last_alike : lastWrite? writes (· == first) =
        lastWrite? writes (Text.sameIgnoringCase · name) := lastWrite?_congr classes_alike
    rw [← last, last_alike]

/-- Names are stored in one spelling alone exactly if they were written so. -/
theorem spelledAlike_iff (written : response.headers = Dict.ofList writes) :
    (∀ name, SpelledAlike writes name) ↔
      ∀ a ∈ response.headers.keys, ∀ b ∈ response.headers.keys,
        Text.sameIgnoringCase a b → a = b := by
  simp only [mem_keys_iff written, List.forall_mem_map]
  constructor
  · intro alike a a_listed b b_listed same
    exact alike b.1 a a_listed b b_listed same (sameIgnoringCase_iff.mpr rfl)
  · intro distinct name a a_listed b b_listed a_same b_same
    rw [sameIgnoringCase_iff] at a_same b_same
    exact distinct a a_listed b b_listed (sameIgnoringCase_iff.mpr (a_same.trans b_same.symm))

end Written

/-- The headers of a response after some operations.  Every spelling of a name has the value of the
last write in that spelling, and what is read under a name is the value of one of its spellings.
There is one spelling of each name exactly if it was written so, and then what is read is the value
of the last write in any case. -/
theorem header?_performAll (status : Nat) (operations : List HeaderOperation) :
    let response := performAll operations { status }
    let written := writes operations
    response.headers.keys.Nodup ∧
      (∀ name, response.headers.get? name = lastWrite? written (· == name)) ∧
      (∀ name, response.header? name = none ↔
        ∀ write ∈ written, ¬ Text.sameIgnoringCase write.1 name) ∧
      (∀ name value, response.header? name = some value →
        ∃ spelling, Text.sameIgnoringCase spelling name ∧
          lastWrite? written (· == spelling) = some value) ∧
      ((∀ name, SpelledAlike written name) ↔
        ∀ a ∈ response.headers.keys, ∀ b ∈ response.headers.keys,
          Text.sameIgnoringCase a b → a = b) ∧
      ∀ name, SpelledAlike written name →
        response.header? name = lastWrite? written (Text.sameIgnoringCase · name) := by
  intro response written
  have written_eq : response.headers = Dict.ofList written :=
    headers_performAll operations { status }
  refine ⟨nodup_keys written_eq, get?_headers written_eq, header?_eq_none_iff written_eq, ?_,
    spelledAlike_iff written_eq, ?_⟩
  · intro name value read
    exact exists_spelling_of_header? written_eq read
  · intro name alike
    exact header?_of_spelledAlike written_eq alike

/-- A content type that is set in lower case stays beside that of a body. -/
theorem not_forall_distinct_ignoringCase :
    ¬ ∀ (status : Nat) (operations : List HeaderOperation),
      (∀ a ∈ (performAll operations { status }).headers.keys,
        ∀ b ∈ (performAll operations { status }).headers.keys,
          Text.sameIgnoringCase a b → a = b) ∧
      ∀ name, (performAll operations { status }).header? name =
        lastWrite? (writes operations) (Text.sameIgnoringCase · name) := by
  intro holds
  obtain ⟨distinct, -⟩ := holds 200 [.setHeader "content-type" "text/html", .text "x"]
  have keys_eq : (performAll [.setHeader "content-type" "text/html", .text "x"]
      { status := 200 }).headers.keys = ["content-type", "Content-Type"] := by
    decide +kernel
  rw [keys_eq] at distinct
  have same : Text.sameIgnoringCase "content-type" "Content-Type" = true := by decide +kernel
  have equal := distinct "content-type" (by simp) "Content-Type" (by simp) same
  exact absurd equal (by decide)

end Response
end WebDispatch
