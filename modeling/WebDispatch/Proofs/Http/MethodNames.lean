import Mathlib.Data.List.Basic
import Mathlib.Data.List.Infix
import WebDispatch.Http.Method
import WebDispatch.Proofs.Http.HeaderWrites

/-!
# Spellings of methods

A text names a method if its upper-case form is the name of the method.  For texts in ASCII that is
equality with the name up to case.  Outside ASCII there are a dotless i, a long s and two ligatures
of s and t whose upper-case forms are letters of names, so `post` and `options` have more spellings
than those, and no other method has: `Method.ofString?_eq_some_iff`.
-/

namespace WebDispatch
namespace Method

/-- The characters outside ASCII whose upper-case forms are found in names of methods. -/
def lookalikes : List Nat := [0x131, 0x17F, 0xFB05, 0xFB06]

/-- The characters outside ASCII whose upper-case forms consist of letters that no name of a method
has one after the other. -/
def doubled : List Nat := [0xDF, 0xFB00, 0xFB01, 0xFB02, 0xFB03, 0xFB04]

/-- A character with the lookalikes written out in ASCII. -/
def plainLetters (c : Char) : List Char :=
  match c.toNat with
  | 0x131 => ['i']
  | 0x17F => ['s']
  | 0xFB05 => ['s', 't']
  | 0xFB06 => ['s', 't']
  | _ => [c]

/-- A text with the lookalikes written out in ASCII. -/
def writtenOut (s : String) : String := String.ofList (s.toList.flatMap plainLetters)

/-! ### Names -/

theorem mem_all (method : Method) : method ∈ all := by
  cases method <;> decide

theorem name_injective : Function.Injective name := by
  intro first second
  cases first <;> cases second <;> decide

/-- A text names the method whose name is its upper-case form. -/
theorem ofString?_eq_some {s : String} {method : Method} :
    ofString? s = some method ↔ s.toList.flatMap capitals = method.name.toList := by
  unfold ofString?
  dsimp only
  constructor
  · intro found
    have same := List.find?_some found
    exact (eq_of_beq same).symm
  · intro upper_eq
    rw [upper_eq]
    cases found : all.find? fun other => other.name.toList == method.name.toList with
    | none => simpa using List.find?_eq_none.mp found method (mem_all method)
    | some other =>
        have same := List.find?_some found
        rw [name_injective (String.toList_inj.mp (eq_of_beq same))]

theorem toNat_lt_of_mem_name {method : Method} {c : Char} (listed : c ∈ method.name.toList) :
    c.toNat < 97 := by
  have upper : method.name.toList.all (fun c => c.toNat < 97) = true := by
    cases method <;> decide
  exact of_decide_eq_true (List.all_eq_true.mp upper c listed)

/-- Names of methods are in upper case, so a text equals one up to case if that is what its ASCII
letters are in upper case. -/
theorem sameIgnoringCase_name_iff {s : String} {method : Method} :
    Text.sameIgnoringCase s method.name = true ↔
      s.toList.map Char.toUpper = method.name.toList := by
  have name_upper : method.name.toList.map Char.toUpper = method.name.toList := by
    have unchanged : method.name.toList.all (fun c => c.toUpper == c) = true := by
      cases method <;> decide
    rw [List.map_congr_left fun c listed => eq_of_beq (List.all_eq_true.mp unchanged c listed),
      List.map_id']
  rw [Response.sameIgnoringCase_iff, Text.lower, Text.lower, String.ofList_inj]
  constructor
  · intro lower_eq
    have upper_eq := congrArg (List.map Char.toUpper) lower_eq
    simpa only [List.map_map, Function.comp_def, Text.toUpper_toLower, name_upper] using upper_eq
  · intro upper_eq
    rw [← upper_eq, List.map_map]
    simp only [Function.comp_def, Text.toLower_toUpper]

theorem toNat_lt_of_sameIgnoringCase {s : String} {method : Method}
    (same : Text.sameIgnoringCase s method.name = true) {c : Char} (listed : c ∈ s.toList) :
    c.toNat < 128 := by
  have upper_listed : c.toUpper ∈ method.name.toList :=
    sameIgnoringCase_name_iff.mp same ▸ List.mem_map_of_mem listed
  have letter := toNat_lt_of_mem_name upper_listed
  rw [Text.toNat_toUpper] at letter
  split at letter <;> omega

/-! ### Characters outside ASCII -/

theorem le_toNat_of_mem_lookalikes {c : Char} (lookalike : c.toNat ∈ lookalikes) :
    128 ≤ c.toNat := by
  have outside : ∀ n ∈ lookalikes, 128 ≤ n := by decide
  exact outside c.toNat lookalike

theorem plainLetters_of_notMem {c : Char} (other : c.toNat ∉ lookalikes) :
    plainLetters c = [c] := by
  unfold plainLetters
  split <;> simp_all [lookalikes]

theorem mem_writtenOut {s : String} {c : Char} (listed : c ∈ s.toList)
    (other : c.toNat ∉ lookalikes) : c ∈ (writtenOut s).toList := by
  rw [writtenOut, String.toList_ofList, List.mem_flatMap]
  exact ⟨c, listed, plainLetters_of_notMem other ▸ List.mem_singleton_self c⟩

theorem writtenOut_eq_self {s : String} (other : ∀ c ∈ s.toList, c.toNat ∉ lookalikes) :
    writtenOut s = s := by
  rw [writtenOut, List.flatMap_congr fun c listed => plainLetters_of_notMem (other c listed),
    List.flatMap_singleton', String.ofList_toList]

theorem capitals_of_notMem {c : Char} (other : c.toNat ∉ doubled) :
    capitals c = (plainLetters c).map Char.toUpper := by
  unfold capitals plainLetters
  split <;> simp_all [doubled]

section Found

variable {s : String} {method : Method} (found : ofString? s = some method) {c : Char}
  (listed : c ∈ s.toList)
include found listed

theorem infix_name : capitals c <:+: method.name.toList :=
  ofString?_eq_some.mp found ▸ List.infix_flatMap_of_mem listed capitals

/-- No name of a method has an F, or an S after another one. -/
theorem notMem_doubled : c.toNat ∉ doubled := by
  intro inside
  have absent : ∀ letters ∈ doubled.map fun n => capitals (Char.ofNat n),
      ¬ letters <:+: method.name.toList := by
    cases method <;> decide
  refine absent (capitals c) (List.mem_map.mpr ⟨c.toNat, inside, ?_⟩) (infix_name found listed)
  rw [Char.ofNat_toNat]

/-- Only two methods have letters in their names that have lookalikes. -/
theorem eq_post_or_eq_options (lookalike : c.toNat ∈ lookalikes) :
    method = post ∨ method = options := by
  have letters : ∀ n ∈ lookalikes,
      'I' ∈ capitals (Char.ofNat n) ∨ 'S' ∈ capitals (Char.ofNat n) := by
    decide
  have letter := letters c.toNat lookalike
  rw [Char.ofNat_toNat] at letter
  have within := infix_name found listed
  have in_name : 'I' ∈ method.name.toList ∨ 'S' ∈ method.name.toList :=
    letter.imp (within.subset ·) (within.subset ·)
  revert in_name
  cases method <;> decide

end Found

/-- A text names a method exactly if it equals the name up to case once the lookalikes are written
out. -/
theorem ofString?_eq_some_iff_writtenOut {s : String} {method : Method} :
    ofString? s = some method ↔ Text.sameIgnoringCase (writtenOut s) method.name = true := by
  have upper_eq : (∀ c ∈ s.toList, c.toNat ∉ doubled) →
      s.toList.flatMap capitals = (writtenOut s).toList.map Char.toUpper := by
    intro other
    rw [writtenOut, String.toList_ofList, List.map_flatMap]
    exact List.flatMap_congr fun c listed => capitals_of_notMem (other c listed)
  constructor
  · intro found
    rw [sameIgnoringCase_name_iff, ← upper_eq fun c listed => notMem_doubled found listed]
    exact ofString?_eq_some.mp found
  · intro same
    rw [ofString?_eq_some, upper_eq]
    · exact sameIgnoringCase_name_iff.mp same
    · intro c listed inside
      have separate : ∀ n ∈ doubled, n ∉ lookalikes ∧ 128 ≤ n := by decide
      obtain ⟨other, outside⟩ := separate c.toNat inside
      exact Nat.not_lt.mpr outside
        (toNat_lt_of_sameIgnoringCase same (mem_writtenOut listed other))

/-- The texts in ASCII that name a method are those that equal its name up to case.  A text that is
not in ASCII names a method exactly if the method is `post` or `options`, there are lookalikes in
the text, and it equals the name up to case once they are written out. -/
theorem ofString?_eq_some_iff (s : String) (method : Method) :
    ((ofString? s = some method ∧ ∀ c ∈ s.toList, c.toNat < 128) ↔
      Text.sameIgnoringCase s method.name = true) ∧
    ((ofString? s = some method ∧ ∃ c ∈ s.toList, 128 ≤ c.toNat) ↔
      (method = post ∨ method = options) ∧ (∃ c ∈ s.toList, c.toNat ∈ lookalikes) ∧
        Text.sameIgnoringCase (writtenOut s) method.name = true) := by
  have no_lookalikes : (∀ c ∈ s.toList, c.toNat < 128) → writtenOut s = s := by
    intro ascii
    refine writtenOut_eq_self fun c listed lookalike => ?_
    exact Nat.not_lt.mpr (le_toNat_of_mem_lookalikes lookalike) (ascii c listed)
  constructor
  · constructor
    · rintro ⟨found, ascii⟩
      rw [ofString?_eq_some_iff_writtenOut, no_lookalikes ascii] at found
      exact found
    · intro same
      have ascii : ∀ c ∈ s.toList, c.toNat < 128 :=
        fun c listed => toNat_lt_of_sameIgnoringCase same listed
      rw [ofString?_eq_some_iff_writtenOut, no_lookalikes ascii]
      exact ⟨same, ascii⟩
  · constructor
    · rintro ⟨found, c, listed, outside⟩
      have same := ofString?_eq_some_iff_writtenOut.mp found
      have lookalike : c.toNat ∈ lookalikes := by
        by_contra other
        have kept := mem_writtenOut listed other
        exact Nat.not_lt.mpr outside (toNat_lt_of_sameIgnoringCase same kept)
      exact ⟨eq_post_or_eq_options found listed lookalike, ⟨c, listed, lookalike⟩, same⟩
    · rintro ⟨-, ⟨c, listed, lookalike⟩, same⟩
      exact ⟨ofString?_eq_some_iff_writtenOut.mpr same, c, listed,
        le_toNat_of_mem_lookalikes lookalike⟩

/-- A long s in the place of the S names a method. -/
theorem not_forall_ofString?_iff :
    ¬ ∀ s method,
      (ofString? s = some method ↔ Text.sameIgnoringCase s method.name = true) ∧
        ((∃ c ∈ s.toList, 128 ≤ c.toNat) → ofString? s = none) := by
  intro by_name
  have found : ofString? "po\u017Ft" = some post := by decide
  have differs : Text.sameIgnoringCase "po\u017Ft" post.name = false := by decide
  have same := (by_name _ _).1.mp found
  rw [differs] at same
  cases same

end Method
end WebDispatch
