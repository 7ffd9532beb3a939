import Mathlib.Data.List.Basic
import WebDispatch.Http.Cookie

/-!
# The cookies of a request

A sender writes the names and values of its cookies into one header.  Names and values that need no
quoting are read back as they were written, and of two cookies of one name the first counts.
-/

namespace WebDispatch

namespace Cookie

/-- One item of a header that a sender writes. -/
def sentItem (pair : String × String) : List Char := pair.1.toList ++ '=' :: pair.2.toList

/-- The header that a sender writes for its cookies. -/
def sentHeader (pairs : List (String × String)) : String :=
  String.ofList ([';', ' '].intercalate (pairs.map sentItem))

/-- Whether the name and the value of a cookie need no quoting. -/
def isPair (pair : String × String) : Bool := isName pair.1 && isValue pair.2

theorem isNameChar_of_isName {name : String} (valid : isName name = true) {c : Char}
    (listed : c ∈ name.toList) : isNameChar c = true := by
  simp only [isName, Bool.and_eq_true] at valid
  exact List.all_eq_true.mp valid.2 c listed

theorem isValueChar_of_isValue {value : String} (valid : isValue value = true) {c : Char}
    (listed : c ∈ value.toList) : isValueChar c = true :=
  List.all_eq_true.mp valid c listed

theorem notMem_name {name : String} (valid : isName name = true) {c : Char}
    (separator : isNameChar c = false) : c ∉ name.toList := fun listed => by
  simp [isNameChar_of_isName valid listed] at separator

theorem notMem_value {value : String} (valid : isValue value = true) {c : Char}
    (separator : isValueChar c = false) : c ∉ value.toList := fun listed => by
  simp [isValueChar_of_isValue valid listed] at separator

theorem isBlank_of_mem_name {name : String} (valid : isName name = true) {c : Char}
    (listed : c ∈ name.toList) : Text.isBlank c = false := by
  have name_char := isNameChar_of_isName valid listed
  simp only [isNameChar, Bool.and_eq_true] at name_char
  exact Text.isBlank_of_isAsciiGraphic name_char.1

theorem isBlank_of_mem_value {value : String} (valid : isValue value = true) {c : Char}
    (listed : c ∈ value.toList) : Text.isBlank c = false := by
  have value_char := isValueChar_of_isValue valid listed
  simp only [isValueChar, Bool.and_eq_true] at value_char
  exact Text.isBlank_of_isAsciiGraphic value_char.1

theorem notMem_sentItem {pair : String × String} (valid : isPair pair = true) :
    ';' ∉ sentItem pair := by
  simp only [isPair, Bool.and_eq_true] at valid
  have name_outside : ';' ∉ pair.1.toList := notMem_name valid.1 (by decide)
  have value_outside : ';' ∉ pair.2.toList := notMem_value valid.2 (by decide)
  simp [sentItem, name_outside, value_outside]

/-- A blank in front of an item does not count. -/
theorem received?_blank (item : List Char) : received? (' ' :: item) = received? item := by
  simp only [received?, Text.cutAt_cons (show ' ' ≠ '=' by decide),
    Text.trim_cons (show Text.isBlank ' ' = true by decide)]

theorem received?_sentItem {pair : String × String} (valid : isPair pair = true) :
    received? (sentItem pair) = some pair := by
  obtain ⟨name, value⟩ := pair
  simp only [isPair, Bool.and_eq_true] at valid
  obtain ⟨name_valid, value_valid⟩ := valid
  have value_unquoted : ∀ c ∈ value.toList, (c == '"') = false := by
    intro c listed
    rw [beq_eq_false_iff_ne]
    rintro rfl
    exact notMem_value value_valid (by decide) listed
  have name_nonempty : name.toList.isEmpty = false := by
    simp only [isName, Bool.and_eq_true, Bool.not_eq_true'] at name_valid
    exact name_valid.1
  have outside : '=' ∉ name.toList := notMem_name name_valid (by decide)
  simp only [received?, sentItem, Text.cutAt_append _ outside,
    Text.trim_eq_self fun _ => isBlank_of_mem_name name_valid,
    Text.trim_eq_self fun _ => isBlank_of_mem_value value_valid, Text.trim_eq_self value_unquoted,
    name_nonempty,
    Bool.false_eq_true, if_false, String.ofList_toList]

/-- Cut at semicolons, a header is its items, all but the first behind a blank. -/
theorem splitOn_sentHeader (pair : String × String) (rest : List (String × String))
    (valid : ∀ sent ∈ pair :: rest, isPair sent = true) :
    (sentHeader (pair :: rest)).toList.splitOn ';' =
      sentItem pair :: rest.map fun sent => ' ' :: sentItem sent := by
  rw [sentHeader, String.toList_ofList]
  induction rest generalizing pair with
  | nil =>
      have outside := notMem_sentItem (valid pair List.mem_cons_self)
      simpa using List.splitOn_eq_singleton outside
  | cons next rest ih =>
      have outside := notMem_sentItem (valid pair List.mem_cons_self)
      have later := ih next fun sent listed => valid sent (List.mem_cons_of_mem _ listed)
      have blank_inside : (' ' == ';') = false := by decide
      simp only [List.map_cons, List.intercalate_cons_cons, List.append_assoc, List.cons_append,
        List.nil_append] at later ⊢
      rw [List.splitOn_append_cons_self_of_not_mem outside,
        List.splitOn_cons_eq_if_modifyHead, blank_inside, if_neg Bool.false_ne_true, later,
        List.modifyHead_cons]

/-- Every cookie is read back from a header; of two cookies of one name the first counts. -/
theorem get?_parseHeader_sentHeader {pairs : List (String × String)}
    (valid : ∀ sent ∈ pairs, isPair sent = true) (name : String) :
    (parseHeader (sentHeader pairs)).get? name = pairs.lookup name := by
  cases pairs with
  | nil => rfl
  | cons pair rest =>
      have received_all (sent : List (String × String))
          (valid : ∀ pair ∈ sent, isPair pair = true) :
          sent.filterMap (fun pair => received? (sentItem pair)) = sent := by
        rw [List.filterMap_congr fun pair listed => received?_sentItem (valid pair listed)]
        exact List.filterMap_some
      obtain ⟨pair_valid, rest_valid⟩ := List.forall_mem_cons.mp valid
      rw [parseHeader, splitOn_sentHeader pair rest valid, List.filterMap_cons,
        received?_sentItem pair_valid, List.filterMap_map]
      simp only [Function.comp_def, received?_blank, received_all rest rest_valid]
      rw [Dict.get?_foldl_insertNew, Dict.get?_empty]
      rfl

end Cookie
end WebDispatch
