import WebDispatch.Locale.Resolution
import WebDispatch.Proofs.Locale.PreferenceOrder
import WebDispatch.Proofs.Text.Separators
import WebDispatch.Proofs.Text.Trimming

/-!
# The order of the items of a header

Where the qualities that a header gives are numbers and all different, they alone decide in which
order the languages are preferred.  So it does not matter in which order the items are written, nor
which blanks are around them: `LanguageRange.parseHeader_of_perm`.
-/

namespace WebDispatch
namespace LanguageRange

/-- The items of a header without the blanks around them. -/
def items (header : String) : List (List Char) :=
  (header.toList.splitOn ',').map (Text.trim Text.isBlank)

/-! ### Blanks around an item -/

section Blanks

variable {blanks : List Char} (blank : ∀ c ∈ blanks, Text.isBlank c = true)
include blank

theorem trim_append_blanks (s : List Char) :
    Text.trim Text.isBlank (s ++ blanks) = Text.trim Text.isBlank s := by
  have nothing : ∀ c ∈ ([] : List Char), Text.isBlank c = true := by simp
  simpa using Text.trim_surrounded nothing blank s

theorem trim_blanks_append (s : List Char) :
    Text.trim Text.isBlank (blanks ++ s) = Text.trim Text.isBlank s := by
  have nothing : ∀ c ∈ ([] : List Char), Text.isBlank c = true := by simp
  simpa using Text.trim_surrounded blank nothing s

theorem notMem_blanks {separator : Char} (shown : Text.isBlank separator = false) :
    separator ∉ blanks := fun inside => by
  simp [blank separator inside] at shown

/-- Blanks behind the last parameter do not count. -/
theorem qualityOf_append_blanks (front : List (List Char)) (last : List Char)
    (quality : Quality) :
    qualityOf quality (front ++ [last ++ blanks]) = qualityOf quality (front ++ [last]) := by
  induction front generalizing quality with
  | nil =>
      have outside : '=' ∉ blanks := notMem_blanks blank (by decide)
      simp only [List.nil_append, qualityOf, Text.cutAt?_append_of_notMem outside]
      cases Text.cutAt? '=' last with
      | none => rfl
      | some cut => simp only [Option.map_some, trim_append_blanks blank]
  | cons parameter front ih => simp only [List.cons_append, qualityOf, ih]

theorem ofItem?_append_blanks (item : List Char) : ofItem? (item ++ blanks) = ofItem? item := by
  have outside : ';' ∉ blanks := notMem_blanks blank (by decide)
  obtain ⟨pieces, last, cut, appended_cut⟩ := Text.splitOn_append_of_notMem outside item
  unfold ofItem?
  rw [cut, appended_cut]
  cases pieces with
  | nil => simp only [List.nil_append, trim_append_blanks blank]
  | cons tag parameters => simp only [List.cons_append, qualityOf_append_blanks blank]

theorem ofItem?_blanks_append (item : List Char) : ofItem? (blanks ++ item) = ofItem? item := by
  have outside : ';' ∉ blanks := notMem_blanks blank (by decide)
  obtain ⟨tag, parameters, cut⟩ := List.exists_cons_of_ne_nil (List.splitOn_ne_nil ';' item)
  have prepended_cut : (blanks ++ item).splitOn ';' = (blanks ++ tag) :: parameters :=
    Text.splitOn_append_of_eq_cons outside cut
  unfold ofItem?
  rw [cut, prepended_cut]
  simp only [trim_blanks_append blank]

end Blanks

/-- Blanks around an item do not count. -/
theorem ofItem?_trim (item : List Char) :
    ofItem? (Text.trim Text.isBlank item) = ofItem? item := by
  obtain ⟨front, back, item_eq, front_blank, back_blank⟩ :=
    Text.exists_eq_append_trim Text.isBlank item
  conv_rhs => rw [item_eq]
  rw [ofItem?_append_blanks back_blank, ofItem?_blanks_append front_blank]

theorem listed_eq (header : String) : listed header = (items header).filterMap ofItem? := by
  rw [items, List.filterMap_map, listed]
  exact List.filterMap_congr fun item _ => (ofItem?_trim item).symm

/-! ### Another order -/

/-- Different qualities that are numbers are different ranks. -/
theorem nodup_map_rank {ranges : List LanguageRange}
    (numbers : ∀ range ∈ ranges, range.quality ≠ .nan)
    (distinct : (ranges.map LanguageRange.quality).Nodup) : (ranges.map rank).Nodup := by
  have quality_of_bits {quality : Quality} (number : quality ≠ .nan) :
      quality = .ofBits quality.bits := by
    cases quality with
    | nan => exact absurd rfl number
    | ofBits bits => rfl
  have ranges_distinct := distinct.of_map
  refine ranges_distinct.map_on fun range listed other other_listed same_rank => ?_
  refine List.inj_on_of_nodup_map distinct listed other_listed ?_
  have same_bits : range.quality.bits = other.quality.bits := OrderDual.toDual.injective same_rank
  rw [quality_of_bits (numbers range listed), quality_of_bits (numbers other other_listed),
    same_bits]

/-- If the qualities of a header are numbers and all different, its languages are in the order of
falling quality, and any header with the same items in another order has the same languages in the
same order.  So every resolver finds the same locale for both. -/
theorem parseHeader_of_perm {header other : String} (same_items : (items header).Perm (items other))
    (numbers : ∀ range ∈ listed header, range.quality ≠ .nan)
    (distinct : ((listed header).map LanguageRange.quality).Nodup) :
    parseHeader other = parseHeader header ∧
      (parseHeader header).Perm (listed header) ∧
      (parseHeader header).Pairwise (fun range later => preferred range later = true) ∧
      ∀ (resolver : AcceptResolver) (request reordered : Request),
        request.header? "accept-language" = some header →
        reordered.header? "accept-language" = some other →
        resolver.resolve reordered = resolver.resolve request := by
  have listed_perm : (listed header).Perm (listed other) := by
    rw [listed_eq, listed_eq]
    exact same_items.filterMap ofItem?
  have other_numbers : ∀ range ∈ listed other, range.quality ≠ .nan :=
    fun range inside => numbers range (listed_perm.mem_iff.mpr inside)
  have distinct_ranks := nodup_map_rank numbers distinct
  have sorted := parseHeader_eq_sortByRank numbers
  have same : parseHeader other = parseHeader header := by
    rw [parseHeader_eq_sortByRank other_numbers, sorted,
      sortByRank_eq_of_perm listed_perm distinct_ranks]
  have perm : (parseHeader header).Perm (listed header) := sorted ▸ sortByRank_perm _
  refine ⟨same, perm, ?_, fun resolver request reordered request_eq reordered_eq => ?_⟩
  · have ascending : Ascending rank (parseHeader header) := sorted ▸ ascending_sortByRank _
    have different : (parseHeader header).Pairwise fun range later => rank range ≠ rank later :=
      List.pairwise_map.mp ((perm.map rank).nodup_iff.mpr distinct_ranks)
    refine (ascending.and different).imp_of_mem fun {range later} inside later_inside order => ?_
    exact (preferred_iff_rank_lt (numbers range (perm.mem_iff.mp inside))
      (numbers later (perm.mem_iff.mp later_inside))).mpr (lt_of_le_of_ne order.1 order.2)
  · simp only [AcceptResolver.resolve, requestedLocales, request_eq, reordered_eq, same]

/-- A header with two languages that are accepted, and with items that stand for none. -/
def danishFirst : String := "da, en-gb;q=0.8, *, en;q=0, fr;q=low"

/-- The same items in another order. -/
def danishLast : String := "fr;q=low , en;q=0,en-gb;q=0.8,*,da"

/-- A request with a header. -/
def accepting (header : String) : Request :=
  { method := .get, path := "/", headers := Dict.ofList [("accept-language", header)] }

theorem parseHeader_of_perm_danish :
    (items danishFirst).Perm (items danishLast) ∧
      (∀ range ∈ listed danishFirst, range.quality ≠ .nan) ∧
      ((listed danishFirst).map LanguageRange.quality).Nodup ∧
      parseHeader danishLast = parseHeader danishFirst ∧
      ∀ resolver : AcceptResolver,
        resolver.resolve (accepting danishLast) = resolver.resolve (accepting danishFirst) := by
  have same_items : (items danishFirst).Perm (items danishLast) := by decide +kernel
  have qualities_eq : (listed danishFirst).map LanguageRange.quality =
      [.one, .ofBits 0x3F4CCCCD] := by decide +kernel
  have numbers : ∀ range ∈ listed danishFirst, range.quality ≠ .nan := by
    intro range inside is_nan
    have quality_inside := List.mem_map_of_mem (f := LanguageRange.quality) inside
    simp [qualities_eq, is_nan, Quality.one] at quality_inside
  have distinct : ((listed danishFirst).map LanguageRange.quality).Nodup := by
    rw [qualities_eq]
    decide
  obtain ⟨same, -, -, resolved⟩ := parseHeader_of_perm same_items numbers distinct
  exact ⟨same_items, numbers, distinct, same,
    fun resolver => resolved resolver _ _ (by decide +kernel) (by decide +kernel)⟩

end LanguageRange
end WebDispatch
