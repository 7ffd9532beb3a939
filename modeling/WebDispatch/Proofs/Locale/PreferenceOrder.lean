import WebDispatch.Locale.Ranges
import WebDispatch.Proofs.Decimal.UnitInterval
import WebDispatch.Proofs.RunSorting

/-!
# The order of preference

The languages that a header accepts, sorted by falling quality.  A quality is a number above zero
and up to one, unless the header writes it as the word for no number, in any case and with any sign.
Such a quality is neither dropped nor ordered.  If none is written, the languages come in the order
of their qualities, and those of one quality in the order of the header.
-/

namespace WebDispatch

namespace Quality

/-- The number that a quality is. -/
def number? : Quality → Option ℚ
  | nan => none
  | ofBits bits => some (Decimal.value bits)

/-- The bit pattern of a quality that is a number. -/
def bits : Quality → Nat
  | nan => 0
  | ofBits bits => bits

/-- Whether a quality is a number above zero and up to one. -/
def IsPositive (quality : Quality) : Prop :=
  ∃ number ∈ quality.number?, 0 < number ∧ number ≤ 1

/-- Whether no number that a quality is lies above one that another quality is. -/
def AtMost (quality other : Quality) : Prop :=
  ∀ m ∈ other.number?, ∀ n ∈ quality.number?, n ≤ m

/-- Whether a text is the word for no number. -/
def IsNanWord (s : List Char) : Prop :=
  ∃ sign ∈ [[], ['+'], ['-']], ∃ word, s = sign ++ word ∧ word.map Char.toLower = ['n', 'a', 'n']

/-! ### Reading a quality -/

theorem ofDecimal?_eq_some {s : List Char} {quality : Quality}
    (read : ofDecimal? s = some quality) :
    ∃ bits, quality = ofBits bits ∧ bits ≤ Decimal.oneBits := by
  unfold ofDecimal? at read
  dsimp only at read
  split at read
  all_goals
    split at read
    · exact nomatch read
    · obtain ⟨exponent, -, value_eq⟩ := Option.bind_eq_some_iff.mp read
      exact ⟨_, (Option.some.inj value_eq).symm, Decimal.nearestBitsUpToOne_le _ _⟩

theorem ofWord?_eq_some {s : List Char} {quality : Quality} (read : ofWord? s = some quality) :
    (quality = nan ∧ s.map Char.toLower = ['n', 'a', 'n']) ∨ quality = one := by
  unfold ofWord? at read
  dsimp only at read
  split at read
  · next lowered =>
      refine .inl ⟨(Option.some.inj read).symm, ?_⟩
      simpa using congrArg String.toList lowered
  · split at read
    · exact .inr (Option.some.inj read).symm
    · exact nomatch read

theorem of_unsigned {s : List Char} {quality : Quality}
    (read : (ofDecimal? s <|> ofWord? s) = some quality) :
    (quality = nan ∧ s.map Char.toLower = ['n', 'a', 'n']) ∨
      ∃ bits, quality = ofBits bits ∧ bits ≤ Decimal.oneBits := by
  cases decimal : ofDecimal? s with
  | some number =>
      rw [decimal] at read
      exact .inr (ofDecimal?_eq_some (decimal.trans read))
  | none =>
      rw [decimal] at read
      rcases ofWord?_eq_some read with is_nan | rfl
      · exact .inl is_nan
      · exact .inr ⟨_, rfl, le_rfl⟩

/-- A text that can be read as a quality is the word for no number, or it is read as a number from
zero to one. -/
theorem parse?_eq_some {s : List Char} {quality : Quality} (read : parse? s = some quality) :
    (quality = nan ∧ IsNanWord s) ∨ ∃ bits, quality = ofBits bits ∧ bits ≤ Decimal.oneBits := by
  unfold parse? at read
  split at read
  rename_i negative body split_eq
  have signed : ∃ sign ∈ [[], ['+'], ['-']], s = sign ++ body := by
    split at split_eq <;> cases split_eq <;> simp
  split at read
  · next bits found =>
      refine .inr ⟨_, (Option.some.inj read).symm, ?_⟩
      rcases of_unsigned found with ⟨impossible, -⟩ | ⟨same, same_eq, up_to_one⟩
      · exact nomatch impossible
      · cases same_eq
        split
        · exact Nat.zero_le _
        · exact up_to_one
  · next no_number =>
      rcases of_unsigned read with ⟨is_nan, word⟩ | ⟨bits, rfl, -⟩
      · obtain ⟨sign, is_sign, s_eq⟩ := signed
        exact .inl ⟨is_nan, sign, is_sign, body, s_eq, word⟩
      · exact (no_number bits read).elim

theorem isPositive_ofBits {bits : Nat} (positive : 0 < bits) (up_to_one : bits ≤ Decimal.oneBits) :
    (ofBits bits).IsPositive := by
  refine ⟨Decimal.value bits, rfl, ?_, ?_⟩
  · rw [← Decimal.value_zero]
    exact Decimal.strictMono_value positive
  · rw [← Decimal.value_oneBits]
    exact Decimal.strictMono_value.monotone up_to_one

end Quality

namespace LanguageRange

/-! ### Reading a header -/

/-- The ranges that the items of a header stand for, in the order of the header. -/
def listed (header : String) : List LanguageRange :=
  (header.toList.splitOn ',').filterMap ofItem?

/-- Whether a parameter gives a quality by a value. -/
def GivesQuality (parameter value : List Char) : Prop :=
  ∃ key, parameter = key ++ '=' :: value ∧ Text.trim Text.isBlank key = ['q']

/-- Whether an item of a header writes a quality that is no number. -/
def WritesNan (item : List Char) : Prop :=
  ∃ parameter ∈ (item.splitOn ';').tail, ∃ value,
    GivesQuality parameter value ∧ Quality.IsNanWord (Text.trim Text.isBlank value)

theorem qualityOf_eq_some {parameters : List (List Char)} {initial quality : Quality}
    (read : qualityOf initial parameters = some quality) :
    quality = initial ∨ ∃ parameter ∈ parameters, ∃ value, GivesQuality parameter value ∧
      Quality.parse? (Text.trim Text.isBlank value) = some quality := by
  induction parameters generalizing initial with
  | nil => exact .inl (Option.some.inj read).symm
  | cons first rest ih =>
      have from_rest {other : Quality} (read : qualityOf other rest = some quality) :
          quality = other ∨ ∃ parameter ∈ first :: rest, ∃ value, GivesQuality parameter value ∧
            Quality.parse? (Text.trim Text.isBlank value) = some quality :=
        (ih read).imp_right fun ⟨parameter, inside, given⟩ =>
          ⟨parameter, List.mem_cons_of_mem _ inside, given⟩
      unfold qualityOf at read
      split at read
      · next key value cut =>
          split at read
          · next is_quality =>
              obtain ⟨other, other_eq, read⟩ := Option.bind_eq_some_iff.mp read
              have given : GivesQuality first value :=
                ⟨key, (Text.eq_of_cutAt? cut).1, is_quality⟩
              rcases from_rest read with rfl | later
              · exact .inr ⟨first, List.mem_cons_self, value, given, other_eq⟩
              · exact .inr later
          · exact from_rest read
      · exact from_rest read

/-- The quality of a range is a number above zero and up to one, unless its item writes none. -/
theorem quality_of_ofItem? {item : List Char} {range : LanguageRange}
    (read : ofItem? item = some range) :
    range.quality.IsPositive ∨ range.quality = .nan ∧ WritesNan item := by
  unfold ofItem? at read
  split at read
  · exact nomatch read
  · next tag parameters cut =>
      dsimp only at read
      split at read
      · exact nomatch read
      split at read
      · exact nomatch read
      next quality quality_eq =>
      split at read
      · exact nomatch read
      next not_zero =>
      split at read
      · next locale _ =>
          obtain rfl := Option.some.inj read
          have up_to_one : (quality = .nan ∧ WritesNan item) ∨
              ∃ bits, quality = .ofBits bits ∧ bits ≤ Decimal.oneBits := by
            rcases qualityOf_eq_some quality_eq with rfl |
              ⟨parameter, inside, value, given, value_eq⟩
            · exact .inr ⟨_, rfl, le_rfl⟩
            · refine (Quality.parse?_eq_some value_eq).imp_left fun ⟨is_nan, word⟩ => ⟨is_nan, ?_⟩
              exact ⟨parameter, cut ▸ inside, value, given, word⟩
          rcases up_to_one with is_nan | ⟨bits, rfl, bits_le⟩
          · exact .inr is_nan
          · refine .inl (Quality.isPositive_ofBits ?_ bits_le)
            refine Nat.pos_of_ne_zero fun zero => not_zero ?_
            simp [Quality.isZero, zero]
      · exact nomatch read

/-! ### The order -/

/-- The rank of a range in the order of preference. -/
def rank (range : LanguageRange) : ℕᵒᵈ :=
  OrderDual.toDual range.quality.bits

theorem preferred_iff_rank_lt {a b : LanguageRange} (a_number : a.quality ≠ .nan)
    (b_number : b.quality ≠ .nan) : preferred a b = true ↔ rank a < rank b := by
  obtain ⟨a_locale, a_quality⟩ := a
  obtain ⟨b_locale, b_quality⟩ := b
  cases a_quality with
  | nan => exact absurd rfl a_number
  | ofBits m =>
      cases b_quality with
      | nan => exact absurd rfl b_number
      | ofBits n => simp [preferred, Quality.less, rank, Quality.bits]

/-- If all qualities are numbers, the ranges of a header are those of its items in a stable sort by
falling quality. -/
theorem parseHeader_eq_sortByRank {header : String}
    (numbers : ∀ range ∈ listed header, range.quality ≠ .nan) :
    parseHeader header = sortByRank rank (listed header) := by
  have all_numbers : (listed header).all (·.quality != .nan) = true := by
    simpa using numbers
  unfold parseHeader byPreference
  rw [if_pos (.inr all_numbers)]
  exact RunSort.insertAll_eq_sortByRank fun a a_listed b b_listed =>
    preferred_iff_rank_lt (numbers a a_listed) (numbers b b_listed)

/-- Whatever qualities a header writes, its ranges are ranges of its items. -/
theorem parseHeader_subset (header : String) : parseHeader header ⊆ listed header := by
  unfold parseHeader byPreference
  split
  · exact (RunSort.insertAll_perm preferred [] _).subset
  · exact RunSort.sort_subset preferred _

/-- What a sender expects of the ranges of a header with certain items. -/
structure InPreferenceOrder (ranges items : List LanguageRange) : Prop where
  /-- Every item has its range. -/
  perm : ranges.Perm items
  /-- All qualities are numbers above zero and up to one. -/
  positive : ∀ range ∈ ranges, range.quality.IsPositive
  /-- No quality is below a later one. -/
  falling : ranges.Pairwise fun range later => later.quality.AtMost range.quality
  /-- Ranges of one quality are in the order of their items. -/
  stable : ∀ quality, ranges.filter (·.quality = quality) = items.filter (·.quality = quality)

theorem atMost_of_rank_le {a b : LanguageRange} (before : rank a ≤ rank b) :
    b.quality.AtMost a.quality := by
  obtain ⟨a_locale, a_quality⟩ := a
  obtain ⟨b_locale, b_quality⟩ := b
  cases a_quality with
  | nan => exact nofun
  | ofBits m =>
      cases b_quality with
      | nan => exact fun _ _ => nofun
      | ofBits n =>
          rintro _ ⟨⟩ _ ⟨⟩
          exact Decimal.strictMono_value.monotone before

theorem filter_quality {ranges : List LanguageRange} (bits : Nat)
    (numbers : ∀ range ∈ ranges, range.quality ≠ .nan) :
    ranges.filter (·.quality = .ofBits bits) = ofRank rank (OrderDual.toDual bits) ranges := by
  refine List.filter_congr fun range inside => ?_
  obtain ⟨locale, quality⟩ := range
  cases quality with
  | nan => exact absurd rfl (numbers _ inside)
  | ofBits n => simp [rank, Quality.bits]

/-- Each range of a header has a quality above zero and up to one, unless an item writes a quality
that is no number.  If no range has such a quality, the ranges are those of the items in the order
of preference. -/
theorem parseHeader_inPreferenceOrder (header : String) :
    (∀ range ∈ parseHeader header, range ∈ listed header ∧ (range.quality.IsPositive ∨
      range.quality = .nan ∧ ∃ item ∈ header.toList.splitOn ',', WritesNan item)) ∧
    ((∀ range ∈ listed header, range.quality ≠ .nan) →
      InPreferenceOrder (parseHeader header) (listed header)) := by
  have of_listed : ∀ range ∈ listed header, range.quality.IsPositive ∨
      range.quality = .nan ∧ ∃ item ∈ header.toList.splitOn ',', WritesNan item := by
    intro range inside
    obtain ⟨item, item_inside, read⟩ := List.mem_filterMap.mp inside
    exact (quality_of_ofItem? read).imp_right fun ⟨is_nan, word⟩ =>
      ⟨is_nan, item, item_inside, word⟩
  refine ⟨fun range returned => ?_, fun numbers => ?_⟩
  · have inside := parseHeader_subset header returned
    exact ⟨inside, of_listed range inside⟩
  · have sorted := parseHeader_eq_sortByRank numbers
    have numbers_sorted : ∀ range ∈ parseHeader header, range.quality ≠ .nan :=
      fun range returned => numbers range (parseHeader_subset header returned)
    constructor
    case perm =>
      rw [sorted]
      exact List.mergeSort_perm _ _
    case positive =>
      intro range returned
      exact (of_listed range (parseHeader_subset header returned)).resolve_right
        fun is_nan => numbers_sorted range returned is_nan.1
    case falling =>
      have ascending : Ascending rank (parseHeader header) := sorted ▸ ascending_sortByRank _
      exact ascending.imp fun before => atMost_of_rank_le before
    case stable =>
      intro quality
      cases quality with
      | nan =>
          have none_sorted : (parseHeader header).filter (·.quality = .nan) = [] := by
            simpa using numbers_sorted
          have none_listed : (listed header).filter (·.quality = .nan) = [] := by
            simpa using numbers
          rw [none_sorted, none_listed]
      | ofBits bits =>
          rw [filter_quality bits numbers_sorted, filter_quality bits numbers, sorted,
            ofRank_sortByRank]

theorem parseHeader_three_languages :
    (∀ range ∈ listed "da, en-gb;q=0.8, en;q=0.9", range.quality ≠ .nan) ∧
      InPreferenceOrder (parseHeader "da, en-gb;q=0.8, en;q=0.9")
        (listed "da, en-gb;q=0.8, en;q=0.9") :=
  have numbers : ∀ range ∈ listed "da, en-gb;q=0.8, en;q=0.9", range.quality ≠ .nan := by
    simpa using (show (listed "da, en-gb;q=0.8, en;q=0.9").all (·.quality ≠ .nan) = true by
      decide +kernel)
  ⟨numbers, (parseHeader_inPreferenceOrder _).2 numbers⟩

/-- A quality that is no number is returned, and in front of one the qualities need not be
falling. -/
theorem not_forall_parseHeader_positive :
    (¬ ∀ header, ∀ range ∈ parseHeader header, range.quality.IsPositive) ∧
      ¬ ∀ header, (parseHeader header).Pairwise fun range later =>
        later.quality.AtMost range.quality := by
  constructor
  · intro positive
    have returned : (parseHeader "en;q=nan").map (·.quality) = [.nan] := by decide +kernel
    obtain ⟨range, inside, is_nan⟩ : ∃ range ∈ parseHeader "en;q=nan", range.quality = .nan := by
      simpa using (congrArg (Quality.nan ∈ ·) returned)
    obtain ⟨number, number_eq, -⟩ := positive "en;q=nan" range inside
    rw [is_nan] at number_eq
    exact nomatch number_eq
  · intro falling
    have returned : (parseHeader "de;q=0.5,fr;q=nan,en;q=0.9").map (·.quality) =
        [.ofBits 0x3F000000, .nan, .ofBits 0x3F666666] := by decide +kernel
    have qualities_falling : ((parseHeader "de;q=0.5,fr;q=nan,en;q=0.9").map (·.quality)).Pairwise
        fun quality later => later.AtMost quality := List.pairwise_map.mpr (falling _)
    rw [returned] at qualities_falling
    have too_high : Quality.AtMost (.ofBits 0x3F666666) (.ofBits 0x3F000000) :=
      List.rel_of_pairwise_cons qualities_falling (by simp)
    have lower := Decimal.strictMono_value (show 0x3F000000 < 0x3F666666 by decide)
    exact absurd (too_high _ rfl _ rfl) lower.not_ge

end LanguageRange
end WebDispatch
