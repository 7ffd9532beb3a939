import WebDispatch.Http.Cookie
import WebDispatch.Locale.Tag
import WebDispatch.Proofs.Text.Separators

/-!
# Reading the tags of locales

Variants may hold any ASCII character in a place or two, and some can be mistaken for a script.  A
locale whose variants are as language tags have them is what its text is read as, and that text may
stand as the value of a cookie.
-/

namespace WebDispatch

namespace Locale

/-- Whether a variant has the form that language tags give it: five to eight letters and digits, or
a digit and three letters and digits. -/
def isTagVariant (s : List Char) : Bool :=
  s.all Char.isAlphanum &&
    match s with
    | [first, _, _, _] => first.isDigit
    | s => 5 ≤ s.length && s.length ≤ 8

/-- Whether all variants of a locale have the form that language tags give them. -/
def hasTagVariants (locale : Locale) : Bool := locale.variants.all isTagVariant

/-! ## Subtags -/

/-- A variant is too long for a region, and with four characters it starts with a digit, which a
script does not. -/
theorem isScript_of_isTagVariant {s : List Char} (variant : isTagVariant s = true) :
    isScript s = false ∧ isRegion s = false := by
  simp only [isTagVariant, Bool.and_eq_true] at variant
  obtain ⟨-, form⟩ := variant
  split at form
  · next first a b c => simp [isScript, isRegion, Text.isAlpha_of_isDigit form]
  · simp only [Bool.and_eq_true, decide_eq_true_eq] at form
    have not_two : s.length ≠ 2 := by omega
    have not_three : s.length ≠ 3 := by omega
    have not_four : s.length ≠ 4 := by omega
    simp [isScript, isRegion, not_two, not_three, not_four]

/-- What it means that the subtags of a locale are written as a locale keeps them. -/
structure WellFormed (locale : Locale) : Prop where
  language : locale.language = [] ∨ (isLanguage locale.language = true ∧
    lowerCase locale.language = locale.language ∧ locale.language ≠ undetermined)
  script : ∀ s ∈ locale.script, isScript s = true ∧ titleCase s = s
  region : ∀ s ∈ locale.region, isRegion s = true ∧ upperCase s = s
  variants : ∀ s ∈ locale.variants, isVariant s = true ∧ lowerCase s = s
  ordered : locale.variants.Pairwise (· < ·)

theorem wellFormed (locale : Locale) : locale.WellFormed := by
  have canonical := locale.canonical
  simp only [isCanonical, Bool.and_eq_true, Bool.or_eq_true, List.isEmpty_iff, beq_iff_eq,
    bne_iff_ne, Option.all_eq_true, List.all_eq_true, decide_eq_true_eq] at canonical
  obtain ⟨⟨⟨⟨language, script⟩, region⟩, variants⟩, ordered⟩ := canonical
  exact ⟨by simpa [and_assoc] using language, script, region, variants, ordered⟩

theorem all_isAlphanum_of_all_isAlpha {s : List Char} (letters : s.all Char.isAlpha = true) :
    s.all Char.isAlphanum = true := by
  rw [List.all_eq_true] at letters ⊢
  intro c listed
  rw [Char.isAlphanum, letters c listed, Bool.true_or]

theorem isAlphanum_of_isLanguage {s : List Char} (language : isLanguage s = true) :
    s.all Char.isAlphanum = true := by
  simp only [isLanguage, Bool.and_eq_true] at language
  exact all_isAlphanum_of_all_isAlpha language.2

theorem isAlphanum_of_isScript {s : List Char} (script : isScript s = true) :
    s.all Char.isAlphanum = true := by
  simp only [isScript, Bool.and_eq_true] at script
  exact all_isAlphanum_of_all_isAlpha script.2

theorem isAlphanum_of_isRegion {s : List Char} (region : isRegion s = true) :
    s.all Char.isAlphanum = true := by
  simp only [isRegion, Bool.or_eq_true, Bool.and_eq_true] at region
  rcases region with ⟨-, letters⟩ | ⟨-, digits⟩
  · exact all_isAlphanum_of_all_isAlpha letters
  · rw [List.all_eq_true] at digits ⊢
    intro c listed
    rw [Char.isAlphanum, digits c listed, Bool.or_true]

theorem languageText_spec (locale : Locale) :
    isLanguage locale.languageText = true ∧
      (if lowerCase locale.languageText = undetermined then [] else
        lowerCase locale.languageText) = locale.language := by
  unfold languageText
  rcases locale.wellFormed.language with empty | ⟨language_valid, language_cased, determined⟩
  · rw [empty]
    decide
  · have nonempty : locale.language.isEmpty = false := by
      rw [List.isEmpty_eq_false_iff]
      rintro empty
      rw [empty] at language_valid
      contradiction
    rw [nonempty, if_neg Bool.false_ne_true, language_cased, if_neg determined]
    exact ⟨language_valid, rfl⟩

/-- The subtags of a locale are letters and digits. -/
theorem isAlphanum_of_mem_toSubtags {locale : Locale} (variants : locale.hasTagVariants = true)
    {s : List Char} (listed : s ∈ locale.toSubtags) : s.all Char.isAlphanum = true := by
  have formed := locale.wellFormed
  simp only [toSubtags, List.cons_append, List.mem_cons, List.mem_append, Option.mem_toList]
    at listed
  rcases listed with language | (script | region) | variant
  · rw [language]
    exact isAlphanum_of_isLanguage locale.languageText_spec.1
  · exact isAlphanum_of_isScript (formed.script s script).1
  · exact isAlphanum_of_isRegion (formed.region s region).1
  · have tag_variant := List.all_eq_true.mp variants s variant
    simp only [isTagVariant, Bool.and_eq_true] at tag_variant
    exact tag_variant.1

/-! ## Variants -/

theorem insertVariant_of_last {sorted : List (List Char)} {variant : List Char}
    (last : ∀ other ∈ sorted, other < variant) :
    insertVariant variant sorted = sorted ++ [variant] := by
  induction sorted with
  | nil => rfl
  | cons other rest ih =>
      obtain ⟨other_less, rest_less⟩ := List.forall_mem_cons.mp last
      have not_before : ¬ variant < other := List.lt_asymm other_less
      have not_same : variant ≠ other := fun same => not_before (same ▸ other_less)
      rw [insertVariant, if_neg not_before, if_neg not_same, ih rest_less, List.cons_append]

/-- Variants that are sorted and distinct are left as they are. -/
theorem foldl_insertVariant (sorted variants : List (List Char))
    (ordered : (sorted ++ variants).Pairwise (· < ·)) :
    variants.foldl (fun sorted variant => insertVariant variant sorted) sorted =
      sorted ++ variants := by
  induction variants generalizing sorted with
  | nil => simp
  | cons variant rest ih =>
      have last : ∀ other ∈ sorted, other < variant := fun other listed =>
        (List.pairwise_append.mp ordered).2.2 other listed variant List.mem_cons_self
      rw [List.foldl_cons, insertVariant_of_last last, ih _ (by simpa using ordered),
        List.append_assoc, List.singleton_append]

/-! ## Round trip -/

theorem takeScript_toSubtags {locale : Locale} (variants : locale.hasTagVariants = true) :
    takeScript (locale.script.toList ++ locale.region.toList ++ locale.variants) =
      (locale.script, locale.region.toList ++ locale.variants) := by
  have formed := locale.wellFormed
  rcases script_eq : locale.script with _ | script
  · rcases region_eq : locale.region with _ | region
    · rcases variants_eq : locale.variants with _ | ⟨variant, rest⟩
      · rfl
      · have tag_variant := List.all_eq_true.mp variants variant (by simp [variants_eq])
        simp [takeScript, (isScript_of_isTagVariant tag_variant).1]
    · have region_valid := (formed.region region region_eq).1
      have not_script : isScript region = false := by
        simp only [isRegion, Bool.or_eq_true, Bool.and_eq_true, beq_iff_eq] at region_valid
        have not_four : region.length ≠ 4 := by omega
        simp [isScript, not_four]
      simp [takeScript, not_script]
  · obtain ⟨script_valid, script_cased⟩ := formed.script script script_eq
    simp [takeScript, script_valid, script_cased]

theorem takeRegion_toSubtags {locale : Locale} (variants : locale.hasTagVariants = true) :
    takeRegion (locale.region.toList ++ locale.variants) = (locale.region, locale.variants) := by
  have formed := locale.wellFormed
  rcases region_eq : locale.region with _ | region
  · rcases variants_eq : locale.variants with _ | ⟨variant, rest⟩
    · rfl
    · have tag_variant := List.all_eq_true.mp variants variant (by simp [variants_eq])
      simp [takeRegion, (isScript_of_isTagVariant tag_variant).2]
  · obtain ⟨region_valid, region_cased⟩ := formed.region region region_eq
    simp [takeRegion, region_valid, region_cased]

theorem ofSubtags_toSubtags {locale : Locale} (variants : locale.hasTagVariants = true) :
    ofSubtags locale.toSubtags = .ok locale := by
  have formed := locale.wellFormed
  obtain ⟨language_valid, language_eq⟩ := locale.languageText_spec
  have all_variants : locale.variants.all isVariant = true :=
    List.all_eq_true.mpr fun s listed => (formed.variants s listed).1
  have variants_cased : locale.variants.map lowerCase = locale.variants :=
    (List.map_congr_left fun s listed => (formed.variants s listed).2).trans (List.map_id _)
  have variants_sorted := foldl_insertVariant [] locale.variants formed.ordered
  have toSubtags_eq : locale.toSubtags = locale.languageText ::
      (locale.script.toList ++ locale.region.toList ++ locale.variants) := rfl
  rw [toSubtags_eq, ofSubtags]
  simp only [language_valid, if_true, takeScript_toSubtags variants,
    takeRegion_toSubtags variants, all_variants, variants_cased, variants_sorted, List.nil_append,
    language_eq, locale.canonical, dif_pos]

/-- The text of a locale is letters, digits and hyphens. -/
theorem mem_render {locale : Locale} (variants : locale.hasTagVariants = true) {c : Char}
    (listed : c ∈ ['-'].intercalate locale.toSubtags) : c = '-' ∨ c.isAlphanum = true := by
  rcases Text.mem_intercalate listed with hyphen | ⟨s, s_listed, inside⟩
  · exact .inl hyphen
  · exact .inr (List.all_eq_true.mp (isAlphanum_of_mem_toSubtags variants s_listed) c inside)

/-- A locale is what its text is read as. -/
theorem parse_render {locale : Locale} (variants : locale.hasTagVariants = true) :
    parse locale.render = .ok locale := by
  have separated : ∀ s ∈ locale.toSubtags, '-' ∉ s := by
    intro s listed hyphen
    have alphanum := List.all_eq_true.mp (isAlphanum_of_mem_toSubtags variants listed) _ hyphen
    contradiction
  have no_underscore : (['-'].intercalate locale.toSubtags).map
      (fun c => if c = '_' then '-' else c) = ['-'].intercalate locale.toSubtags := by
    refine (List.map_congr_left ?_).trans (List.map_id _)
    intro c listed
    refine if_neg ?_
    rintro rfl
    rcases mem_render variants listed with hyphen | alphanum <;> contradiction
  have nonempty : locale.toSubtags ≠ [] := List.cons_ne_nil _ _
  rw [parse, render, String.toList_ofList, subtags, no_underscore,
    List.splitOn_intercalate _ separated nonempty]
  exact ofSubtags_toSubtags variants

theorem isValueChar_of_isAlphanum {c : Char} (alphanum : c.isAlphanum = true) :
    Cookie.isValueChar c = true := by
  have range := Text.isAlphanum_iff_toNat.mp alphanum
  have graphic : Text.isAsciiGraphic c = true := by
    simp only [Text.isAsciiGraphic, Bool.and_eq_true, decide_eq_true_eq]
    omega
  have unlisted : "\",;\\".toList.contains c = false := by
    rw [Bool.eq_false_iff]
    intro listed
    rw [List.contains_iff_mem] at listed
    simp only [String.reduceToList, List.mem_cons, List.not_mem_nil, or_false] at listed
    rcases listed with rfl | rfl | rfl | rfl <;> contradiction
  rw [Cookie.isValueChar, graphic, unlisted]
  rfl

/-- The text of a locale may stand as the value of a cookie. -/
theorem isValue_render {locale : Locale} (variants : locale.hasTagVariants = true) :
    Cookie.isValue locale.render = true := by
  rw [Cookie.isValue, render, String.toList_ofList, List.all_eq_true]
  intro c listed
  rcases mem_render variants listed with rfl | alphanum
  · decide
  · exact isValueChar_of_isAlphanum alphanum

end Locale
end WebDispatch
