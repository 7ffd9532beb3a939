import WebDispatch.Proofs.Http.DateRoundTrip
import WebDispatch.Proofs.Text.Separators

/-!
# The obsolete forms of dates

A date in one of the obsolete forms is refused as one in a form that is tried before, so that it
means what its own form says.  An instant of the years from 1970 to 2069, which are those that two
digits stand for, is read back from each of its forms, with white space around it:
`HttpDate.parse?_of_forms`.
-/

namespace WebDispatch
namespace HttpDate

theorem parse?_surrounded {front back : String}
    (front_blank : ∀ c ∈ front.toList, Text.isBlank c = true)
    (back_blank : ∀ c ∈ back.toList, Text.isBlank c = true) (s : String) :
    parse? (front ++ s ++ back) = parse? s := by
  have trim_eq : Text.trim Text.isBlank (front ++ s ++ back).toList =
      Text.trim Text.isBlank s.toList := by
    rw [String.toList_append, String.toList_append, Text.trim_surrounded front_blank back_blank]
  rw [parse?, parse?, trim_eq]

/-! ## Writing -/

/-- The long names of the days of the week, from Monday. -/
def longDayNames : List String :=
  ["Monday", "Tuesday", "Wednesday", "Thursday", "Friday", "Saturday", "Sunday"]

/-- The time of an instant within its day. -/
def renderTime (instant : Instant) : String :=
  let time := instant.secondOfDay
  padded 2 (time / 3600) ++ ":" ++ padded 2 (time / 60 % 60) ++ ":" ++
    padded 2 (time % 60 + instant.nanoseconds / 1000000000)

/-- An instant in the form `Sunday, 06-Nov-94 08:49:37 GMT`. -/
def renderHyphenated (instant : Instant) : String :=
  let date := instant.date
  longDayNames.getD date.weekday "" ++ ", " ++ padded 2 date.day ++ "-" ++
    monthNames.getD (date.month - 1) "" ++ "-" ++ padded 2 (date.year % 100).toNat ++ " " ++
    renderTime instant ++ " GMT"

/-- An instant in the form `Sun Nov  6 08:49:37 1994`, with a character in front of a day of one
digit. -/
def renderYearLast (fill : Char) (instant : Instant) : String :=
  let date := instant.date
  let day := if date.day < 10 then String.ofList [fill] ++ padded 1 date.day else padded 2 date.day
  dayNames.getD date.weekday "" ++ " " ++ monthNames.getD (date.month - 1) "" ++ " " ++ day ++
    " " ++ renderTime instant ++ " " ++ renderYear date.year

/-- An instant in each of the forms that are read; the day of the last one may be filled up with a
zero or with a blank. -/
def forms (instant : Instant) : List String :=
  [render instant, renderHyphenated instant, renderYearLast '0' instant,
    renderYearLast ' ' instant]

/-! ## Times -/

/-- The characters of a time of a day. -/
def timeText (hour minute second : Nat) : List Char :=
  twoDigits hour ++ ':' :: (twoDigits minute ++ ':' :: twoDigits second)

theorem looseNumber_twoDigits {n : Nat} (small : n < 100) (rest : List Char) :
    looseNumber (twoDigits n ++ rest) = some (n, rest) := by
  rw [looseNumber, bind_eq_some (blanks_of_shown (shown_twoDigits small rest)),
    number_twoDigits (by decide) small rest]

theorem looseNumber_space {n : Nat} (small : n < 100) (rest : List Char) :
    looseNumber (' ' :: (twoDigits n ++ rest)) = some (n, rest) := by
  rw [looseNumber, bind_eq_some (blanks_space_of_shown (shown_twoDigits small rest)),
    number_twoDigits (by decide) small rest]

theorem looseTime_timeText {hour minute second : Nat} (hour_lt : hour < 100)
    (minute_lt : minute < 100) (second_lt : second < 100) (rest : List Char) :
    looseTime (' ' :: (timeText hour minute second ++ rest)) =
      some ((hour, minute, second), rest) := by
  have text_eq : timeText hour minute second ++ rest =
      twoDigits hour ++ ':' :: (twoDigits minute ++ ':' :: (twoDigits second ++ rest)) := by
    simp [timeText]
  rw [text_eq, looseTime, bind_eq_some (looseNumber_space hour_lt _),
    bind_eq_some (expect_mark rfl _), bind_eq_some (looseNumber_twoDigits minute_lt _),
    bind_eq_some (expect_mark rfl _), bind_eq_some (looseNumber_twoDigits second_lt _)]
  rfl

/-! ## Names of days -/

theorem longDayName_eq : ∀ day < 7, longDayNames.getD day "" =
    dayNames.getD day "" ++ dayEndings.getD day "" := by
  decide +kernel

/-- What makes up a long name starts with a letter. -/
theorem exists_dayEnding_eq {day : Nat} (inside : day < 7) :
    ∃ c more, (dayEndings.getD day "").toList = c :: more ∧ c ≠ ',' ∧ c.toLower ≠ ' ' := by
  have head : ∀ day < 7, (dayEndings.getD day "").toList.head?.any
      (fun c => c != ',' && c.toLower != ' ') = true := by decide +kernel
  have day_head := head day inside
  cases ending : (dayEndings.getD day "").toList with
  | nil =>
      rw [ending] at day_head
      cases day_head
  | cons c more =>
      rw [ending] at day_head
      exact ⟨c, more, rfl, by simpa using day_head⟩

theorem longDay_append {day : Nat} (inside : day < 7) (rest : List Char) :
    longDay ((longDayNames.getD day "").toList ++ rest) = some (day, rest) := by
  have taken : ((dayEndings.getD day "").toList ++ rest).take (dayEndings.getD day "").length =
      (dayEndings.getD day "").toList := by rw [← String.length_toList, List.take_left]
  have dropped : ((dayEndings.getD day "").toList ++ rest).drop (dayEndings.getD day "").length =
      rest := by rw [← String.length_toList, List.drop_left]
  have same : Text.sameIgnoringCase (String.ofList (dayEndings.getD day "").toList)
      (dayEndings.getD day "") = true := by
    rw [String.ofList_toList, Text.sameIgnoringCase, beq_self_eq_true]
  rw [longDayName_eq day inside, String.toList_append, List.append_assoc]
  simp only [longDay, shortDay_append inside, taken, dropped, same, if_true]

/-- A short name that a space comes after is not the beginning of a long one. -/
theorem longDay_space {day : Nat} (inside : day < 7) (rest : List Char) :
    longDay ((dayNames.getD day "").toList ++ ' ' :: rest) = some (day, ' ' :: rest) := by
  have other : Text.sameIgnoringCase
      (String.ofList ((' ' :: rest).take (dayEndings.getD day "").length))
      (dayEndings.getD day "") = false := by
    obtain ⟨c, more, ending_eq, -, not_space⟩ := exists_dayEnding_eq inside
    rw [← String.length_toList, Text.sameIgnoringCase, beq_eq_false_iff_ne]
    intro same
    have chars_eq := congrArg String.toList same
    rw [Text.lower, Text.lower, ending_eq, String.toList_ofList, String.toList_ofList,
      String.toList_ofList, List.length_cons, List.take_succ_cons, List.map_cons,
      List.map_cons] at chars_eq
    exact not_space (List.cons.inj chars_eq).1.symm
  simp only [longDay, shortDay_append inside, other, Bool.false_eq_true, if_false]

theorem leadingDay_of_ne {day : Nat} (inside : day < 7) {c : Char} (other : c ≠ ',')
    (rest : List Char) : leadingDay ((dayNames.getD day "").toList ++ c :: rest) = none := by
  simp only [leadingDay, shortDay_append inside]
  split
  · next eq => simp_all
  · rfl
  · next eq => cases eq

/-- The preferred form asks for a comma behind the short name of a day. -/
theorem preferred_of_ne {day : Nat} (inside : day < 7) {c : Char} (other : c ≠ ',')
    (rest : List Char) : preferred ((dayNames.getD day "").toList ++ c :: rest) = none := by
  rw [preferred, bind_eq_some (blanks_of_shown (shown_append (shown_dayName day inside) _)),
    bind_eq_none (leadingDay_of_ne inside other rest)]

/-! ## The form with hyphens -/

/-- The characters of a date in the form with hyphens. -/
def hyphenatedText (weekday day month shortYear hour minute second : Nat) : List Char :=
  (longDayNames.getD weekday "").toList ++ ',' :: ' ' :: (twoDigits day ++
    '-' :: ((monthNames.getD (month - 1) "").toList ++ '-' :: (twoDigits shortYear ++
      ' ' :: (timeText hour minute second ++ " GMT".toList))))

theorem hyphenated_hyphenatedText {weekday day month shortYear hour minute second : Nat}
    (fit : PartsFit weekday day month hour minute second) (year_lt : shortYear < 100) :
    hyphenated (hyphenatedText weekday day month shortYear hour minute second) =
      some ({ weekday := some weekday
              date := { year := if shortYear < 70 then shortYear + 2000 else shortYear + 1900
                        month, day }
              hour, minute, second }, []) := by
  have zone_next : blanks " GMT".toList = some ((), "GMT".toList) := by decide
  rw [hyphenated, hyphenatedText, bind_eq_some (longDay_append fit.weekday_lt _),
    bind_eq_some (expect_mark rfl _),
    bind_eq_some (blanks_space_of_shown (shown_twoDigits fit.day_lt _)),
    bind_eq_some (looseNumber_twoDigits fit.day_lt _),
    bind_eq_some (expect_mark rfl _),
    bind_eq_some (month_append fit.from_one fit.to_twelve _),
    bind_eq_some (expect_mark rfl _),
    bind_eq_some (looseNumber_twoDigits year_lt _),
    bind_eq_some (looseTime_timeText fit.hour_lt fit.minute_lt fit.second_lt _)]
  simp only
  rw [bind_eq_some zone_next]
  rfl

/-! ## The form with the year at the end -/

/-- Words with single spaces between them, of which some may be empty. -/
theorem squeezed_intercalate {words : List (List Char)} (nonempty : words ≠ [])
    (shown : ∀ word ∈ words, ∀ c ∈ word, Text.isBlank c = false) :
    squeezed ([' '].intercalate words) =
      [' '].intercalate (words.filter fun word => !word.isEmpty) := by
  rw [squeezed, Text.splitOnP_intercalate (by decide) nonempty shown]

/-- The characters of a date in the form with the year at the end. -/
def yearLastText (weekday month : Nat) (day : List Char) (hour minute second year : Nat) :
    List Char :=
  (dayNames.getD weekday "").toList ++ ' ' :: ((monthNames.getD (month - 1) "").toList ++
    ' ' :: (day ++ ' ' :: (timeText hour minute second ++ ' ' :: fourDigits year)))

/-- A day of a month in two digits, or in one if it has no more. -/
def IsDayText (n : Nat) (text : List Char) : Prop :=
  text = twoDigits n ∨ n < 10 ∧ text = [Nat.digitChar n]

theorem IsDayText.looseNumber_eq {n : Nat} {text : List Char} (day_text : IsDayText n text)
    (small : n < 100) (rest : List Char) :
    looseNumber (' ' :: (text ++ ' ' :: rest)) = some (n, ' ' :: rest) := by
  rcases day_text with rfl | ⟨one_digit, rfl⟩
  · exact looseNumber_space small _
  · have digit : (Nat.digitChar n).isDigit = true := by simp [Nat.isDigit_digitChar, one_digit]
    have shown : ∀ c ∈ ([Nat.digitChar n] ++ ' ' :: rest).head?, Text.isBlank c = false :=
      shown_append (by simp [isBlank_of_isDigit digit]) _
    have read : number 1 2 ([Nat.digitChar n] ++ ' ' :: rest) =
        some (valueOf [Nat.digitChar n], ' ' :: rest) :=
      number_append (by simpa using digit) (by simp) (by simp) (.inr (by simp))
    have value_eq : valueOf [Nat.digitChar n] = n := by
      simp [valueOf, Nat.toNat_digitChar_of_lt_ten one_digit]
    rw [looseNumber, bind_eq_some (blanks_space_of_shown shown), read, value_eq]

theorem signedYear_fourDigits {n : Nat} (small : n < 10000) :
    signedYear (' ' :: fourDigits n) = some ((n : Int), []) := by
  have digit : ∀ c ∈ fourDigits n, c.isDigit = true :=
    fun c listed => isDigit_of_mem_fourDigits small listed
  have skipped : (' ' :: fourDigits n).dropWhile Text.isBlank = fourDigits n := by
    obtain ⟨c, more, digits_eq⟩ : ∃ c more, fourDigits n = c :: more := ⟨_, _, rfl⟩
    have shown : Text.isBlank c = false := isBlank_of_isDigit (digit c (by simp [digits_eq]))
    rw [List.dropWhile_cons_of_pos (by decide), digits_eq,
      List.dropWhile_cons_of_neg (by simp [shown])]
  have read : number 1 4 (fourDigits n ++ []) = some (valueOf (fourDigits n), []) :=
    number_append digit (by simp [fourDigits, twoDigits]) (Nat.le_refl 4) (.inl rfl)
  rw [List.append_nil, valueOf_fourDigits small] at read
  rw [signedYear, skipped]
  split
  · next rest signed => exact absurd (digit '+' (by simp [signed])) (by decide)
  · next rest signed => exact absurd (digit '-' (by simp [signed])) (by decide)
  · rw [read]
    rfl

theorem yearLast_yearLastText {weekday month day hour minute second year : Nat}
    {day_text : List Char} (fit : PartsFit weekday day month hour minute second)
    (year_lt : year < 10000) (is_day : IsDayText day day_text) :
    yearLast (yearLastText weekday month day_text hour minute second year) =
      some ({ weekday := some weekday, date := { year, month, day }, hour, minute, second }, []) := by
  rw [yearLast, yearLastText, bind_eq_some (shortDay_append fit.weekday_lt _),
    bind_eq_some (blanks_space_of_shown (shown_append (shown_monthName _ fit.place_lt) _)),
    bind_eq_some (month_append fit.from_one fit.to_twelve _),
    bind_eq_some (is_day.looseNumber_eq fit.day_lt _),
    bind_eq_some (looseTime_timeText fit.hour_lt fit.minute_lt fit.second_lt _)]
  simp only
  rw [bind_eq_some (signedYear_fourDigits year_lt)]
  rfl

/-- The words of a date in this form, where the day stands in words of its own. -/
def yearLastWords (weekday month : Nat) (day : List (List Char)) (hour minute second year : Nat) :
    List (List Char) :=
  (dayNames.getD weekday "").toList :: (monthNames.getD (month - 1) "").toList ::
    (day ++ [timeText hour minute second, fourDigits year])

theorem intercalate_yearLastWords (weekday month : Nat) (day : List Char)
    (hour minute second year : Nat) :
    [' '].intercalate (yearLastWords weekday month [day] hour minute second year) =
      yearLastText weekday month day hour minute second year := by
  simp [yearLastWords, yearLastText, List.intercalate_cons_cons]

theorem isBlank_of_mem_yearLastWords {weekday day month hour minute second year : Nat}
    (fit : PartsFit weekday day month hour minute second) (year_lt : year < 10000)
    {day_words : List (List Char)}
    (day_shown : ∀ word ∈ day_words, ∀ c ∈ word, Text.isBlank c = false) :
    ∀ word ∈ yearLastWords weekday month day_words hour minute second year, ∀ c ∈ word,
      Text.isBlank c = false := by
  have day_names : ∀ place < 7, (dayNames.getD place "").toList.all (!Text.isBlank ·) = true := by
    decide +kernel
  have month_names : ∀ place < 12, (monthNames.getD place "").toList.all (!Text.isBlank ·) = true := by
    decide +kernel
  have day_name : ∀ c ∈ (dayNames.getD weekday "").toList, Text.isBlank c = false := by
    simpa using day_names _ fit.weekday_lt
  have month_name : ∀ c ∈ (monthNames.getD (month - 1) "").toList, Text.isBlank c = false := by
    simpa using month_names _ fit.place_lt
  have two_digits {n : Nat} (small : n < 100) : ∀ c ∈ twoDigits n, Text.isBlank c = false :=
    fun c listed => isBlank_of_isDigit (isDigit_of_mem_twoDigits small listed)
  have time : ∀ c ∈ timeText hour minute second, Text.isBlank c = false := by
    have colon : Text.isBlank ':' = false := by decide
    simp only [timeText, List.forall_mem_append, List.forall_mem_cons]
    exact ⟨two_digits fit.hour_lt, colon, two_digits fit.minute_lt, colon,
      two_digits fit.second_lt⟩
  simp only [yearLastWords, List.forall_mem_append, List.forall_mem_cons]
  exact ⟨day_name, month_name, day_shown, time,
    fun c listed => isBlank_of_isDigit (isDigit_of_mem_fourDigits year_lt listed), by simp⟩

theorem squeezed_yearLastWords {weekday day month hour minute second year : Nat}
    (fit : PartsFit weekday day month hour minute second) (year_lt : year < 10000)
    {day_words : List (List Char)}
    (day_shown : ∀ word ∈ day_words, ∀ c ∈ word, Text.isBlank c = false) :
    squeezed ([' '].intercalate (yearLastWords weekday month day_words hour minute second year)) =
      [' '].intercalate (yearLastWords weekday month (day_words.filter fun word => !word.isEmpty)
        hour minute second year) := by
  have day_name : ∀ place < 7, (dayNames.getD place "").toList.isEmpty = false := by
    decide +kernel
  have month_name : ∀ place < 12, (monthNames.getD place "").toList.isEmpty = false := by
    decide +kernel
  have nonempty : yearLastWords weekday month day_words hour minute second year ≠ [] :=
    List.cons_ne_nil _ _
  rw [squeezed_intercalate nonempty (isBlank_of_mem_yearLastWords fit year_lt day_shown)]
  congr 1
  simp only [yearLastWords, List.filter_append, List.filter_cons, day_name _ fit.weekday_lt,
    month_name _ fit.place_lt]
  rfl

/-- A day of one digit that is filled up to two characters. -/
def filledDay (fill : Char) (day : Nat) : List Char :=
  if day < 10 then [fill, Nat.digitChar day] else twoDigits day

/-- A filled day becomes the text of a day when spaces are squeezed. -/
theorem squeezed_yearLastText {weekday day month hour minute second year : Nat}
    (fit : PartsFit weekday day month hour minute second) (year_lt : year < 10000) {fill : Char}
    (filled : fill = '0' ∨ fill = ' ') :
    ∃ day_text, IsDayText day day_text ∧
      squeezed (yearLastText weekday month (filledDay fill day) hour minute second year) =
        yearLastText weekday month day_text hour minute second year := by
  by_cases blank : fill = ' ' ∧ day < 10
  · -- The blank in front of the digit makes one more space, and an empty word between the two.
    obtain ⟨rfl, one_digit⟩ := blank
    have digit : (Nat.digitChar day).isDigit = true := by simp [Nat.isDigit_digitChar, one_digit]
    have words_eq : yearLastText weekday month (filledDay ' ' day) hour minute second year =
        [' '].intercalate (yearLastWords weekday month [[], [Nat.digitChar day]] hour minute second
          year) := by
      simp [yearLastWords, yearLastText, filledDay, one_digit, List.intercalate_cons_cons]
    refine ⟨[Nat.digitChar day], .inr ⟨one_digit, rfl⟩, ?_⟩
    rw [words_eq, squeezed_yearLastWords fit year_lt (by simp [isBlank_of_isDigit digit]),
      ← intercalate_yearLastWords]
    rfl
  · have filled_eq : filledDay fill day = twoDigits day := by
      unfold filledDay
      split
      · next one_digit =>
          obtain rfl : fill = '0' := filled.resolve_right fun blank_fill =>
            blank ⟨blank_fill, one_digit⟩
          have tens_eq : day / 10 = 0 := by omega
          have ones_eq : day % 10 = day := by omega
          rw [twoDigits, tens_eq, ones_eq]
          rfl
      · rfl
    refine ⟨twoDigits day, .inl rfl, ?_⟩
    rw [filled_eq, ← intercalate_yearLastWords, squeezed_yearLastWords fit year_lt
      (by simpa using fun c listed => isBlank_of_isDigit (isDigit_of_mem_twoDigits fit.day_lt listed))]
    rfl

/-! ## What the forms refuse -/

theorem preferred_hyphenatedText {weekday : Nat} (weekday_lt : weekday < 7)
    (day month shortYear hour minute second : Nat) :
    preferred (hyphenatedText weekday day month shortYear hour minute second) = none := by
  obtain ⟨c, more, ending_eq, not_comma, -⟩ := exists_dayEnding_eq weekday_lt
  rw [hyphenatedText, longDayName_eq weekday weekday_lt, String.toList_append, List.append_assoc,
    ending_eq, List.cons_append]
  exact preferred_of_ne weekday_lt not_comma _

theorem preferred_yearLastText {weekday : Nat} (weekday_lt : weekday < 7) (month : Nat)
    (day : List Char) (hour minute second year : Nat) :
    preferred (yearLastText weekday month day hour minute second year) = none :=
  preferred_of_ne weekday_lt (by decide) _

theorem hyphenated_yearLastText {weekday : Nat} (weekday_lt : weekday < 7) (month : Nat)
    (day : List Char) (hour minute second year : Nat) :
    hyphenated (yearLastText weekday month day hour minute second year) = none := by
  have no_comma (rest : List Char) : expect "," (' ' :: rest) = none := rfl
  rw [hyphenated, yearLastText, bind_eq_some (longDay_space weekday_lt _), bind_eq_none (no_comma _)]

/-! ## Reading what was rendered -/

theorem toList_renderTime {instant : Instant} (clock : instant.OnClock) :
    (renderTime instant).toList = timeText (instant.secondOfDay / 3600)
      (instant.secondOfDay / 60 % 60)
      (instant.secondOfDay % 60 + instant.nanoseconds / 1000000000) := by
  have fit := partsFit clock
  simp only [renderTime, String.toList_append, toList_padded_two fit.hour_lt,
    toList_padded_two fit.minute_lt, toList_padded_two fit.second_lt, timeText]
  simp

theorem toList_renderHyphenated {instant : Instant} (clock : instant.OnClock) :
    (renderHyphenated instant).toList = hyphenatedText instant.date.weekday instant.date.day
      instant.date.month (instant.date.year % 100).toNat (instant.secondOfDay / 3600)
      (instant.secondOfDay / 60 % 60)
      (instant.secondOfDay % 60 + instant.nanoseconds / 1000000000) := by
  have fit := partsFit clock
  have year_lt : (instant.date.year % 100).toNat < 100 := by omega
  simp only [renderHyphenated, String.toList_append, toList_padded_two fit.day_lt,
    toList_padded_two year_lt, toList_renderTime clock, hyphenatedText]
  simp

theorem toList_renderYearLast {instant : Instant} (clock : instant.OnClock)
    (from_zero : 0 ≤ instant.date.year) (four_digits : instant.date.year ≤ 9999) (fill : Char) :
    (renderYearLast fill instant).toList = yearLastText instant.date.weekday instant.date.month
      (filledDay fill instant.date.day) (instant.secondOfDay / 3600)
      (instant.secondOfDay / 60 % 60)
      (instant.secondOfDay % 60 + instant.nanoseconds / 1000000000)
      instant.date.year.toNat := by
  have fit := partsFit clock
  have day_eq : (if instant.date.day < 10 then String.ofList [fill] ++ padded 1 instant.date.day
      else padded 2 instant.date.day).toList = filledDay fill instant.date.day := by
    rw [filledDay]
    split
    · next one_digit => simp [toList_padded_one one_digit]
    · exact toList_padded_two fit.day_lt
  simp only [renderYearLast, String.toList_append, day_eq, toList_renderTime clock,
    toList_renderYear from_zero four_digits, yearLastText]
  simp

theorem trim_hyphenatedText {weekday : Nat} (weekday_lt : weekday < 7)
    (day month shortYear hour minute second : Nat) :
    Text.trim Text.isBlank (hyphenatedText weekday day month shortYear hour minute second) =
      hyphenatedText weekday day month shortYear hour minute second := by
  have shown_longDayName : ∀ place < 7,
      (longDayNames.getD place "").toList.head?.any (!Text.isBlank ·) = true := by
    decide +kernel
  have last_eq : (hyphenatedText weekday day month shortYear hour minute second).getLast? =
      some 'T' := by
    simp [hyphenatedText, List.getLast?_append, List.getLast?_cons]
  exact trim_of_shown (shown_longDayName weekday weekday_lt) last_eq (by decide)

theorem trim_yearLastText {weekday : Nat} (weekday_lt : weekday < 7) (month : Nat)
    (day : List Char) (hour minute second year : Nat) :
    Text.trim Text.isBlank (yearLastText weekday month day hour minute second year) =
      yearLastText weekday month day hour minute second year := by
  have last_eq : (yearLastText weekday month day hour minute second year).getLast? =
      some (Nat.digitChar (year % 100 % 10)) := by
    simp [yearLastText, fourDigits, twoDigits, List.getLast?_append, List.getLast?_cons]
  have digit : (Nat.digitChar (year % 100 % 10)).isDigit = true := by
    rw [Nat.isDigit_digitChar]
    exact decide_eq_true (Nat.mod_lt _ (by decide))
  exact trim_of_shown (shown_dayName weekday weekday_lt) last_eq (isBlank_of_isDigit digit)

theorem readWith_eq_none {form : StateT (List Char) Option Fields} {done : List Char → Bool}
    {s : List Char} (refused : form s = none) : readWith form done s = none := by
  simp [readWith, refused]

/-- An instant of the years that two digits stand for is read back from the form with hyphens. -/
theorem parse?_renderHyphenated {instant : Instant} (clock : instant.OnClock)
    (from_1970 : 1970 ≤ instant.date.year) (to_2069 : instant.date.year ≤ 2069) :
    parse? (renderHyphenated instant) = some instant.truncated := by
  have fit := partsFit clock
  have year_eq : (if (instant.date.year % 100).toNat < 70
      then ((instant.date.year % 100).toNat : Int) + 2000
      else (instant.date.year % 100).toNat + 1900) = instant.date.year := by
    split <;> omega
  have read := hyphenated_hyphenatedText fit (show (instant.date.year % 100).toNat < 100 by omega)
  rw [year_eq] at read
  rw [parse?, toList_renderHyphenated clock, trim_hyphenatedText fit.weekday_lt,
    readWith_eq_none (preferred_hyphenatedText fit.weekday_lt ..), readWith_eq read rfl,
    toInstant?_eq clock (by omega) (by omega)]
  rfl

/-- An instant of a year of four digits is read back from the form with the year at the end. -/
theorem parse?_renderYearLast {instant : Instant} (clock : instant.OnClock)
    (from_zero : 0 ≤ instant.date.year) (four_digits : instant.date.year ≤ 9999) {fill : Char}
    (filled : fill = '0' ∨ fill = ' ') :
    parse? (renderYearLast fill instant) = some instant.truncated := by
  have fit := partsFit clock
  have year_lt : instant.date.year.toNat < 10000 := by omega
  have year_eq : (instant.date.year.toNat : Int) = instant.date.year := by omega
  obtain ⟨day_text, is_day, squeezed_eq⟩ := squeezed_yearLastText fit year_lt filled
  have read := yearLast_yearLastText fit year_lt is_day
  rw [year_eq] at read
  rw [parse?, toList_renderYearLast clock from_zero four_digits, trim_yearLastText fit.weekday_lt,
    readWith_eq_none (preferred_yearLastText fit.weekday_lt ..),
    readWith_eq_none (hyphenated_yearLastText fit.weekday_lt ..), squeezed_eq,
    readWith_eq read rfl, toInstant?_eq clock from_zero four_digits]
  rfl

/-- A whole second of the years from 1970 to 2069 is read back from each of its forms, with white
space around it. -/
theorem parse?_of_forms {instant : Instant} (clock : instant.OnClock)
    (whole : instant.nanoseconds % 1000000000 = 0) (from_1970 : 1970 ≤ instant.date.year)
    (to_2069 : instant.date.year ≤ 2069) {text : String} (written : text ∈ forms instant)
    {front back : String} (front_blank : ∀ c ∈ front.toList, Text.isBlank c = true)
    (back_blank : ∀ c ∈ back.toList, Text.isBlank c = true) :
    parse? (front ++ text ++ back) = some instant := by
  have from_zero : 0 ≤ instant.date.year := by omega
  have four_digits : instant.date.year ≤ 9999 := by omega
  have truncated_eq : instant.truncated = instant := by
    have nanoseconds_eq : (if instant.nanoseconds < 1000000000 then 0 else 1000000000) =
        instant.nanoseconds := by
      rcases clock with plain | ⟨leap, -⟩ <;> split <;> omega
    rw [Instant.truncated, nanoseconds_eq]
  rw [parse?_surrounded front_blank back_blank]
  simp only [forms, List.mem_cons, List.not_mem_nil, or_false] at written
  rcases written with rfl | rfl | rfl | rfl
  · rw [parse?_render clock from_zero four_digits, truncated_eq]
  · rw [parse?_renderHyphenated clock from_1970 to_2069, truncated_eq]
  · rw [parse?_renderYearLast clock from_zero four_digits (.inl rfl), truncated_eq]
  · rw [parse?_renderYearLast clock from_zero four_digits (.inr rfl), truncated_eq]

/-- The forms of a morning in November 1994, with a tabulator and a no-break space around them. -/
theorem parse?_of_forms_november :
    ["Sun, 06 Nov 1994 08:49:37 GMT", "Sunday, 06-Nov-94 08:49:37 GMT", "Sun Nov 06 08:49:37 1994",
        "Sun Nov  6 08:49:37 1994"].map (fun text => parse? ("\t" ++ text ++ "\u00a0")) =
      List.replicate 4 (some { seconds := 784111777, nanoseconds := 0 }) := by
  have forms_eq : forms { seconds := 784111777, nanoseconds := 0 } =
      ["Sun, 06 Nov 1994 08:49:37 GMT", "Sunday, 06-Nov-94 08:49:37 GMT",
        "Sun Nov 06 08:49:37 1994", "Sun Nov  6 08:49:37 1994"] := by decide +kernel
  have front_blank : ∀ c ∈ "\t".toList, Text.isBlank c = true := List.all_eq_true.mp rfl
  have back_blank : ∀ c ∈ "\u00a0".toList, Text.isBlank c = true := List.all_eq_true.mp rfl
  refine List.eq_replicate_iff.mpr ⟨rfl, ?_⟩
  intro found listed
  obtain ⟨text, written, rfl⟩ := List.mem_map.mp listed
  rw [← forms_eq] at written
  exact parse?_of_forms (.inl (by decide)) (by decide) (by decide +kernel) (by decide +kernel)
    written front_blank back_blank

end HttpDate
end WebDispatch
