import WebDispatch.Http.Date
import WebDispatch.Proofs.Text.Trimming
import WebDispatch.Proofs.Time.DayCount

/-!
# Dates that are sent and read back

An instant of a year with four digits is read back from the preferred form up to the part of its
second: `parse?_render`.
-/

namespace WebDispatch
namespace HttpDate

/-! ## Digits -/

/-- The two digits of a number up to 99. -/
def twoDigits (n : Nat) : List Char := [Nat.digitChar (n / 10), Nat.digitChar (n % 10)]

/-- The four digits of a number up to 9999. -/
def fourDigits (n : Nat) : List Char := twoDigits (n / 100) ++ twoDigits (n % 100)

theorem toList_padded_one {n : Nat} (small : n < 10) :
    (padded 1 n).toList = [Nat.digitChar n] := by
  simp [padded, Nat.toDigits_of_lt_base small]

/-- One more digit is the last one. -/
theorem toList_padded_succ {width : Nat} (some_width : 0 < width) (n : Nat) :
    (padded (width + 1) n).toList = (padded width (n / 10)).toList ++ [Nat.digitChar (n % 10)] := by
  simp only [padded, Nat.toString_eq_repr, Nat.toList_repr, String.toList_ofList]
  rw [Nat.toDigits_eq_if (by decide : 1 < 10)]
  by_cases small : n < 10
  · obtain ⟨more, rfl⟩ : ∃ more, width = more + 1 := ⟨width - 1, by omega⟩
    have quotient_eq : n / 10 = 0 := by omega
    have remainder_eq : n % 10 = n := by omega
    rw [if_pos small, quotient_eq, remainder_eq, Nat.toDigits_of_lt_base (by decide)]
    simp [List.replicate_succ']
  · rw [if_neg small]
    simp [Nat.add_sub_add_right]

theorem toList_padded_two {n : Nat} (small : n < 100) : (padded 2 n).toList = twoDigits n := by
  rw [toList_padded_succ (by decide), toList_padded_one (by omega)]
  rfl

theorem toList_padded_four {n : Nat} (small : n < 10000) : (padded 4 n).toList = fourDigits n := by
  have hundreds_eq : n / 10 / 10 = n / 100 := by omega
  have tens_eq : n / 10 % 10 = n % 100 / 10 := by omega
  have ones_eq : n % 10 = n % 100 % 10 := by omega
  rw [toList_padded_succ (by decide), toList_padded_succ (by decide), hundreds_eq,
    toList_padded_two (by omega), tens_eq, ones_eq, List.append_assoc]
  rfl

theorem isDigit_of_mem_twoDigits {n : Nat} (small : n < 100) {c : Char} (listed : c ∈ twoDigits n) :
    c.isDigit = true := by
  simp only [twoDigits, List.mem_cons, List.not_mem_nil, or_false] at listed
  rcases listed with rfl | rfl <;> rw [Nat.isDigit_digitChar] <;> exact decide_eq_true (by omega)

theorem isDigit_of_mem_fourDigits {n : Nat} (small : n < 10000) {c : Char}
    (listed : c ∈ fourDigits n) : c.isDigit = true := by
  rcases List.mem_append.mp listed with first | last
  · exact isDigit_of_mem_twoDigits (by omega) first
  · exact isDigit_of_mem_twoDigits (by omega) last

theorem valueOf_append (front back : List Char) :
    valueOf (front ++ back) = back.foldl (fun n c => n * 10 + (c.toNat - 48)) (valueOf front) :=
  List.foldl_append

theorem foldl_twoDigits {n : Nat} (small : n < 100) (before : Nat) :
    (twoDigits n).foldl (fun n c => n * 10 + (c.toNat - 48)) before = before * 100 + n := by
  simp only [twoDigits, List.foldl_cons, List.foldl_nil,
    Nat.toNat_digitChar_of_lt_ten (show n / 10 < 10 by omega),
    Nat.toNat_digitChar_of_lt_ten (show n % 10 < 10 by omega)]
  omega

theorem valueOf_twoDigits {n : Nat} (small : n < 100) : valueOf (twoDigits n) = n := by
  rw [valueOf, foldl_twoDigits small]
  omega

theorem valueOf_fourDigits {n : Nat} (small : n < 10000) : valueOf (fourDigits n) = n := by
  rw [fourDigits, valueOf_append, valueOf_twoDigits (by omega), foldl_twoDigits (by omega)]
  omega

/-! ## Readers -/

theorem bind_eq_some {α β : Type} {reader : StateT (List Char) Option α}
    {next : α → StateT (List Char) Option β} {s rest : List Char} {a : α}
    (read : reader s = some (a, rest)) : (reader >>= next) s = next a rest := by
  simp [bind, StateT.bind, read]

theorem bind_eq_none {α β : Type} {reader : StateT (List Char) Option α}
    {next : α → StateT (List Char) Option β} {s : List Char} (refused : reader s = none) :
    (reader >>= next) s = none := by
  simp [bind, StateT.bind, refused]

theorem expect_mark {text : String} {mark : Char} (text_eq : text.toList = [mark])
    (rest : List Char) : expect text (mark :: rest) = some ((), rest) := by
  simp [expect, ← String.length_toList, text_eq]

theorem blanks_of_shown {s : List Char} (shown : ∀ c ∈ s.head?, Text.isBlank c = false) :
    blanks s = some ((), s) := by
  cases s with
  | nil => rfl
  | cons c rest => rw [blanks, List.dropWhile_cons_of_neg (by simp [shown c rfl])]

theorem someBlanks_of_shown {s : List Char} (shown : ∀ c ∈ s.head?, Text.isBlank c = false) :
    someBlanks (' ' :: s) = some ((), s) := by
  rw [someBlanks, if_pos (by decide), blanks_of_shown shown]

theorem blanks_space_of_shown {s : List Char} (shown : ∀ c ∈ s.head?, Text.isBlank c = false) :
    blanks (' ' :: s) = some ((), s) := by
  rw [blanks, List.dropWhile_cons_of_pos (by decide)]
  exact blanks_of_shown shown

theorem isBlank_of_isDigit {c : Char} (digit : c.isDigit = true) : Text.isBlank c = false := by
  have digit_range : 48 ≤ c.toNat ∧ c.toNat ≤ 57 := Char.isDigit_iff_toNat.mp digit
  simp [Text.isBlank]
  omega

theorem shown_append {front : List Char} (first : front.head?.any (!Text.isBlank ·) = true)
    (rest : List Char) : ∀ c ∈ (front ++ rest).head?, Text.isBlank c = false := by
  cases front with
  | nil => contradiction
  | cons c front => simpa using first

theorem trim_of_shown {front rest : List Char} {last : Char}
    (first_shown : front.head?.any (!Text.isBlank ·) = true)
    (last_eq : (front ++ rest).getLast? = some last) (last_shown : Text.isBlank last = false) :
    Text.trim Text.isBlank (front ++ rest) = front ++ rest := by
  refine Text.trim_of_ends (shown_append first_shown rest) ?_
  rw [last_eq]
  rintro c ⟨⟩
  exact last_shown

theorem shown_twoDigits {n : Nat} (small : n < 100) (rest : List Char) :
    ∀ c ∈ (twoDigits n ++ rest).head?, Text.isBlank c = false := by
  refine shown_append ?_ rest
  simp [twoDigits, isBlank_of_isDigit, Nat.isDigit_digitChar, show n / 10 < 10 by omega]

theorem shown_fourDigits {n : Nat} (small : n < 10000) (rest : List Char) :
    ∀ c ∈ (fourDigits n ++ rest).head?, Text.isBlank c = false := by
  rw [fourDigits, List.append_assoc]
  exact shown_twoDigits (by omega) _

/-- A number is read up to the greatest number of digits, or to what is no digit. -/
theorem number_append {least most : Nat} {found rest : List Char}
    (digit : ∀ c ∈ found, c.isDigit = true) (enough : least ≤ found.length)
    (fits : found.length ≤ most)
    (ends : found.length = most ∨ ∀ c ∈ rest.head?, c.isDigit = false) :
    number least most (found ++ rest) = some (valueOf found, rest) := by
  have none_after : (rest.take (most - found.length)).takeWhile Char.isDigit = [] := by
    rcases ends with full | stopped
    · rw [full, Nat.sub_self, List.take_zero, List.takeWhile_nil]
    · cases rest with
      | nil => rw [List.take_nil, List.takeWhile_nil]
      | cons c rest =>
          cases most - found.length with
          | zero => rfl
          | succ more =>
              rw [List.take_succ_cons, List.takeWhile_cons_of_neg (by simp [stopped c rfl])]
  have found_eq : ((found ++ rest).take most).takeWhile Char.isDigit = found := by
    rw [List.take_append, List.take_of_length_le fits, List.takeWhile_append_of_pos digit, none_after,
      List.append_nil]
  simp only [number, found_eq, Nat.not_lt.mpr enough, if_false, List.drop_left]

theorem number_twoDigits {least n : Nat} (few : least ≤ 2) (small : n < 100) (rest : List Char) :
    number least 2 (twoDigits n ++ rest) = some (n, rest) := by
  have read : number least 2 (twoDigits n ++ rest) = some (valueOf (twoDigits n), rest) :=
    number_append (fun c => isDigit_of_mem_twoDigits small) few (Nat.le_refl 2) (.inl rfl)
  rw [read, valueOf_twoDigits small]

theorem mailYear_fourDigits {n : Nat} (small : n < 10000) (rest : List Char) :
    mailYear (fourDigits n ++ ' ' :: rest) = some ((n : Int), ' ' :: rest) := by
  have digit : ∀ c ∈ fourDigits n, c.isDigit = true :=
    fun c listed => isDigit_of_mem_fourDigits small listed
  have read : digits 2 (fourDigits n ++ ' ' :: rest) = some (fourDigits n, ' ' :: rest) := by
    simp only [digits, List.takeWhile_append_of_pos digit, List.dropWhile_append_of_pos digit]
    rfl
  rw [mailYear, bind_eq_some read, valueOf_fourDigits small]
  rfl

theorem nameAmong_append {names : List String} {name : String} {place : Nat}
    (found : names.findIdx? (Text.sameIgnoringCase name) = some place)
    (three : name.toList.length = 3) (rest : List Char) :
    nameAmong names (name.toList ++ rest) = some (place, rest) := by
  have taken : (name.toList ++ rest).take 3 = name.toList := by
    rw [← three, List.take_left]
  have dropped : (name.toList ++ rest).drop 3 = rest := by
    rw [← three, List.drop_left]
  simp only [nameAmong, taken, dropped, String.ofList_toList, found]

theorem shown_dayName : ∀ place < 7,
    (dayNames.getD place "").toList.head?.any (!Text.isBlank ·) = true := by
  decide +kernel

theorem shown_monthName : ∀ place < 12,
    (monthNames.getD place "").toList.head?.any (!Text.isBlank ·) = true := by
  decide +kernel

theorem shortDay_append {day : Nat} (inside : day < 7) (rest : List Char) :
    shortDay ((dayNames.getD day "").toList ++ rest) = some (day, rest) := by
  have found : ∀ day < 7, dayNames.findIdx? (Text.sameIgnoringCase (dayNames.getD day "")) =
      some day ∧ (dayNames.getD day "").toList.length = 3 := by
    decide +kernel
  exact nameAmong_append (found day inside).1 (found day inside).2 rest

theorem month_append {month : Nat} (from_one : 1 ≤ month) (to_twelve : month ≤ 12)
    (rest : List Char) :
    HttpDate.month ((monthNames.getD (month - 1) "").toList ++ rest) = some (month, rest) := by
  have found : ∀ place < 12, monthNames.findIdx? (Text.sameIgnoringCase (monthNames.getD place "")) =
      some place ∧ (monthNames.getD place "").toList.length = 3 := by
    decide +kernel
  obtain ⟨place_eq, three⟩ := found (month - 1) (by omega)
  rw [HttpDate.month, bind_eq_some (nameAmong_append place_eq three rest),
    Nat.sub_add_cancel from_one]
  rfl

/-- The parts of a date have no more digits than they are written with, and their names are on the
lists. -/
structure PartsFit (weekday day month hour minute second : Nat) : Prop where
  weekday_lt : weekday < 7
  day_lt : day < 100
  from_one : 1 ≤ month
  to_twelve : month ≤ 12
  hour_lt : hour < 100
  minute_lt : minute < 100
  second_lt : second < 100

theorem PartsFit.place_lt {weekday day month hour minute second : Nat}
    (fit : PartsFit weekday day month hour minute second) : month - 1 < 12 := by
  have to_twelve := fit.to_twelve
  omega

/-- The characters of a date in the preferred form. -/
def preferredText (weekday day month year hour minute second : Nat) : List Char :=
  (dayNames.getD weekday "").toList ++ ',' :: ' ' :: (twoDigits day ++
    ' ' :: ((monthNames.getD (month - 1) "").toList ++ ' ' :: (fourDigits year ++
      ' ' :: (twoDigits hour ++ ':' :: (twoDigits minute ++ ':' :: (twoDigits second ++
        " GMT".toList))))))

theorem trim_preferredText {weekday : Nat} (weekday_lt : weekday < 7)
    (day month year hour minute second : Nat) :
    Text.trim Text.isBlank (preferredText weekday day month year hour minute second) =
      preferredText weekday day month year hour minute second := by
  have last_eq : (preferredText weekday day month year hour minute second).getLast? = some 'T' := by
    simp [preferredText, List.getLast?_append, List.getLast?_cons]
  exact trim_of_shown (shown_dayName weekday weekday_lt) last_eq (by decide)

theorem leadingDay_append {day : Nat} (inside : day < 7) (rest : List Char) :
    leadingDay ((dayNames.getD day "").toList ++ ',' :: rest) = some (some day, rest) := by
  simp only [leadingDay, shortDay_append inside]

theorem optionalSecond_twoDigits {second : Nat} (small : second < 100) (rest : List Char) :
    optionalSecond (':' :: (twoDigits second ++ rest)) = some (second, rest) := by
  have colon : (':' :: (twoDigits second ++ rest)).dropWhile Text.isBlank =
      ':' :: (twoDigits second ++ rest) := List.dropWhile_cons_of_neg (by decide)
  rw [optionalSecond, colon]
  exact number_twoDigits (Nat.le_refl 2) small rest

theorem preferred_preferredText {weekday day month year hour minute second : Nat}
    (fit : PartsFit weekday day month hour minute second) (year_lt : year < 10000) :
    preferred (preferredText weekday day month year hour minute second) =
      some ({ weekday := some weekday, date := { year, month, day }, hour, minute, second }, []) := by
  have colon_shown : ∀ (rest : List Char), ∀ c ∈ (':' :: rest).head?, Text.isBlank c = false := by
    rintro rest c ⟨⟩
    decide
  rw [preferred, preferredText,
    bind_eq_some (blanks_of_shown (shown_append (shown_dayName weekday fit.weekday_lt) _)),
    bind_eq_some (leadingDay_append fit.weekday_lt _),
    bind_eq_some (blanks_space_of_shown (shown_twoDigits fit.day_lt _)),
    bind_eq_some (number_twoDigits (by decide) fit.day_lt _),
    bind_eq_some (someBlanks_of_shown (shown_append (shown_monthName _ fit.place_lt) _)),
    bind_eq_some (month_append fit.from_one fit.to_twelve _),
    bind_eq_some (someBlanks_of_shown (shown_fourDigits year_lt _)),
    bind_eq_some (mailYear_fourDigits year_lt _),
    bind_eq_some (someBlanks_of_shown (shown_twoDigits fit.hour_lt _)),
    bind_eq_some (number_twoDigits (by decide) fit.hour_lt _),
    bind_eq_some (blanks_of_shown (colon_shown _)),
    bind_eq_some (expect_mark rfl _),
    bind_eq_some (blanks_of_shown (shown_twoDigits fit.minute_lt _)),
    bind_eq_some (number_twoDigits (by decide) fit.minute_lt _),
    bind_eq_some (optionalSecond_twoDigits fit.second_lt _)]
  rfl

end HttpDate

/-! ## Reading what was rendered -/

theorem Date.day_le_of_isValid {date : Date} (valid : date.isValid = true) : date.day ≤ 31 := by
  have in_month : date.day ≤ daysInMonth date.year date.month := by simp_all [isValid]
  refine in_month.trans ?_
  unfold daysInMonth
  split <;> split <;> decide

/-- The days of a date of the calendar in a year of four digits. -/
theorem Date.toDays_bounds {date : Date} (valid : date.isValid = true) (from_zero : 0 ≤ date.year)
    (four_digits : date.year ≤ 9999) : -1000000 ≤ date.toDays ∧ date.toDays ≤ 10000000 := by
  have day_le := day_le_of_isValid valid
  have month_lt : (date.month + 9) % 12 < 12 := Nat.mod_lt _ (by decide)
  simp only [toDays, daysBeforeMonth, epoch]
  split <;> omega

namespace Instant

/-- The nanoseconds are those of a second, or those of a leap second at the end of a minute. -/
def OnClock (instant : Instant) : Prop :=
  instant.nanoseconds < 1000000000 ∨
    instant.nanoseconds < 2000000000 ∧ instant.seconds % 60 = 59

/-- An instant without the part of its second. -/
def truncated (instant : Instant) : Instant :=
  { seconds := instant.seconds
    nanoseconds := if instant.nanoseconds < 1000000000 then 0 else 1000000000 }

theorem isValid_date (instant : Instant) : instant.date.isValid = true := Date.isValid_ofDays _

theorem toDays_date (instant : Instant) : instant.date.toDays = instant.seconds / secondsPerDay :=
  Date.toDays_ofDays _

theorem isRepresentable_of_year {instant : Instant} (from_zero : 0 ≤ instant.date.year)
    (four_digits : instant.date.year ≤ 9999) : isRepresentable instant.seconds = true := by
  obtain ⟨lower, upper⟩ := Date.toDays_bounds instant.isValid_date from_zero four_digits
  rw [toDays_date, secondsPerDay] at lower upper
  have first : (Date.mk firstYear 1 1).toDays < -1000000 := by decide
  have last : 10000000 < (Date.mk (lastYear + 1) 1 1).toDays := by decide
  rw [isRepresentable, Bool.and_eq_true, decide_eq_true_eq, decide_eq_true_eq, secondsPerDay]
  omega

end Instant

namespace HttpDate

theorem secondOfDay_lt (instant : Instant) : instant.secondOfDay < 86400 := by
  rw [Instant.secondOfDay, Instant.secondsPerDay]
  omega

theorem partsFit {instant : Instant} (clock : instant.OnClock) :
    PartsFit instant.date.weekday instant.date.day instant.date.month (instant.secondOfDay / 3600)
      (instant.secondOfDay / 60 % 60)
      (instant.secondOfDay % 60 + instant.nanoseconds / 1000000000) := by
  have time_lt := secondOfDay_lt instant
  have valid := instant.isValid_date
  have day_le := Date.day_le_of_isValid valid
  simp only [Date.isValid, Bool.and_eq_true, decide_eq_true_eq] at valid
  have weekday_lt : instant.date.weekday < 7 := by
    rw [Date.weekday, Date.weekdayOfDays]
    omega
  have second_lt : instant.secondOfDay % 60 + instant.nanoseconds / 1000000000 < 100 := by
    rcases clock with plain | ⟨leap, -⟩ <;> omega
  exact
    { weekday_lt, second_lt
      day_lt := by omega
      from_one := valid.1.1.1
      to_twelve := valid.1.1.2
      hour_lt := by omega
      minute_lt := by omega }

theorem toList_renderYear {year : Int} (from_zero : 0 ≤ year) (four_digits : year ≤ 9999) :
    (renderYear year).toList = fourDigits year.toNat := by
  have natAbs_eq : year.natAbs = year.toNat := by omega
  rw [renderYear, if_neg (by omega), if_neg (by omega), natAbs_eq, toList_padded_four (by omega)]

theorem toList_render {instant : Instant} (clock : instant.OnClock)
    (from_zero : 0 ≤ instant.date.year) (four_digits : instant.date.year ≤ 9999) :
    (render instant).toList = preferredText instant.date.weekday instant.date.day
      instant.date.month instant.date.year.toNat (instant.secondOfDay / 3600)
      (instant.secondOfDay / 60 % 60)
      (instant.secondOfDay % 60 + instant.nanoseconds / 1000000000) := by
  have fit := partsFit clock
  simp only [render, String.toList_append, toList_renderYear from_zero four_digits,
    toList_padded_two fit.day_lt, toList_padded_two fit.hour_lt, toList_padded_two fit.minute_lt,
    toList_padded_two fit.second_lt, preferredText]
  simp

/-- What the preferred form says about an instant means that instant. -/
theorem toInstant?_eq {instant : Instant} (clock : instant.OnClock)
    (from_zero : 0 ≤ instant.date.year) (four_digits : instant.date.year ≤ 9999) :
    Fields.toInstant?
      { weekday := some instant.date.weekday
        date := instant.date
        hour := instant.secondOfDay / 3600
        minute := instant.secondOfDay / 60 % 60
        second := instant.secondOfDay % 60 + instant.nanoseconds / 1000000000 } =
      some instant.truncated := by
  have time_lt := secondOfDay_lt instant
  have of_seconds : (instant.secondOfDay : Int) = instant.seconds % 86400 := by
    rw [Instant.secondOfDay, Instant.secondsPerDay]
    omega
  have seconds_eq : instant.date.toDays * Instant.secondsPerDay +
      ((instant.secondOfDay / 3600 * 3600 + instant.secondOfDay / 60 % 60 * 60 +
        min (instant.secondOfDay % 60 + instant.nanoseconds / 1000000000) 59 : Nat) : Int) - 0 =
        instant.seconds := by
    rw [Instant.toDays_date, Instant.secondsPerDay]
    rcases clock with plain | ⟨leap, ends⟩ <;> omega
  have representable := Instant.isRepresentable_of_year from_zero four_digits
  have nanoseconds_eq : (if instant.secondOfDay % 60 + instant.nanoseconds / 1000000000 = 60
      then 1000000000 else 0) = if instant.nanoseconds < 1000000000 then 0 else 1000000000 := by
    by_cases plain : instant.nanoseconds < 1000000000
    · rw [if_pos plain, if_neg (by omega)]
    · rw [if_neg plain, if_pos (by rcases clock with plain | ⟨leap, ends⟩ <;> omega)]
  have fits : instant.date.isValid ∧
      (some instant.date.weekday).all (· == instant.date.weekday) ∧
      Instant.firstYear ≤ instant.date.year ∧ instant.date.year ≤ Instant.lastYear ∧
      instant.secondOfDay / 3600 < 24 ∧ instant.secondOfDay / 60 % 60 < 60 ∧
      instant.secondOfDay % 60 + instant.nanoseconds / 1000000000 ≤ 60 ∧
      (0 : Int).natAbs < 86400 := by
    refine ⟨instant.isValid_date, by simp, ?_, ?_, by omega, by omega, ?_, by decide⟩
    · exact Int.le_trans (by decide) from_zero
    · exact Int.le_trans four_digits (by decide)
    · rcases clock with plain | ⟨leap, ends⟩ <;> omega
  simp only [Fields.toInstant?, if_pos fits, seconds_eq, representable, if_true, nanoseconds_eq,
    Instant.truncated]

theorem readWith_eq {form : StateT (List Char) Option Fields} {done : List Char → Bool}
    {s rest : List Char} {fields : Fields} (read : form s = some (fields, rest))
    (whole : done rest = true) : readWith form done s = fields.toInstant? := by
  simp [readWith, read, whole]

/-- An instant of a year of four digits is read back from the preferred form. -/
theorem parse?_render {instant : Instant} (clock : instant.OnClock)
    (from_zero : 0 ≤ instant.date.year) (four_digits : instant.date.year ≤ 9999) :
    parse? (render instant) = some instant.truncated := by
  have fit := partsFit clock
  have year_eq : (instant.date.year.toNat : Int) = instant.date.year := by omega
  have read := preferred_preferredText fit (show instant.date.year.toNat < 10000 by omega)
  rw [year_eq] at read
  rw [parse?, toList_render clock from_zero four_digits, trim_preferredText fit.weekday_lt,
    readWith_eq read rfl, toInstant?_eq clock from_zero four_digits]
  rfl

end HttpDate
end WebDispatch
