import Mathlib.Tactic.IntervalCases
import WebDispatch.Time.Calendar

/-!
# Days and dates

Counting the days of a date and dating a number of days are inverse to each other, and every date
that a number of days has is one of the calendar: `toDays_ofDays` and `isValid_ofDays`.
-/

namespace WebDispatch
namespace Date

/-- A day of a period: how many centuries, cycles of four years and years of the cycle are over, and
which day of the year it is, where years start in March.  Only the last year of a cycle may have a
leap day, and the last cycle of a century only in the last century. -/
structure IsDay (century cycle year day : Nat) : Prop where
  in_period : century < 4
  in_century : cycle < 25
  in_cycle : year < 4
  in_year : day < 365 ∨ day = 365 ∧ year = 3 ∧ (cycle < 24 ∨ century = 3)

theorem exists_isDay {count : Nat} (inside : count < 146097) :
    ∃ century cycle year day, IsDay century cycle year day ∧
      count = 36524 * century + 1461 * cycle + 365 * year + day := by
  by_cases last : count = 146096
  · exact ⟨3, 24, 3, 365, ⟨by omega, by omega, by omega, by omega⟩, by omega⟩
  by_cases leap : count % 36524 % 1461 = 1460
  · exact ⟨count / 36524, count % 36524 / 1461, 3, 365,
      ⟨by omega, by omega, by omega, by omega⟩, by omega⟩
  · exact ⟨count / 36524, count % 36524 / 1461, count % 36524 % 1461 / 365,
      count % 36524 % 1461 % 365, ⟨by omega, by omega, by omega, by omega⟩, by omega⟩

theorem yearOfPeriod_eq {century cycle year day : Nat} (is_day : IsDay century cycle year day) :
    yearOfPeriod (36524 * century + 1461 * cycle + 365 * year + day) =
      100 * century + 4 * cycle + year := by
  obtain ⟨in_period, in_century, in_cycle, in_year⟩ := is_day
  unfold yearOfPeriod
  -- One leap day for each cycle of 1460 days is taken away, and `extra` more near its end.
  generalize extra_eq : (24 * century + cycle + 365 * year + day) / 1460 = extra
  have extra_le : extra ≤ day := by omega
  have cycles_eq : (36524 * century + 1461 * cycle + 365 * year + day) / 1460 =
      25 * century + cycle + extra := by omega
  rw [cycles_eq]
  by_cases last : century = 3 ∧ cycle = 24 ∧ day = 365
  · obtain ⟨rfl, rfl, rfl⟩ := last
    omega
  · have centuries_eq : (36524 * century + 1461 * cycle + 365 * year + day) / 36524 =
        century := by omega
    have periods_eq : (36524 * century + 1461 * cycle + 365 * year + day) / 146096 = 0 := by omega
    have even_eq : 36524 * century + 1461 * cycle + 365 * year + day -
        (25 * century + cycle + extra) + century - 0 =
          365 * (100 * century + 4 * cycle + year) + (day - extra) := by omega
    have within_year : day - extra < 365 := by omega
    rw [centuries_eq, periods_eq, even_eq]
    omega

/-- The date of a day of a period, whose months are counted from March. -/
theorem ofDays_eq {days period : Int} {century cycle year day : Nat}
    (is_day : IsDay century cycle year day)
    (count_eq : days + epoch =
      146097 * period + (36524 * century + 1461 * cycle + 365 * year + day : Nat)) :
    ofDays days =
      { year := period * 400 + (100 * century + 4 * cycle + year : Nat) +
          if (5 * day + 2) / 153 ≥ 10 then 1 else 0
        month := if (5 * day + 2) / 153 ≥ 10 then (5 * day + 2) / 153 - 9
          else (5 * day + 2) / 153 + 3
        day := day - daysBeforeMonth ((5 * day + 2) / 153) + 1 } := by
  have year_eq := yearOfPeriod_eq is_day
  obtain ⟨in_period, in_century, in_cycle, in_year⟩ := is_day
  have period_eq : (days + epoch) / 146097 = period := by omega
  have within_eq : ((days + epoch) % 146097).toNat =
      36524 * century + 1461 * cycle + 365 * year + day := by omega
  have fourth_eq : (100 * century + 4 * cycle + year) / 4 = 25 * century + cycle := by omega
  have hundredth_eq : (100 * century + 4 * cycle + year) / 100 = century := by omega
  have day_eq : 36524 * century + 1461 * cycle + 365 * year + day -
      (365 * (100 * century + 4 * cycle + year) + (100 * century + 4 * cycle + year) / 4 -
        (100 * century + 4 * cycle + year) / 100) = day := by
    rw [fourth_eq, hundredth_eq]
    omega
  simp only [ofDays, period_eq, within_eq, year_eq, day_eq]

/-- Every number of days is a day of a period. -/
theorem exists_count_eq (days : Int) :
    ∃ (period : Int) (century cycle year day : Nat), IsDay century cycle year day ∧
      days + epoch =
        146097 * period + (36524 * century + 1461 * cycle + 365 * year + day : Nat) := by
  have inside : ((days + epoch) % 146097).toNat < 146097 := by omega
  obtain ⟨century, cycle, year, day, is_day, within_eq⟩ := exists_isDay inside
  exact ⟨(days + epoch) / 146097, century, cycle, year, day, is_day, by omega⟩

/-- The day of a year lies in its month, where both are counted from March. -/
theorem day_in_month {day : Nat} (inside : day < 366) :
    (5 * day + 2) / 153 < 12 ∧ daysBeforeMonth ((5 * day + 2) / 153) ≤ day ∧
      day < daysBeforeMonth ((5 * day + 2) / 153 + 1) := by
  unfold daysBeforeMonth
  omega

/-- Dating a number of days and counting the days of the date leads back to it. -/
theorem toDays_ofDays (days : Int) : (ofDays days).toDays = days := by
  obtain ⟨period, century, cycle, year, day, is_day, count_eq⟩ := exists_count_eq days
  rw [ofDays_eq is_day count_eq]
  obtain ⟨in_period, in_century, in_cycle, in_year⟩ := is_day
  obtain ⟨month_lt, month_le, -⟩ := day_in_month (show day < 366 by omega)
  generalize (5 * day + 2) / 153 = month at month_lt month_le
  generalize march_eq : period * 400 + (100 * century + 4 * cycle + year : Nat) = march
  have fourth_eq : march / 4 = 100 * period + 25 * century + cycle := by omega
  have hundredth_eq : march / 100 = 4 * period + century := by omega
  have period_eq : march / 400 = period := by omega
  have march_count : 365 * march + march / 4 - march / 100 + march / 400 +
      (daysBeforeMonth month + (day - daysBeforeMonth month + 1) : Nat) - 1 - epoch = days := by
    rw [fourth_eq, hundredth_eq, period_eq]
    omega
  by_cases late : 10 ≤ month
  · have early_month : month - 9 ≤ 2 := by omega
    have month_eq : (month - 9 + 9) % 12 = month := by omega
    simpa [toDays, late, early_month, month_eq] using march_count
  · have late_month : ¬ month + 3 ≤ 2 := by omega
    have month_eq : (month + 3 + 9) % 12 = month := by omega
    simpa [toDays, late, late_month, month_eq] using march_count

/-- Months counted from March have the lengths that the calendar gives them, February apart. -/
theorem daysBeforeMonth_succ {month : Nat} (not_last : month < 11) (year : Int) :
    daysBeforeMonth (month + 1) =
      daysBeforeMonth month + daysInMonth year (if month ≥ 10 then month - 9 else month + 3) := by
  interval_cases month <;> rfl

/-- The date of a number of days is one of the calendar. -/
theorem isValid_ofDays (days : Int) : (ofDays days).isValid = true := by
  obtain ⟨period, century, cycle, year, day, is_day, count_eq⟩ := exists_count_eq days
  rw [ofDays_eq is_day count_eq]
  obtain ⟨in_period, in_century, in_cycle, in_year⟩ := is_day
  obtain ⟨month_lt, month_le, lt_next⟩ := day_in_month (show day < 366 by omega)
  generalize (5 * day + 2) / 153 = month at month_lt month_le lt_next
  have in_calendar : 1 ≤ (if month ≥ 10 then month - 9 else month + 3) ∧
      (if month ≥ 10 then month - 9 else month + 3) ≤ 12 := by
    split <;> omega
  by_cases not_last : month < 11
  · rw [daysBeforeMonth_succ not_last
      (period * 400 + (100 * century + 4 * cycle + year : Nat) +
        if month ≥ 10 then 1 else 0)] at lt_next
    simp only [isValid, Bool.and_eq_true, decide_eq_true_eq]
    omega
  · -- The month is February, whose last day is there in leap years only.
    obtain rfl : month = 11 := by omega
    have leap : day = 365 →
        isLeap (period * 400 + (100 * century + 4 * cycle + year : Nat) + 1) = true := by
      intro last
      simp only [isLeap, Bool.and_eq_true, Bool.or_eq_true, beq_iff_eq, bne_iff_ne]
      omega
    have before_eq : daysBeforeMonth 11 = 337 := rfl
    have inside : day - 337 + 1 ≤
        if isLeap (period * 400 + (100 * century + 4 * cycle + year : Nat) + 1) then 29 else 28 := by
      split
      · omega
      · next common => exact Nat.lt_of_not_le fun late => common (leap (by omega))
    simpa [isValid, daysInMonth, before_eq] using inside

end Date
end WebDispatch
