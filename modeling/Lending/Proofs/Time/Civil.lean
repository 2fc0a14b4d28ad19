import Lending.Fault
import Lending.Proofs.Except
import Mathlib.Algebra.Ring.Nat
import Mathlib.Order.Monotone.Basic

/-!
# Civil dates

A year, a month of it and a day of the month give a date as long as the year is one of the calendar:
the days of a year fit between its first day and that of the next year, and the days of a month
between its first day and that of the next month. So a number of months leads to a date exactly if
it leads to a year of the calendar, whatever the day of the month.

## Main definitions

* `yearLength` — the number of days of a year
* `Date.yearAfter` — the year that a number of months leads to

## Main results

* `daysBeforeYear_succ`, `daysBeforeMonth_succ` — years and months follow one another
* `Date.exists_ofCivil?` — a year, a month and a day within their bounds are those of a date
* `Date.addMonths_isOk_iff` — when a number of months leads to a date
-/

namespace Lending

/-! ## Years -/

/-- The number of days of a year. -/
def yearLength (year : Nat) : Nat := if isLeapYear year then 366 else 365

theorem isLeapYear_iff {year : Nat} :
    isLeapYear year = true ↔ 4 ∣ year ∧ (¬ 100 ∣ year ∨ 400 ∣ year) := by
  simp [isLeapYear, Nat.dvd_iff_mod_eq_zero]

theorem daysBeforeYear_succ {year : Nat} (first : 1 ≤ year) :
    daysBeforeYear (year + 1) = daysBeforeYear year + yearLength year := by
  obtain ⟨past, rfl⟩ := Nat.exists_eq_add_of_le' first
  have fewer : past / 100 ≤ past / 4 := Nat.div_le_div_left (by decide) (by decide)
  -- a quotient grows by one in the years that its divisor divides
  simp only [daysBeforeYear, yearLength, isLeapYear_iff, Nat.add_sub_cancel, Nat.succ_div]
  by_cases cycle : 400 ∣ past + 1
  · have century : 100 ∣ past + 1 := Nat.dvd_trans ⟨4, rfl⟩ cycle
    have fourth : 4 ∣ past + 1 := Nat.dvd_trans ⟨25, rfl⟩ century
    simp only [fourth, century, cycle, if_true, or_true, and_true]
    omega
  · by_cases century : 100 ∣ past + 1
    · have fourth : 4 ∣ past + 1 := Nat.dvd_trans ⟨25, rfl⟩ century
      simp only [fourth, century, cycle, if_true, if_false, not_true_eq_false, or_false,
        and_false]
      omega
    · by_cases fourth : 4 ∣ past + 1 <;>
        simp only [fourth, century, cycle, if_true, if_false, not_false_eq_true, or_false,
          and_true] <;>
        omega

theorem monotone_daysBeforeYear : Monotone daysBeforeYear := by
  refine monotone_nat_of_le_succ fun year => ?_
  cases year with
  | zero => decide
  | succ year => exact daysBeforeYear_succ (Nat.succ_pos year) ▸ Nat.le_add_right _ _

/-- The calendar has all days of the years up to 9999. -/
theorem daysBeforeYear_add_yearLength_le {year : Nat} (first : 1 ≤ year) (last : year ≤ 9999) :
    daysBeforeYear year + yearLength year ≤ 3652059 := by
  rw [← daysBeforeYear_succ first]
  calc daysBeforeYear (year + 1) ≤ daysBeforeYear 10000 :=
        monotone_daysBeforeYear (Nat.succ_le_succ last)
    _ = 3652059 := by decide

/-! ## Months -/

theorem sum_monthLengths (year : Nat) : (monthLengths year).sum = yearLength year := by
  unfold monthLengths yearLength
  split <;> rfl

theorem daysBeforeMonth_succ (year : Nat) {month : Nat} (first : 1 ≤ month) :
    daysBeforeMonth year (month + 1) = daysBeforeMonth year month + monthLength year month := by
  obtain ⟨past, rfl⟩ := Nat.exists_eq_add_of_le' first
  have before (n : Nat) : daysBeforeMonth year (n + 1) = ((monthLengths year).take n).sum := rfl
  rw [before, before, List.take_add_one, List.sum_append, monthLength, Nat.add_sub_cancel]
  cases (monthLengths year)[past]? <;> simp

theorem daysBeforeMonth_le (year month : Nat) : daysBeforeMonth year month ≤ yearLength year := by
  rw [← sum_monthLengths, ← List.take_append_drop (month - 1) (monthLengths year),
    List.sum_append]
  exact Nat.le_add_right _ _

theorem le_monthLength (year : Nat) {month : Nat} (first : 1 ≤ month) (last : month ≤ 12) :
    28 ≤ monthLength year month := by
  have inYear : month - 1 < (monthLengths year).length := by
    rw [show (monthLengths year).length = 12 from rfl]
    omega
  have long : ∀ length ∈ monthLengths year, 28 ≤ length := by
    unfold monthLengths
    split <;> decide
  rw [monthLength, List.getElem?_eq_getElem inYear, Option.getD_some]
  exact long _ (List.getElem_mem inYear)

theorem one_le_monthAndDay (lengths : List Nat) (dayOfYear : Nat) :
    1 ≤ (monthAndDay lengths dayOfYear).1 ∧ 1 ≤ (monthAndDay lengths dayOfYear).2 := by
  induction lengths generalizing dayOfYear with
  | nil => simp [monthAndDay]
  | cons length later ih =>
    unfold monthAndDay
    split
    · simp
    · exact ⟨Nat.le_add_left 1 _, (ih _).2⟩

/-! ## Dates -/

namespace Date

theorem eq_of_ordinal_eq {a b : Date} (same : a.ordinal = b.ordinal) : a = b := by
  cases a
  cases b
  simpa using same

theorem exists_ofCivil? {year month day : Nat} (years : 1 ≤ year ∧ year ≤ 9999)
    (months : 1 ≤ month ∧ month ≤ 12) (days : 1 ≤ day ∧ day ≤ monthLength year month) :
    ∃ date, ofCivil? year month day = some date := by
  have inYear := daysBeforeMonth_le year (month + 1)
  rw [daysBeforeMonth_succ year months.1] at inYear
  have inCalendar := daysBeforeYear_add_yearLength_le years.1 years.2
  refine ⟨⟨daysBeforeYear year + daysBeforeMonth year month + day - 1, by omega⟩, ?_⟩
  rw [ofCivil?, if_pos ⟨years.1, months.1, months.2, days.1, days.2⟩, ofOrdinal?_eq_some_iff]
  simp only
  omega

theorem one_le_year (date : Date) : 1 ≤ date.year := Nat.le_add_left 1 _

-- stated of the functions: applied to a date, checking the equation would calculate its month
theorem month_eq : month = fun date => date.monthDay.1 := rfl

theorem day_eq : day = fun date => date.monthDay.2 := rfl

theorem one_le_monthDay (date : Date) : 1 ≤ date.monthDay.1 ∧ 1 ≤ date.monthDay.2 :=
  one_le_monthAndDay _ _

theorem one_le_month (date : Date) : 1 ≤ date.month := by
  rw [month_eq]
  exact date.one_le_monthDay.1

theorem one_le_day (date : Date) : 1 ≤ date.day := by
  rw [day_eq]
  exact date.one_le_monthDay.2

/-- The year that a number of months leads to. -/
def yearAfter (date : Date) (months : Int) : Int := date.year + (date.month - 1 + months) / 12

/-- A number of months leads to a date exactly if it leads to a year of the calendar. -/
theorem addMonths_isOk_iff (date : Date) (months : Int) :
    (∃ result, date.addMonths months = .ok result) ↔
      1 ≤ date.yearAfter months ∧ date.yearAfter months ≤ 9999 := by
  simp only [addMonths, yearAfter]
  generalize (date.year + (date.month - 1 + months) / 12 : Int) = year
  split
  · next inCalendar =>
    refine iff_of_true ?_ inCalendar
    generalize monthOf : ((date.month - 1 + months) % 12).toNat + 1 = month
    have ofYear : 1 ≤ month ∧ month ≤ 12 := by omega
    have length : 1 ≤ monthLength year.toNat month :=
      (by decide : 1 ≤ 28).trans (le_monthLength year.toNat ofYear.1 ofYear.2)
    obtain ⟨result, civil⟩ :=
      exists_ofCivil? (by omega) ofYear ⟨le_min date.one_le_day length, min_le_right date.day _⟩
    exact ⟨result, Fault.require_eq_ok.mpr civil⟩
  · next outside =>
    refine iff_of_false ?_ outside
    split <;> simp

end Date

end Lending
