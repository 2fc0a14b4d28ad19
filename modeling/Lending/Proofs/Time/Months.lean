import Lending.Proofs.Time.Civil

/-!
# Months of the calendar

Year, month and day are read off the count of days of a date, and the date is made from them again.
Months are counted through from the beginning of year 0: each begins when the days of the one before
it are over. So dates are in the order of their months, and within a month in the order of their
days, and a number of months leads from a date to the month so many months later.

## Main definitions

* `monthStart`, `daysOfMonth` — the days before a month, and its length, by the count of months
* `Date.monthCount` — the count of the month in which a date lies

## Main results

* `yearOfOrdinal_bounds`, `monthAndDay_eq` — a day lies in the year and the month that are read off
* `monthStart_succ` — months follow one another
* `Date.ofCivil?_eq_some_iff` — a date is made from what is read off it, and from nothing else
* `Date.le_iff_monthCount` — the order of dates by months and days
* `Date.addMonths_eq_ok_iff` — the date that a number of months leads to
-/

namespace Lending

/-! ## Reading a count of days -/

/-- The days before a year that is counted by cycles, centuries, fourth years and years. -/
theorem daysBeforeYear_eq {cycles centuries fours years : Nat} (c : centuries ≤ 3) (f : fours ≤ 24)
    (y : years ≤ 3) :
    daysBeforeYear (400 * cycles + 100 * centuries + 4 * fours + years + 1) =
      146097 * cycles + 36524 * centuries + 1461 * fours + 365 * years := by
  simp only [daysBeforeYear, Nat.add_sub_cancel]
  omega

/-- A day lies in the year that is read off its count. -/
theorem yearOfOrdinal_bounds (ordinal : Nat) :
    daysBeforeYear (yearOfOrdinal ordinal) ≤ ordinal ∧
      ordinal < daysBeforeYear (yearOfOrdinal ordinal + 1) := by
  have first : 1 ≤ yearOfOrdinal ordinal := Nat.le_add_left 1 _
  rw [daysBeforeYear_succ first]
  simp only [yearOfOrdinal]
  -- the last day of a cycle and that of a leap year are past the end of their parts, which is why
  -- centuries and years are cut back to the last part
  generalize hc : min (ordinal % 146097 / 36524) 3 = c
  generalize hr : ordinal % 146097 - c * 36524 = r
  generalize hy : min (r % 1461 / 365) 3 = y
  have : r / 1461 ≤ 24 := by omega
  rw [daysBeforeYear_eq (by omega) this (by omega)]
  constructor
  · omega
  · unfold yearLength
    split
    · omega
    · next common =>
      rw [isLeapYear_iff] at common
      omega

/-- A day of the year is read as a day of the month in which it lies. -/
theorem monthAndDay_eq {lengths : List Nat} {dayOfYear : Nat} (inside : dayOfYear < lengths.sum) :
    ∃ past length days, lengths[past]? = some length ∧ days < length ∧
      dayOfYear = (lengths.take past).sum + days ∧
      monthAndDay lengths dayOfYear = (past + 1, days + 1) := by
  induction lengths generalizing dayOfYear with
  | nil => simp at inside
  | cons first later ih =>
    unfold monthAndDay
    split
    · next here => exact ⟨0, first, dayOfYear, rfl, here, by simp, rfl⟩
    · next after =>
      rw [List.sum_cons] at inside
      have inside' : dayOfYear - first < later.sum := by omega
      obtain ⟨past, length, days, found, within, count, read⟩ := ih inside'
      refine ⟨past + 1, length, days, found, within, ?_, by rw [read]⟩
      rw [List.take_succ_cons, List.sum_cons]
      omega

/-- A day of a year is read as a month of the year and a day in that month. -/
theorem exists_monthAndDay_eq {year dayOfYear : Nat} (inside : dayOfYear < yearLength year) :
    ∃ month day, monthAndDay (monthLengths year) dayOfYear = (month, day) ∧ month ≤ 12 ∧
      day ≤ monthLength year month ∧ dayOfYear = daysBeforeMonth year month + (day - 1) := by
  rw [← sum_monthLengths] at inside
  obtain ⟨past, length, days, found, within, count, read⟩ := monthAndDay_eq inside
  have inYear : past < 12 := (List.getElem?_eq_some_iff.mp found).1
  have before : daysBeforeMonth year (past + 1) = ((monthLengths year).take past).sum := rfl
  refine ⟨past + 1, days + 1, read, inYear, ?_, ?_⟩
  · rw [monthLength, Nat.add_sub_cancel, found, Option.getD_some]
    exact within
  · rw [before, Nat.add_sub_cancel]
    exact count

/-! ## Months counted through -/

/-- The length of a month that is counted from the beginning of year 0. -/
def daysOfMonth (count : Nat) : Nat := monthLength (count / 12) (count % 12 + 1)

/-- The days before a month that is counted from the beginning of year 0. -/
def monthStart (count : Nat) : Nat :=
  daysBeforeYear (count / 12) + daysBeforeMonth (count / 12) (count % 12 + 1)

theorem monthStart_succ {count : Nat} (first : 12 ≤ count) :
    monthStart (count + 1) = monthStart count + daysOfMonth count := by
  have next := daysBeforeMonth_succ (count / 12) (Nat.le_add_left 1 (count % 12))
  unfold monthStart daysOfMonth
  rw [Nat.add_assoc, ← next]
  by_cases last : count % 12 = 11
  · -- the month after December is the first one of the next year
    have year : (count + 1) / 12 = count / 12 + 1 := by omega
    have month : (count + 1) % 12 = 0 := by omega
    have whole : daysBeforeMonth (count / 12) 13 = yearLength (count / 12) := sum_monthLengths _
    rw [year, month, last, whole, daysBeforeYear_succ (by omega)]
    rfl
  · have year : (count + 1) / 12 = count / 12 := by omega
    have month : (count + 1) % 12 = count % 12 + 1 := by omega
    rw [year, month]

theorem monthStart_le {a b : Nat} (first : 12 ≤ a) (le : a ≤ b) : monthStart a ≤ monthStart b := by
  induction b, le using Nat.le_induction with
  | base => exact le_refl _
  | succ b le ih =>
    rw [monthStart_succ (first.trans le)]
    exact ih.trans (Nat.le_add_right _ _)

theorem lt_monthStart_of_lt {a b days : Nat} (first : 12 ≤ a) (lt : a < b)
    (within : days < daysOfMonth a) : monthStart a + days < monthStart b := by
  have next := monthStart_succ first
  have later : monthStart (a + 1) ≤ monthStart b := monthStart_le (first.trans (Nat.le_succ a)) lt
  omega

/-! ## Dates by month and day -/

namespace Date

variable {a b date : Date}

/-- The months from the beginning of year 0 to the month of a date. -/
def monthCount (date : Date) : Nat := 12 * date.year + (date.month - 1)

/-- Year, month and day are within their bounds and give the day that they are read off. -/
theorem civil_reading (date : Date) :
    date.month ≤ 12 ∧ date.day ≤ monthLength date.year date.month ∧
      date.ordinal = daysBeforeYear date.year + daysBeforeMonth date.year date.month +
        (date.day - 1) := by
  obtain ⟨first, last⟩ := yearOfOrdinal_bounds date.ordinal
  change daysBeforeYear date.year ≤ date.ordinal at first
  change date.ordinal < daysBeforeYear (date.year + 1) at last
  rw [daysBeforeYear_succ date.one_le_year] at last
  have inside : date.ordinal - daysBeforeYear date.year < yearLength date.year := by omega
  obtain ⟨month, day, read, inYear, inMonth, count⟩ := exists_monthAndDay_eq inside
  have monthDay : date.monthDay = (month, day) := read
  have sameMonth : date.month = month := by
    rw [month_eq]
    exact congrArg Prod.fst monthDay
  have sameDay : date.day = day := by
    rw [day_eq]
    exact congrArg Prod.snd monthDay
  rw [sameMonth, sameDay]
  exact ⟨inYear, inMonth, by omega⟩

theorem month_le (date : Date) : date.month ≤ 12 := date.civil_reading.1

theorem year_le (date : Date) : date.year ≤ 9999 := by
  by_contra beyond
  have start : daysBeforeYear 10000 ≤ daysBeforeYear date.year :=
    monotone_daysBeforeYear (Nat.lt_of_not_le beyond)
  have inCalendar := date.inRange
  have reading := date.civil_reading.2.2
  rw [show daysBeforeYear 10000 = 3652059 from rfl] at start
  omega

theorem monthCount_div (date : Date) : date.monthCount / 12 = date.year := by
  have := date.month_le
  have := date.one_le_month
  unfold monthCount
  omega

theorem monthCount_mod (date : Date) : date.monthCount % 12 + 1 = date.month := by
  have := date.month_le
  have := date.one_le_month
  unfold monthCount
  omega

theorem le_monthCount (date : Date) : 12 ≤ date.monthCount := by
  have := date.one_le_year
  unfold monthCount
  omega

/-- A date is a day of its month. -/
theorem ordinal_eq (date : Date) :
    date.ordinal = monthStart date.monthCount + (date.day - 1) ∧ 1 ≤ date.day ∧
      date.day ≤ daysOfMonth date.monthCount := by
  obtain ⟨-, within, reading⟩ := date.civil_reading
  rw [monthStart, daysOfMonth, monthCount_div, monthCount_mod]
  exact ⟨reading, date.one_le_day, within⟩

theorem lt_of_monthCount_lt (lt : a.monthCount < b.monthCount) : a < b := by
  obtain ⟨ha, first, within⟩ := a.ordinal_eq
  obtain ⟨hb, -, -⟩ := b.ordinal_eq
  have inside : a.day - 1 < daysOfMonth a.monthCount := by omega
  have before := lt_monthStart_of_lt a.le_monthCount lt inside
  rw [lt_def]
  omega

/-- Dates are in the order of their months, and within a month in the order of their days. -/
theorem le_iff_monthCount :
    a ≤ b ↔ a.monthCount < b.monthCount ∨ a.monthCount = b.monthCount ∧ a.day ≤ b.day := by
  obtain ⟨ha, first, -⟩ := a.ordinal_eq
  obtain ⟨hb, first', -⟩ := b.ordinal_eq
  rcases Nat.lt_trichotomy a.monthCount b.monthCount with lt | same | gt
  · have := lt_of_monthCount_lt lt
    rw [lt_def] at this
    simp only [le_def, lt, true_or, iff_true]
    omega
  · rw [same] at ha
    simp only [le_def, same, lt_irrefl, true_and, false_or]
    omega
  · have := lt_of_monthCount_lt gt
    rw [lt_def] at this
    rw [le_def]
    omega

/-- A date is read as the day of the month that its count of days is made from. -/
theorem reading_of_ordinal {count days : Nat} (first : 12 ≤ count)
    (within : days < daysOfMonth count) (made : date.ordinal = monthStart count + days) :
    date.monthCount = count ∧ date.day = days + 1 := by
  obtain ⟨reading, firstDay, lastDay⟩ := date.ordinal_eq
  rcases Nat.lt_trichotomy date.monthCount count with before | same | after
  · have inside : date.day - 1 < daysOfMonth date.monthCount := by omega
    have := lt_monthStart_of_lt date.le_monthCount before inside
    omega
  · rw [same] at reading
    exact ⟨same, by omega⟩
  · have := lt_monthStart_of_lt first after within
    omega

/-- A date is made from the year, the month and the day that are read off it. -/
theorem ofCivil?_eq_some_iff {year month day : Nat} :
    ofCivil? year month day = some date ↔
      date.year = year ∧ date.month = month ∧ date.day = day := by
  unfold ofCivil?
  constructor
  · intro made
    split at made
    · next bounds =>
      rw [ofOrdinal?_eq_some_iff] at made
      have inYear : (12 * year + (month - 1)) / 12 = year := by omega
      have inMonth : (12 * year + (month - 1)) % 12 + 1 = month := by omega
      have within : day - 1 < daysOfMonth (12 * year + (month - 1)) := by
        rw [daysOfMonth, inYear, inMonth]
        omega
      have reading : date.ordinal = monthStart (12 * year + (month - 1)) + (day - 1) := by
        rw [monthStart, inYear, inMonth]
        omega
      obtain ⟨count, sameDay⟩ := reading_of_ordinal (by omega) within reading
      have sameYear := date.monthCount_div
      have sameMonth := date.monthCount_mod
      rw [count] at sameYear sameMonth
      omega
    · cases made
  · rintro ⟨rfl, rfl, rfl⟩
    obtain ⟨-, within, reading⟩ := date.civil_reading
    have firstDay := date.one_le_day
    rw [if_pos ⟨date.one_le_year, date.one_le_month, date.month_le, firstDay, within⟩,
      ofOrdinal?_eq_some_iff]
    omega

/-- The month so many months later is found by counting years of twelve months. -/
theorem monthCount_eq_add_iff {months : Int} {last : Date} :
    (last.monthCount : Int) = date.monthCount + months ↔
      (last.year : Int) = date.yearAfter months ∧
        last.month = ((date.month - 1 + months) % 12 : Int).toNat + 1 := by
  have first := date.one_le_month
  have first' := last.one_le_month
  have within := last.month_le
  unfold monthCount yearAfter
  generalize hm : (date.month - 1 + months : Int) = m
  omega

/-- A number of months leads to the month so many months later, and there to the same day or, where
the month is too short, to its last day. -/
theorem addMonths_eq_ok_iff {months : Int} {last : Date} :
    date.addMonths months = .ok last ↔
      (last.monthCount : Int) = date.monthCount + months ∧
        last.day = min date.day (monthLength last.year last.month) := by
  have firstYear := last.one_le_year
  have lastYear := last.year_le
  rw [monthCount_eq_add_iff]
  simp only [addMonths, yearAfter]
  generalize (date.year + (date.month - 1 + months) / 12 : Int) = year
  generalize ((date.month - 1 + months) % 12 : Int).toNat + 1 = month
  split
  · next inCalendar =>
    have ofYear : last.year = year.toNat ↔ (last.year : Int) = year := by omega
    rw [Fault.require_eq_ok, ofCivil?_eq_some_iff, ← ofYear, and_assoc]
    refine and_congr_right fun sameYear => and_congr_right fun sameMonth => ?_
    rw [sameYear, sameMonth]
  · next outside =>
    refine iff_of_false ?_ ?_
    · split <;> simp
    · rintro ⟨⟨sameYear, -⟩, -⟩
      omega

end Date

end Lending
