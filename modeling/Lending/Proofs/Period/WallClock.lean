import Lending.Period
import Lending.Proofs.Time.Changes
import Lending.Proofs.Time.Months

/-!
# Periods counted in days and longer units

A period of days, weeks or months moves the date that a clock in the zone shows and leaves its time
of day alone, so that a loan made at ten o'clock is due at ten o'clock. The date is moved by as many
days, or to the month so many months later. Months are of different lengths: a day that the month
does not have becomes its last day, so that two dates may be moved to the same one, but never past
each other.

## Main definitions

* `PeriodUnit.Spans` — a number of units leads from one date to another

## Main results

* `PeriodUnit.Spans.lt`, `PeriodUnit.Spans.le` — dates are moved forward and stay in order
* `Period.addTo_eq_ok_iff` — what a moment becomes
* `Period.addTo_by_wallClock` — when a moment can be moved, and what it becomes
-/

namespace Lending

/-! ## Dates -/

/-- A number of units leads from one date to another: so many days or weeks later, or in the month
so many months later on the same day or, where that month is too short, on its last day. Minutes and
hours lead to no date, since they are counted by the clock. -/
def PeriodUnit.Spans (unit : PeriodUnit) (count : Int) (first last : Date) : Prop :=
  match unit with
  | .minutes | .hours => False
  | .days => (last.ordinal : Int) = first.ordinal + count
  | .weeks => (last.ordinal : Int) = first.ordinal + 7 * count
  | .months => (last.monthCount : Int) = first.monthCount + count ∧
      last.day = min first.day (monthLength last.year last.month)

instance (unit : PeriodUnit) (count : Int) (first last : Date) :
    Decidable (unit.Spans count first last) :=
  match unit with
  | .minutes | .hours => inferInstanceAs (Decidable False)
  | .days | .weeks => inferInstanceAs (Decidable (_ = _))
  | .months => inferInstanceAs (Decidable (_ ∧ _))

namespace PeriodUnit.Spans

variable {unit : PeriodUnit} {count : Int} {first last first' last' : Date}

/-- A positive number of units leads to a later date. -/
theorem lt (spans : unit.Spans count first last) (positive : 0 < count) : first < last := by
  cases unit with
  | minutes | hours => exact spans.elim
  | days | weeks =>
    simp only [Spans] at spans
    rw [Date.lt_def]
    omega
  | months =>
    obtain ⟨month, -⟩ := spans
    exact Date.lt_of_monthCount_lt (by omega)

/-- The same number of units keeps dates in order. -/
theorem le (spans : unit.Spans count first last) (spans' : unit.Spans count first' last')
    (order : first ≤ first') : last ≤ last' := by
  cases unit with
  | minutes | hours => exact spans.elim
  | days | weeks =>
    simp only [Spans] at spans spans'
    rw [Date.le_def] at *
    omega
  | months =>
    obtain ⟨month, day⟩ := spans
    obtain ⟨month', day'⟩ := spans'
    rcases Date.le_iff_monthCount.mp order with earlier | ⟨same, days⟩
    · exact Date.le_iff_monthCount.mpr (.inl (by omega))
    · -- within a month both days are cut back to the same last day
      have together : last.monthCount = last'.monthCount := by omega
      refine Date.le_iff_monthCount.mpr (.inr ⟨together, ?_⟩)
      rw [day, day', ← last.monthCount_div, ← last.monthCount_mod, together, last'.monthCount_div,
        last'.monthCount_mod]
      exact Nat.le_min.mpr ⟨(Nat.min_le_left _ _).trans days, Nat.min_le_right _ _⟩

/-- A number of units leads to one date only. -/
theorem unique (spans : unit.Spans count first last) (spans' : unit.Spans count first last') :
    last = last' :=
  Date.eq_of_ordinal_eq
    (Nat.le_antisymm (spans.le spans' (Nat.le_refl _)) (spans'.le spans (Nat.le_refl _)))

end PeriodUnit.Spans

/-! ## Moments -/

/-- A wall clock that is moved by whole days shows the same time on another date. -/
theorem WallClock.shift?_days_eq_some_iff {wall moved : WallClock} {days : Int} :
    wall.shift? (days * 86400000000) = some moved ↔
      ∃ last : Date, (last.ordinal : Int) = wall.date.ordinal + days ∧
        moved = .showing last wall.time := by
  rw [shift?_eq_some_iff]
  constructor
  · intro shifted
    refine ⟨moved.date, ?_, ?_⟩
    · simp only [date]
      omega
    · have sameTime : moved.time = wall.time := by
        simp only [time, TimeOfDay.mk.injEq]
        omega
      rw [← sameTime, showing_date_time]
  · rintro ⟨last, passed, rfl⟩
    simp only [date, time, showing] at *
    omega

namespace Period

variable {unit : PeriodUnit} {count days months : Int} {moment result : Moment} {zone : Zone}

theorem addDays_eq_ok_iff :
    addDays days moment zone = .ok result ↔
      ∃ shown ∈ moment.inZone? zone, ∃ last : Date,
        (last.ordinal : Int) = shown.wall.date.ordinal + days ∧
          result = { wall := .showing last shown.wall.time, zone } := by
  simp only [addDays, bind_eq_ok, Moment.inZone_eq_ok, Fault.require_eq_ok, pure_eq_ok,
    WallClock.shift?_days_eq_some_iff, Option.mem_def]
  constructor
  · rintro ⟨shown, inZone, -, ⟨last, passed, rfl⟩, rfl⟩
    exact ⟨shown, inZone, last, passed, rfl⟩
  · rintro ⟨shown, inZone, last, passed, rfl⟩
    exact ⟨shown, inZone, _, ⟨last, passed, rfl⟩, rfl⟩

theorem addMonths_eq_ok_iff :
    addMonths months moment zone = .ok result ↔
      ∃ shown ∈ moment.inZone? zone, ∃ last : Date,
        PeriodUnit.months.Spans months shown.wall.date last ∧
          result = { wall := .showing last shown.wall.time, zone,
                     secondPass := shown.secondPass } := by
  simp only [addMonths, bind_eq_ok, Moment.inZone_eq_ok, Date.addMonths_eq_ok_iff, pure_eq_ok,
    Option.mem_def, PeriodUnit.Spans]
  constructor
  · rintro ⟨shown, inZone, last, spans, rfl⟩
    exact ⟨shown, inZone, last, spans, rfl⟩
  · rintro ⟨shown, inZone, last, spans, rfl⟩
    exact ⟨shown, inZone, last, spans, rfl⟩

/-- A period of days or longer units moves the date that a clock in the zone shows, and keeps the
time that it shows. Of a time that occurs twice it keeps the pass only if it is counted in
months. -/
theorem addTo_eq_ok_iff (long : unit.isLongTerm = true) :
    (of unit (some count)).addTo moment zone = .ok result ↔
      ∃ shown ∈ moment.inZone? zone, ∃ last, unit.Spans count shown.wall.date last ∧
        result = { wall := .showing last shown.wall.time, zone,
                   secondPass := unit = .months && shown.secondPass } := by
  have duration : (of unit (some count)).duration.getD 0 = count := rfl
  cases unit with
  | minutes | hours => cases long
  | days =>
    simp only [addTo, unit?_of, duration]
    exact addDays_eq_ok_iff
  | weeks =>
    simp only [addTo, unit?_of, duration, Int.mul_comm count 7]
    exact addDays_eq_ok_iff
  | months =>
    simp only [addTo, unit?_of, duration]
    exact addMonths_eq_ok_iff

/-- **Periods by the wall clock.** A positive number of days, weeks or months can be added to a
moment in a zone exactly if a clock in the zone can show the moment and the calendar has the date
that they lead to. The result is a moment of the zone on that date, at the time of day that the
clock shows for the first one. The date is later than the first, and of two moments the one with the
earlier date does not come to a later one. -/
theorem addTo_by_wallClock (long : unit.isLongTerm = true) (positive : 0 < count) (moment : Moment)
    (zone : Zone) :
    ((∃ result, (of unit (some count)).addTo moment zone = .ok result) ↔
      ∃ shown ∈ moment.inZone? zone, ∃ last, unit.Spans count shown.wall.date last) ∧
    ∀ result, (of unit (some count)).addTo moment zone = .ok result →
      ∃ shown ∈ moment.inZone? zone,
        result.zone = zone ∧ result.wall.time = shown.wall.time ∧
        unit.Spans count shown.wall.date result.wall.date ∧
        shown.wall.date < result.wall.date ∧
        ∀ other shown' result', other.inZone? zone = some shown' →
          (of unit (some count)).addTo other zone = .ok result' →
          shown.wall.date ≤ shown'.wall.date → result.wall.date ≤ result'.wall.date := by
  constructor
  · simp only [addTo_eq_ok_iff long]
    constructor
    · rintro ⟨result, shown, inZone, last, spans, -⟩
      exact ⟨shown, inZone, last, spans⟩
    · rintro ⟨shown, inZone, last, spans⟩
      exact ⟨_, shown, inZone, last, spans, rfl⟩
  · intro result added
    obtain ⟨shown, inZone, last, spans, rfl⟩ := (addTo_eq_ok_iff long).mp added
    rw [← WallClock.date_showing last shown.wall.time] at spans
    refine ⟨shown, inZone, rfl, WallClock.time_showing _ _, spans, spans.lt positive, ?_⟩
    intro other shown' result' inZone' added' order
    obtain ⟨same, inZone'', last', spans', rfl⟩ := (addTo_eq_ok_iff long).mp added'
    obtain rfl := Option.some.inj (inZone'.symm.trans inZone'')
    rw [← WallClock.date_showing last' shown'.wall.time] at spans'
    exact spans.le spans' order

/-- Half past twelve on the last day of January 2024 in New York. -/
def lastDayOfJanuary : Moment :=
  .showing ⟨738915, by decide⟩ ⟨45000000000, by decide⟩ (.region .newYork)

/-- A month later it is half past twelve on the leap day. -/
theorem addTo_lastDayOfJanuary :
    0 < (1 : Int) ∧ ∃ result,
      (of .months (some 1)).addTo lastDayOfJanuary (.region .newYork) = .ok result ∧
        result.zone = .region .newYork ∧ result.wall.time = lastDayOfJanuary.wall.time ∧
        result.wall.date = ⟨738944, by decide⟩ := by
  have spans : PeriodUnit.months.Spans 1 lastDayOfJanuary.wall.date ⟨738944, by decide⟩ := by
    decide
  have long : PeriodUnit.months.isLongTerm = true := rfl
  obtain ⟨returns, becomes⟩ :=
    addTo_by_wallClock long Int.zero_lt_one lastDayOfJanuary (.region .newYork)
  obtain ⟨result, added⟩ := returns.mpr ⟨_, Moment.inZone?_self _, _, spans⟩
  obtain ⟨shown, inZone, sameZone, sameTime, spans', -⟩ := becomes result added
  obtain rfl := Option.some.inj ((Moment.inZone?_self lastDayOfJanuary).symm.trans inZone)
  exact ⟨Int.zero_lt_one, result, added, sameZone, sameTime, spans'.unique spans⟩

end Period

end Lending
