import Lending.Proofs.Calendar.Neighbours
import Lending.Proofs.DueDate.Faults

/-!
# Due dates moved by whole days

Four strategies move a due date to the end of an open day. They see no more than the three days
around it; here it is said of the whole calendar to which day they move it: to the end of the first
open date from its own one on, or of the last open date before it, as far as the calendar is
searched. They fail for want of a calendar exactly if there is no such date.

## Main definitions

* `Moment.EndsDate` — the last moment of a date for due dates, 23:59:59.999 by the clocks of a zone
* `MovedTo` — what becomes of a due date that is moved to the closest of some choices
* `MovedToEnd` — the choices are dates, and the due date is moved to the end of the closest one

## Main results

* `Calendar.Nearest.movedToEnd` — the end of a nearest open day
* `AdjacentDays.Around.toEndOfNextOpenDay` — the end of the first open date from a date on
* `Records.moved_to_end_of_nearest_day` — the four strategies on the days around a date
-/

namespace Lending

/-! ## Closest choices -/

/-- What becomes of a due date that is moved to the closest of some choices: a due date that stands
for that choice, or, if there is nothing to choose, a failure for want of a calendar. -/
inductive MovedTo {α : Type} (requested : Moment) (Stands : Moment → α → Prop)
    (Closest : Set α → α → Prop) (choices : Set α) : Except Fault (Outcome Moment) → Prop
  | moved {due : Moment} {choice : α} (closest : Closest choices choice)
      (stands : Stands due choice) : MovedTo requested Stands Closest choices (.ok (.ok due))
  | missing (none : choices = ∅) :
      MovedTo requested Stands Closest choices (.ok (.error (.timetableAbsent requested)))

/-- If only one choice can be the closest, the due date stands for it. -/
theorem MovedTo.eq_of_closest {α : Type} {requested : Moment} {Stands : Moment → α → Prop}
    {Closest : Set α → α → Prop} {choices : Set α} {result : Except Fault (Outcome Moment)}
    (moved : MovedTo requested Stands Closest choices result) {choice : α}
    (member : choice ∈ choices) (only : ∀ other, Closest choices other → other = choice) :
    ∃ due, Stands due choice ∧ result = .ok (.ok due) := by
  cases moved with
  | moved closest stands => exact ⟨_, only _ closest ▸ stands, rfl⟩
  | missing none => simp [none] at member

/-- The clocks of a zone show 23:59:59.999 on a date. If they show it twice, the first time is
meant. -/
structure Moment.EndsDate (due : Moment) (date : Date) (zone : Zone) : Prop where
  zone : due.zone = zone
  wall : due.wall.micros =
    (((date.ordinal * 24 + 23) * 60 + 59) * 60 + 59) * 1000000 + 999 * 1000
  firstPass : due.secondPass = false

theorem Moment.endsDate_endOf (date : Date) (zone : Zone) :
    (endOf date zone).EndsDate date zone where
  zone := rfl
  wall := by
    simp only [endOf, wall_showing, WallClock.showing, endOfDay]
    omega
  firstPass := rfl

/-- A due date is moved to the end of the closest of some dates, in a zone. -/
abbrev MovedToEnd (requested : Moment) (zone : Zone) (Closest : Set Date → Date → Prop)
    (dates : Set Date) : Except Fault (Outcome Moment) → Prop :=
  MovedTo requested (·.EndsDate · zone) Closest dates

variable {calendar : Calendar} {date : Date} {limit : Int} {days : AdjacentDays}
variable {requested : Moment} {zone : Zone}

/-! ## The date itself -/

/-- The record of a date is open if an open day is stored for it. -/
theorem AdjacentDays.Around.isOpen_requested (around : days.Around calendar date limit) :
    days.requested.isOpen = true ↔ calendar.OpenOn date := by
  rw [around.requested]
  constructor
  · intro isOpen
    cases found : calendar.find? date with
    | none => simp [found, OpeningDay.closed] at isOpen
    | some day =>
      obtain ⟨stored, same⟩ := Calendar.find?_eq_some_iff.mp found
      exact ⟨day, stored, same, by simpa [found] using isOpen⟩
  · rintro ⟨day, stored, same, isOpen⟩
    rw [Calendar.find?_eq_some_iff.mpr ⟨stored, same⟩]
    exact isOpen

/-- An open date is the first open one from itself on. -/
theorem Calendar.isLeast_openDates (isOpen : calendar.OpenOn date) {reach : Int}
    (within : 0 ≤ reach) : IsLeast (calendar.openDates date 0 reach) date := by
  refine ⟨⟨isOpen, by omega, by omega⟩, ?_⟩
  rintro d ⟨-, after, -⟩
  rw [Date.le_def]
  omega

/-- The open dates from a closed one on are those after it. -/
theorem Calendar.openDates_of_not_openOn (closed : ¬ calendar.OpenOn date) :
    calendar.openDates date 0 (max limit 0) = calendar.openDates date 1 limit := by
  ext d
  constructor
  · rintro ⟨isOpen, after, before⟩
    have different : d.ordinal ≠ date.ordinal := by
      intro same
      exact closed (Date.eq_of_ordinal_eq same ▸ isOpen)
    exact ⟨isOpen, by omega, by omega⟩
  · rintro ⟨isOpen, after, before⟩
    exact ⟨isOpen, by omega, by omega⟩

/-! ## The strategies -/

/-- A due date is moved to the end of the day that stands for the nearest of some dates. -/
theorem Calendar.Nearest.movedToEnd {Closest : Set Date → Date → Prop} {dates : Set Date}
    {day : OpeningDay} (nearest : calendar.Nearest Closest dates day) :
    MovedToEnd requested zone Closest dates
      (ClosedDayStrategy.endOfOpenDay requested zone day).calculation.result := by
  rw [Calculation.result_calculation, ClosedDayStrategy.endOfOpenDay]
  cases isOpen : day.isOpen with
  | true => exact .moved (nearest.found isOpen).2 (Moment.endsDate_endOf _ _)
  | false => exact .missing (nearest.missed isOpen)

namespace ClosedDayStrategy

/-- On days that are those around its date a due date is moved as the strategy says. -/
theorem move_of_dateIn (strategy : ClosedDayStrategy) (offset : Option Period)
    (fallsOn : requested.dateIn zone = .ok days.requested.date) :
    strategy.move requested days zone offset =
      match strategy with
      | keepCurrentDate => pure requested
      | moveToEndOfPreviousOpenDay => (toEndOfPreviousOpenDay requested days zone).calculation
      | moveToEndOfNextOpenDay | endOfNextOpenDay => toEndOfNextOpenDay requested days zone
      | endOfPreviousDayTruncate => (endOfOpenDay requested zone days.previous).calculation
      | moveToEndOfCurrentHours => toEndOfCurrentHours requested days zone
      | moveToBeginningOfNextOpenHours =>
        toBeginningOfNextOpenHours requested days zone offset := by
  unfold move
  rw [fallsOn]
  change (if days.requested.date ≠ days.requested.date then _ else _) = _
  refine (if_neg (by simp)).trans ?_
  cases strategy <;> rfl

end ClosedDayStrategy

namespace AdjacentDays.Around

open ClosedDayStrategy

/-- The end of the next open day is that of the first open date from the date on. -/
theorem toEndOfNextOpenDay (around : days.Around calendar date limit)
    (fallsOn : requested.dateIn zone = .ok date) :
    MovedToEnd requested zone IsLeast (calendar.openDates date 0 (max limit 0))
      (toEndOfNextOpenDay requested days zone).result := by
  unfold ClosedDayStrategy.toEndOfNextOpenDay
  by_cases isOpen : days.requested.isOpen = true
  · rw [if_pos isOpen, fallsOn]
    have openOn := around.isOpen_requested.mp isOpen
    exact .moved (Calendar.isLeast_openDates openOn (by omega)) (Moment.endsDate_endOf date zone)
  · rw [if_neg isOpen]
    have closed : ¬ calendar.OpenOn date := mt around.isOpen_requested.mpr isOpen
    rw [Calendar.openDates_of_not_openOn closed]
    exact around.next.movedToEnd

/-- On a closed date the end of the previous open day is that of the last open date before. -/
theorem toEndOfPreviousOpenDay (around : days.Around calendar date limit)
    (closed : ¬ calendar.OpenOn date) :
    MovedToEnd requested zone IsGreatest (calendar.openDates date (-limit) (-1))
      (toEndOfPreviousOpenDay requested days zone).calculation.result := by
  unfold ClosedDayStrategy.toEndOfPreviousOpenDay
  rw [if_neg (mt around.isOpen_requested.mp closed)]
  exact around.previous.movedToEnd

end AdjacentDays.Around

/-- **Whole days.** Let a service point keep a calendar, and let the date of a due date be as far
from the ends of time as the calendar is searched. With the days around that date two strategies
move the due date to the end of the first open date from it on. A third one leaves it as it is on an
open date and moves it from a closed one to the end of the last open date before, to which the
fourth one moves it in any case. Each fails exactly if there is no such date. -/
theorem Records.moved_to_end_of_nearest_day (records : Records) (servicePoint : Option String)
    (calendar : Calendar) (requested : Moment) (zone : Zone) (date : Date) (offset : Option Period)
    (kept : records.calendars.find? servicePoint = some calendar)
    (fallsOn : requested.dateIn zone = .ok date)
    (far : date.FarFromEnds (max records.searchLimit 1)) :
    ∃ days, records.adjacentDays? servicePoint date = .ok (some days) ∧
      (∀ strategy : ClosedDayStrategy,
        strategy = .endOfNextOpenDay ∨ strategy = .moveToEndOfNextOpenDay →
        MovedToEnd requested zone IsLeast (calendar.openDates date 0 (max records.searchLimit 0))
          (strategy.move requested days zone offset).result) ∧
      (calendar.OpenOn date →
        (ClosedDayStrategy.moveToEndOfPreviousOpenDay.move requested days zone offset).result =
          .ok (.ok requested)) ∧
      (¬ calendar.OpenOn date →
        MovedToEnd requested zone IsGreatest (calendar.openDates date (-records.searchLimit) (-1))
          (ClosedDayStrategy.moveToEndOfPreviousOpenDay.move requested days zone offset).result) ∧
      MovedToEnd requested zone IsGreatest (calendar.openDates date (-records.searchLimit) (-1))
        (ClosedDayStrategy.endOfPreviousDayTruncate.move requested days zone offset).result := by
  obtain ⟨days, found, around⟩ := exists_adjacentDays? kept far
  have described : requested.dateIn zone = .ok days.requested.date := by
    rw [fallsOn, around.date_requested]
  have moves (strategy : ClosedDayStrategy) := strategy.move_of_dateIn offset described
  refine ⟨days, found, ?_, ?_, ?_, ?_⟩
  · rintro strategy (rfl | rfl)
    · rw [moves]
      exact around.toEndOfNextOpenDay fallsOn
    · rw [moves]
      exact around.toEndOfNextOpenDay fallsOn
  · intro openOn
    rw [moves]
    simp [ClosedDayStrategy.toEndOfPreviousOpenDay, around.isOpen_requested.mpr openOn]
  · intro closed
    rw [moves]
    exact around.toEndOfPreviousOpenDay closed
  · rw [moves]
    exact around.previous.movedToEnd

def friday : Date := ⟨739001, by decide⟩

def saturday : Date := ⟨739002, by decide⟩

def monday : Date := ⟨739004, by decide⟩

/-- A Friday and a Monday that are open, and a Saturday between them whose record lists opening
hours but is closed. -/
def longWeekend : Calendar where
  days :=
    [.openAllDay friday, { date := saturday, isOpen := false, stored := [.allDay] },
      .openAllDay monday]
  ordered := by decide

/-- The records of a service point that is searched for a week in each direction. -/
def weekendRecords : Records where
  calendars := ⟨[(some "desk", longWeekend)]⟩
  searchLimit := 7

theorem longWeekend_openOn_iff (d : Date) : longWeekend.OpenOn d ↔ d = friday ∨ d = monday := by
  simp only [Calendar.OpenOn, longWeekend, List.mem_cons, List.not_mem_nil, or_false]
  constructor
  · rintro ⟨_, rfl | rfl | rfl, rfl, isOpen⟩
    · exact .inl rfl
    · cases isOpen
    · exact .inr rfl
  · rintro (rfl | rfl)
    · exact ⟨_, .inl rfl, rfl, rfl⟩
    · exact ⟨_, .inr (.inr rfl), rfl, rfl⟩

/-- A due date on the Saturday goes on to the Monday or back to the Friday, a millisecond before
midnight. -/
theorem longWeekend_moved :
    let noon : Moment := .showing saturday ⟨43200000000, by decide⟩ .utc
    ∃ days onMonday onFriday,
      weekendRecords.adjacentDays? (some "desk") saturday = .ok (some days) ∧
      (ClosedDayStrategy.endOfNextOpenDay.move noon days .utc none).result = .ok (.ok onMonday) ∧
      onMonday.zone = .utc ∧ onMonday.wall.micros = 739005 * 86400000000 - 1000 ∧
      (ClosedDayStrategy.endOfPreviousDayTruncate.move noon days .utc none).result =
        .ok (.ok onFriday) ∧
      onFriday.zone = .utc ∧ onFriday.wall.micros = 739002 * 86400000000 - 1000 := by
  intro noon
  obtain ⟨days, found, next, -, -, previous⟩ := weekendRecords.moved_to_end_of_nearest_day
    (some "desk") longWeekend noon .utc saturday none rfl (Moment.dateIn_showing _ _ _) (by decide)
  obtain ⟨onMonday, endsMonday, movedOn⟩ := (next _ (.inl rfl)).eq_of_closest
    ⟨(longWeekend_openOn_iff monday).mpr (.inr rfl), by decide⟩ (by
      rintro d ⟨⟨openOn, after, -⟩, -⟩
      rcases (longWeekend_openOn_iff d).mp openOn with rfl | rfl
      · exact absurd after (by decide)
      · rfl)
  obtain ⟨onFriday, endsFriday, movedBack⟩ := previous.eq_of_closest
    ⟨(longWeekend_openOn_iff friday).mpr (.inl rfl), by decide⟩ (by
      rintro d ⟨⟨openOn, -, before⟩, -⟩
      rcases (longWeekend_openOn_iff d).mp openOn with rfl | rfl
      · rfl
      · exact absurd before (by decide))
  exact ⟨days, onMonday, onFriday, found, movedOn, endsMonday.zone, endsMonday.wall, movedBack,
    endsFriday.zone, endsFriday.wall⟩

end Lending
