import Lending.OpeningDay
import Lending.Period

/-!
# Due dates on closed days

A due date may fall on a date, or at an hour, at which the service point is closed. Each strategy
moves such a due date by looking at its date and the open days next to it; when there is no day to
move it to, it fails for want of a calendar.

## Main definitions

* `ClosedDayStrategy` — the ways to move a due date
* `ClosedDayStrategy.move` — the moved due date
-/

namespace Lending

/-- The ways to move a due date. Two names stand for the end of the next open day. -/
inductive ClosedDayStrategy
  | keepCurrentDate
  | moveToEndOfPreviousOpenDay
  | moveToEndOfNextOpenDay
  | endOfNextOpenDay
  | endOfPreviousDayTruncate
  | moveToEndOfCurrentHours
  | moveToBeginningOfNextOpenHours
deriving DecidableEq, Repr

namespace ClosedDayStrategy

def all : List ClosedDayStrategy :=
  [keepCurrentDate, moveToEndOfPreviousOpenDay, moveToEndOfNextOpenDay, endOfNextOpenDay,
    endOfPreviousDayTruncate, moveToEndOfCurrentHours, moveToBeginningOfNextOpenHours]

def name : ClosedDayStrategy → String
  | keepCurrentDate => "KEEP_CURRENT_DATE"
  | moveToEndOfPreviousOpenDay => "MOVE_TO_THE_END_OF_THE_PREVIOUS_OPEN_DAY"
  | moveToEndOfNextOpenDay => "MOVE_TO_THE_END_OF_THE_NEXT_OPEN_DAY"
  | endOfNextOpenDay => "END_OF_NEXT_OPEN_DAY"
  | endOfPreviousDayTruncate => "END_OF_PREVIOUS_DAY_TRUNCATE"
  | moveToEndOfCurrentHours => "MOVE_TO_END_OF_CURRENT_SERVICE_POINT_HOURS"
  | moveToBeginningOfNextOpenHours => "MOVE_TO_BEGINNING_OF_NEXT_OPEN_SERVICE_POINT_HOURS"

/-- The strategy of a name. -/
def named? (name : String) : Option ClosedDayStrategy := all.find? (·.name = name)

/-- Whether the strategy keeps every due date and so needs no calendar. -/
def isIdentity (strategy : ClosedDayStrategy) : Bool := strategy = keepCurrentDate

@[simp] theorem named?_name (strategy : ClosedDayStrategy) :
    named? strategy.name = some strategy := by
  cases strategy <;> decide

end ClosedDayStrategy

/-- The failure to find a day to move a due date to. -/
def Failure.timetableAbsent (requested : Moment) : Failure :=
  .calendarUnavailable [("requestedDate", .text requested.iso)]

namespace ClosedDayStrategy

variable (requested : Moment) (days : AdjacentDays) (zone : Zone)

/-- A value that the calendar has to give. -/
def fromTimetable {α : Type} : Option α → Outcome α
  | none => .error (.timetableAbsent requested)
  | some a => .ok a

/-- The end of an open day; a closed day stands for a missing one. -/
def endOfOpenDay (day : OpeningDay) : Outcome Moment :=
  fromTimetable requested (if day.isOpen then some (.endOf day.date zone) else none)

/-- A due date on an open day stays, one on a closed day goes to the end of the open day
before. -/
def toEndOfPreviousOpenDay : Outcome Moment :=
  if days.requested.isOpen then .ok requested else endOfOpenDay requested zone days.previous

/-- The end of the due date's own date if that is open, else of the open day after it. -/
def toEndOfNextOpenDay : Calculation Moment := do
  if days.requested.isOpen then
    return .endOf (← requested.dateIn zone) zone
  else (endOfOpenDay requested zone days.next).calculation

/-- A due date in open hours stays; else the last closing before it on its date, or the last one of
the open day before. -/
def toEndOfCurrentHours : Calculation Moment := do
  if ← days.requested.isOpenAt requested zone then return requested
  let closing? :=
    (days.requested.lastClosingBy? requested zone).or (days.previous.lastClosing? zone)
  (fromTimetable requested closing?).calculation

/-- A due date in open hours stays; else the next opening on its date, or the first one of the open
day after it, and a valid `offset` later. -/
def toBeginningOfNextOpenHours (offset : Option Period) : Calculation Moment := do
  if ← days.requested.isOpenAt requested zone then return requested
  let opening? :=
    (days.requested.firstOpeningFrom? requested zone).or (days.next.firstOpening? zone)
  let opening ← (fromTimetable requested opening?).calculation
  match offset.filter (·.isValid) with
  | none => return opening
  | some offset => offset.addTo opening zone

/-- The due date that a strategy makes of a requested one. The calendar days must be those around
the requested date. -/
def move (strategy : ClosedDayStrategy) (requested : Moment) (days : AdjacentDays) (zone : Zone)
    (offset : Option Period) : Calculation Moment := do
  let date ← requested.dateIn zone
  if days.requested.date ≠ date then
    throwThe Fault (.daysMismatch days.requested.date requested)
  match strategy with
  | keepCurrentDate => return requested
  | moveToEndOfPreviousOpenDay => (toEndOfPreviousOpenDay requested days zone).calculation
  | moveToEndOfNextOpenDay | endOfNextOpenDay => toEndOfNextOpenDay requested days zone
  | endOfPreviousDayTruncate => (endOfOpenDay requested zone days.previous).calculation
  | moveToEndOfCurrentHours => toEndOfCurrentHours requested days zone
  | moveToBeginningOfNextOpenHours => toBeginningOfNextOpenHours requested days zone offset

/-- The due date that a strategy makes of a requested one, where calendar days must be given. -/
def moveWith (strategy : ClosedDayStrategy) (requested : Moment) (days : Option AdjacentDays)
    (zone : Zone) (offset : Option Period) : Calculation Moment :=
  match days with
  | none => throwThe Fault .adjacentDaysRequired
  | some days => strategy.move requested days zone offset

end ClosedDayStrategy

end Lending
