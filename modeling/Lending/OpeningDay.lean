import Lending.Fault

/-!
# Opening days

A service point is open on a date or it is not, and on an open date it has opening hours or is open
all day. A due date is moved by looking at its date and the nearest open dates on either side.

## Main definitions

* `OpeningHour` — a span of open time within a day, both ends included
* `OpeningDay` — what is known of a service point for a date
* `OpeningDay.intervals` — the opening hours that take effect
* `OpeningDay.isOpenAt`, `OpeningDay.periods` — the open time of a day in a zone
* `AdjacentDays` — a date with its neighbours
-/

namespace Lending

/-! ## Opening hours -/

/-- A span of open time within a day; its ends are open too. -/
structure OpeningHour where
  start : TimeOfDay
  stop : TimeOfDay
  ordered : start ≤ stop
deriving DecidableEq, Repr

namespace OpeningHour

/-- Opening hours with the given ends, which must be in order. -/
def make (start stop : TimeOfDay) : Except Fault OpeningHour :=
  if h : start ≤ stop then .ok ⟨start, stop, h⟩ else .error (.reversedHours start stop)

/-- Whether a time of day lies within the opening hours. -/
def Contains (hour : OpeningHour) (time : TimeOfDay) : Prop :=
  hour.start ≤ time ∧ time ≤ hour.stop

instance (hour : OpeningHour) (time : TimeOfDay) : Decidable (hour.Contains time) :=
  inferInstanceAs (Decidable (_ ∧ _))

/-- The whole day. -/
def allDay : OpeningHour := ⟨startOfDay, endOfDay, by decide⟩

/-- The order of opening hours: by their start, and among equal starts by their end. -/
def notAfter (a b : OpeningHour) : Bool :=
  a.start < b.start || (a.start == b.start && decide (a.stop ≤ b.stop))

/-- Opening hours in order. -/
def sort (hours : List OpeningHour) : List OpeningHour := hours.mergeSort notAfter

end OpeningHour

/-! ## Days -/

/-- What is known of a service point for a date: whether it is open, whether all day, and its
opening hours as they were stored. -/
structure OpeningDay where
  date : Date
  isOpen : Bool
  allDay : Bool := false
  stored : List OpeningHour := []
deriving DecidableEq, Repr

namespace OpeningDay

/-- A closed day. -/
def closed (date : Date) : OpeningDay := { date, isOpen := false }

/-- A day that is open all day. -/
def openAllDay (date : Date) : OpeningDay := { date, isOpen := true, allDay := true }

/-- An open day with the given opening hours. -/
def openBetween (date : Date) (hours : List OpeningHour) : OpeningDay :=
  { date, isOpen := true, stored := OpeningHour.sort hours }

/-- The opening hours that take effect: none on a closed day, the whole day when it is open all day
or has no hours of its own. -/
def intervals (day : OpeningDay) : List OpeningHour :=
  if !day.isOpen then []
  else if day.allDay || day.stored.isEmpty then [.allDay]
  else day.stored

/-- Whether a moment falls on the day and within its opening hours, by the clock of `zone`. -/
def isOpenAt (day : OpeningDay) (moment : Moment) (zone : Zone) : Except Fault Bool := do
  let local' ← moment.inZone zone
  return local'.wall.date = day.date && day.intervals.any (·.Contains local'.wall.time)

/-- The open time of the day in a zone, as spans between moments. -/
def periods (day : OpeningDay) (zone : Zone) : List (Moment × Moment) :=
  day.intervals.map fun hour =>
    (.showing day.date hour.start zone, .showing day.date hour.stop zone)

/-- The latest closing of the day in a zone. -/
def lastClosing? (day : OpeningDay) (zone : Zone) : Option Moment :=
  Moment.latest? ((day.periods zone).map (·.2))

/-- The latest closing that is not after a moment. -/
def lastClosingBy? (day : OpeningDay) (moment : Moment) (zone : Zone) : Option Moment :=
  Moment.latest? (((day.periods zone).map (·.2)).filter (· ≤ moment))

/-- The earliest opening of the day in a zone. -/
def firstOpening? (day : OpeningDay) (zone : Zone) : Option Moment :=
  Moment.earliest? ((day.periods zone).map (·.1))

/-- The earliest opening that is not before a moment. -/
def firstOpeningFrom? (day : OpeningDay) (moment : Moment) (zone : Zone) : Option Moment :=
  Moment.earliest? (((day.periods zone).map (·.1)).filter (moment ≤ ·))

end OpeningDay

/-! ## Neighbours -/

/-- A date with the nearest open days before and after it; where there is none, a closed day stands
for it. -/
structure AdjacentDays where
  previous : OpeningDay
  requested : OpeningDay
  next : OpeningDay
deriving DecidableEq, Repr

namespace AdjacentDays

/-- A date without any open day around it. -/
def closedAround (date : Date) : Except Fault AdjacentDays := do
  let previous ← date.shift (-1)
  let next ← date.shift 1
  return ⟨.closed previous, .closed date, .closed next⟩

/-- The given days, or else the date of a moment without any open day around it. -/
def orClosed (days : Option AdjacentDays) (moment : Moment) (zone : Zone) :
    Except Fault AdjacentDays :=
  match days with
  | some days => .ok days
  | none => do
    let date ← moment.dateIn zone
    closedAround date

end AdjacentDays

end Lending
