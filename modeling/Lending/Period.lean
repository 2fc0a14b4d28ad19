import Lending.Fault

/-!
# Periods

Loans, renewals and grace last for a period such as "10 Days". Minutes and hours are meant as
elapsed time and move the clock of the moment's own zone; days, weeks and months move the local wall
clock, so that a loan made at ten o'clock stays due at ten o'clock.

## Main definitions

* `PeriodUnit` — the units that a period can be counted in
* `Period` — a duration with the name of its unit as it was stored
* `Period.toMinutes` — the length of a period, a month counted as 31 days
* `Period.addTo` — the moment a period later
-/

namespace Lending

/-! ## Units -/

/-- The units that periods are counted in. -/
inductive PeriodUnit | minutes | hours | days | weeks | months
deriving DecidableEq, Repr

namespace PeriodUnit

def all : List PeriodUnit := [minutes, hours, days, weeks, months]

def name : PeriodUnit → String
  | minutes => "Minutes"
  | hours => "Hours"
  | days => "Days"
  | weeks => "Weeks"
  | months => "Months"

/-- The unit of a name. -/
def named? (name : String) : Option PeriodUnit := all.find? (·.name = name)

/-- The minutes of one unit. -/
def toMinutes : PeriodUnit → Int
  | minutes => 1
  | hours => 60
  | days => 1440
  | weeks => 10080
  | months => 44640

/-- Loans counted in days or longer units are due on a day, not at an hour. -/
def isLongTerm : PeriodUnit → Bool
  | minutes | hours => false
  | days | weeks | months => true

@[simp] theorem named?_name (unit : PeriodUnit) : named? unit.name = some unit := by
  cases unit <;> rfl

end PeriodUnit

/-! ## Periods -/

/-- A duration in a unit. The unit is kept by the name that the policy gives it, so that a name
that is not known can be reported when the period is used; the duration may be missing. -/
structure Period where
  duration : Option Int
  interval : String
deriving DecidableEq, Repr

namespace Period

/-- A number of units. -/
def of (unit : PeriodUnit) (duration : Option Int) : Period := ⟨duration, unit.name⟩

/-- The unit of the period, if it is known. -/
def unit? (period : Period) : Option PeriodUnit := PeriodUnit.named? period.interval

/-- Whether the unit is known and the duration positive. -/
def isValid (period : Period) : Bool :=
  period.unit?.isSome && period.duration.any (0 < ·)

/-- Whether the unit is known and at least a day. -/
def isLongTerm (period : Period) : Bool := period.unit?.any (·.isLongTerm)

/-- The length in minutes, zero when the unit is not known or the duration missing. -/
def toMinutes (period : Period) : Int :=
  match period.unit?, period.duration with
  | some unit, some duration => duration * unit.toMinutes
  | _, _ => 0

/-- The written form of a duration. -/
def durationText (period : Period) : String :=
  match period.duration with
  | none => Detail.absent.render
  | some n => (Detail.number n).render

/-- The written form of a period. -/
def text (period : Period) : String := period.durationText ++ " " ++ period.interval

/-- The moment a period of elapsed minutes later, in `zone`. The clock of the moment's own zone is
advanced before it is read in the other zone. -/
def addMinutes (minutes : Int) (moment : Moment) (zone : Zone) : Except Fault Moment := do
  let wall ← Fault.outOfRange.require (moment.wall.shift? (minutes * 60000000))
  Moment.inZone { wall, zone := moment.zone } zone

/-- The moment a number of days later by the wall clock of `zone`. -/
def addDays (days : Int) (moment : Moment) (zone : Zone) : Except Fault Moment := do
  let local' ← moment.inZone zone
  let wall ← Fault.outOfRange.require (local'.wall.shift? (days * 86400000000))
  return { wall, zone }

/-- The moment a number of months later by the wall clock of `zone`; a second pass stays one. -/
def addMonths (months : Int) (moment : Moment) (zone : Zone) : Except Fault Moment := do
  let local' ← moment.inZone zone
  let date ← local'.wall.date.addMonths months
  return { wall := .showing date local'.wall.time, zone, secondPass := local'.secondPass }

/-- The moment a period after another one, in `zone`. -/
def addTo (period : Period) (moment : Moment) (zone : Zone) : Except Fault Moment :=
  let count := period.duration.getD 0
  match period.unit? with
  | none => .error (.unknownUnit period.interval)
  | some .minutes => addMinutes count moment zone
  | some .hours => addMinutes (count * 60) moment zone
  | some .days => addDays count moment zone
  | some .weeks => addDays (count * 7) moment zone
  | some .months => addMonths count moment zone

@[simp] theorem unit?_of (unit : PeriodUnit) (n : Option Int) : (of unit n).unit? = some unit :=
  PeriodUnit.named?_name unit

end Period

end Lending
