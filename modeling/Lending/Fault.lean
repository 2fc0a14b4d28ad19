import Lending.Failure
import Lending.Text.Quoted
import Lending.Time.Iso

/-!
# Faults

A fault stops a calculation: its input makes no sense or leads out of the calendar, so that there
is nothing to decide. Faults are kept apart from failures, which are decisions.

## Main definitions

* `Fault` — what is wrong, by cause, with `Fault.message`
* `Calculation` — a calculation that ends with an outcome unless a fault stops it
-/

namespace Lending

/-- What is wrong with the input of a calculation. -/
inductive Fault
  /-- A date or time lies outside the years 1 to 9999. -/
  | outOfRange
  /-- A number of months leads to a year outside the calendar. -/
  | yearOutOfRange (year : Int)
  /-- A period is counted in a unit that is not known. -/
  | unknownUnit (name : String)
  /-- A time zone is not known. -/
  | unknownZone (name : String)
  /-- An item status is not known. -/
  | unknownStatus (name : String)
  /-- A setting names no tie break. -/
  | unknownTieBreak (text : String)
  /-- Opening hours end before they start. -/
  | reversedHours (start stop : TimeOfDay)
  /-- A range of a schedule ends before it starts. -/
  | reversedRange (first last : Date)
  /-- Two ranges of a schedule share a date. -/
  | overlappingRanges (schedule : Option String) (first last first' last' : Date)
  /-- A due date cannot be moved without calendar days. -/
  | adjacentDaysRequired
  /-- The calendar days are not those around the due date. -/
  | daysMismatch (described : Date) (requested : Moment)
  /-- Open time cannot be counted without calendar days. -/
  | openingDaysRequired
deriving DecidableEq, Repr

namespace Fault

/-- What is wrong, in words. -/
def message : Fault → String
  | outOfRange => "the date lies outside the years 1 to 9999"
  | yearOutOfRange year => "year " ++ toString year ++ " is out of range"
  | unknownUnit name => "the interval \"" ++ name ++ "\" is not recognised"
  | unknownZone name => "the time zone \"" ++ name ++ "\" is not known"
  | unknownStatus name => "Unknown item status: " ++ name
  | unknownTieBreak text => quoted text ++ " is not a valid TieBreak"
  | reversedHours start stop =>
    "Opening hour ends before it starts: " ++ start.iso ++ "-" ++ stop.iso
  | reversedRange first last =>
    "Schedule range ends before it starts: " ++ first.iso ++ ".." ++ last.iso
  | overlappingRanges schedule first last first' last' =>
    "Schedule " ++ (Detail.ofId schedule).render ++ " has overlapping ranges: " ++
      first.iso ++ ".." ++ last.iso ++ " and " ++ first'.iso ++ ".." ++ last'.iso
  | adjacentDaysRequired => "Adjacent opening days are required"
  | daysMismatch described requested =>
    "Opening days for " ++ described.iso ++ " do not describe " ++ requested.iso
  | openingDaysRequired => "Opening days are required when closed time is not counted"

/-- A value that has to be there. -/
def require {α : Type} (fault : Fault) : Option α → Except Fault α
  | none => .error fault
  | some a => .ok a

@[simp] theorem require_none {α : Type} (f : Fault) :
    f.require (none : Option α) = .error f := rfl

@[simp] theorem require_some {α : Type} (f : Fault) (a : α) : f.require (some a) = .ok a := rfl

end Fault

/-- A calculation ends with an outcome unless a fault stops it. -/
abbrev Calculation (α : Type) := ExceptT Failure (Except Fault) α

/-- A calculation that ends with a given outcome. -/
def Outcome.calculation {α : Type} (outcome : Outcome α) : Calculation α :=
  ExceptT.mk (.ok outcome)

/-- What a calculation comes to: an outcome, or the fault that stopped it. -/
def Calculation.result {α : Type} (calculation : Calculation α) : Except Fault (Outcome α) :=
  calculation.run

namespace Calculation

variable {α β : Type}

@[simp] theorem result_calculation (outcome : Outcome α) :
    outcome.calculation.result = .ok outcome := rfl

@[simp] theorem result_pure (a : α) : (pure a : Calculation α).result = .ok (.ok a) := rfl

@[simp] theorem result_throw (failure : Failure) :
    (throw failure : Calculation α).result = .ok (.error failure) := rfl

@[simp] theorem result_fault (fault : Fault) :
    (throwThe Fault fault : Calculation α).result = .error fault := rfl

/-- A step that can only be stopped by a fault gives a value otherwise. -/
@[simp] theorem result_monadLift (step : Except Fault α) :
    (monadLift step : Calculation α).result = step.map .ok := by
  cases step <;> rfl

/-- A calculation goes on with the value of its first part, and ends with a failure or a fault of
it. -/
theorem result_bind (first : Calculation α) (next : α → Calculation β) :
    (first >>= next).result =
      match first.result with
      | .ok (.ok a) => (next a).result
      | .ok (.error failure) => .ok (.error failure)
      | .error fault => .error fault := by
  change (ExceptT.bind first next).run = _
  unfold ExceptT.bind
  change Except.bind first (ExceptT.bindCont next) = _
  unfold result ExceptT.run
  rcases first with fault | failure | a <;> rfl

/-- A calculation of two parts gives a value when each part does. -/
theorem result_bind_eq_ok {first : Calculation α} {next : α → Calculation β} {b : β} :
    (first >>= next).result = .ok (.ok b) ↔
      ∃ a, first.result = .ok (.ok a) ∧ (next a).result = .ok (.ok b) := by
  rw [result_bind]
  rcases first.result with fault | failure | a <;> simp

end Calculation

/-- The moment as a clock in `zone` shows it, where the calendar has to reach it. -/
def Moment.inZone (m : Moment) (zone : Zone) : Except Fault Moment :=
  Fault.outOfRange.require (m.inZone? zone)

/-- The date of a moment in a zone, where the calendar has to reach it. -/
def Moment.dateIn (m : Moment) (zone : Zone) : Except Fault Date :=
  Fault.outOfRange.require (m.dateIn? zone)

/-- The date a number of days away, where the calendar has to reach it. -/
def Date.shift (date : Date) (days : Int) : Except Fault Date :=
  Fault.outOfRange.require (date.shift? days)

/-- The date a number of months away, on the same day of the month or, where the month is too
short, on its last day. A year that no date can have is named as long as it fits a 32-bit word. -/
def Date.addMonths (date : Date) (months : Int) : Except Fault Date :=
  let monthsOn : Int := date.month - 1 + months
  let year : Int := date.year + monthsOn / 12
  let month := (monthsOn % 12).toNat + 1
  if 1 ≤ year ∧ year ≤ 9999 then
    Fault.outOfRange.require
      (Date.ofCivil? year.toNat month (min date.day (monthLength year.toNat month)))
  else if -2147483648 ≤ year ∧ year ≤ 2147483647 then .error (.yearOutOfRange year)
  else .error .outOfRange

end Lending
