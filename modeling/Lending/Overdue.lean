import Lending.Loan
import Lending.Policy
import Lending.Time.Seconds

/-!
# Overdue time

Overdue time runs from the due date until now. Under a fine policy that does not count closed time
only the opening hours of the service point count. The grace period of the loan policy is taken
off, except after a recall under a fine policy that grants no grace then.

## Main definitions

* `openMinutes` — the open minutes between two moments
* `Loan.graceMinutes` — the grace that a loan has
* `Loan.overdueMinutes` — the minutes for which a fine is due
-/

namespace Lending

/-- The whole minutes from one moment to another, none if they run backwards. -/
def minutesBetween (start stop : Moment) : Nat :=
  wholeMinutes (stop.since start)

/-- The part of a period that lies between two moments, in seconds; none if they do not meet. -/
def overlapSeconds (start stop : Moment) (period : Moment × Moment) : Option Seconds :=
  let first := period.1.later start
  let last := period.2.earlier stop
  if first < last then some (.ofMicros (last.since first).toNat) else none

/-- The open seconds between two moments, added up day by day and period by period. -/
def openSeconds (start stop : Moment) (days : List OpeningDay) (zone : Zone) : Seconds :=
  ((days.flatMap (·.periods zone)).filterMap (overlapSeconds start stop)).foldl Seconds.add .zero

/-- The open minutes between two moments. Days that are not listed count as closed. -/
def openMinutes (start stop : Moment) (days : List OpeningDay) (zone : Zone) : Nat :=
  if stop ≤ start then 0 else (openSeconds start stop days zone).wholeMinutes

namespace Loan

variable (loan : Loan)

/-- The grace minutes of a loan under its policies. -/
def graceMinutes (policy : Option LoanPolicy) (fine : FinePolicy) : Int :=
  match policy.bind (·.gracePeriod) with
  | none => 0
  | some grace =>
    if loan.dueDateChangedByRecall && !fine.graceAfterRecall then 0 else grace.toMinutes

/-- The minutes that have passed since the due date, as the fine policy counts them. -/
def elapsedMinutes (fine : FinePolicy) (now : Moment) (days : Option (List OpeningDay))
    (zone : Zone) : Except Fault Nat :=
  if fine.countClosed then .ok (minutesBetween loan.due now)
  else
    match days with
    | none => .error .openingDaysRequired
    | some days => .ok (openMinutes loan.due now days zone)

/-- The minutes for which a fine is due, never less than none. The calendar days, from the due date
until now, are only needed when closed time does not count. -/
def overdueMinutes (policy : Option LoanPolicy) (fine : FinePolicy) (now : Moment)
    (days : Option (List OpeningDay)) (zone : Zone) : Except Fault Int :=
  if now ≤ loan.due then .ok 0
  else do
    let elapsed ← loan.elapsedMinutes fine now days zone
    return max (elapsed - loan.graceMinutes policy fine) 0

end Loan

end Lending
