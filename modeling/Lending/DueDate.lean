import Lending.Loan
import Lending.Policy
import Lending.RequestQueue

/-!
# Due dates

The due date of a loan or of a renewal is found in steps: the policy alone gives a candidate, the
candidate is moved if the library is closed then, and the result must be acceptable. A loan that
would outlive the patron's account is cut back to its expiration.

## Main definitions

* `LoanPolicy.checkoutCandidate`, `LoanPolicy.renewalCandidate` — what the policy alone gives
* `LoanPolicy.onOpenDays` — the candidate moved off closed days
* `LoanPolicy.checkoutDueDate`, `LoanPolicy.renewalDueDate` — the complete calculations
* `LoanPolicy.untilExpiration` — a due date cut back to the patron's expiration
-/

namespace Lending

/-! ## Candidates -/

/-- A period that a due date can be calculated with. -/
def LoanPolicy.usablePeriod (policy : LoanPolicy) : Option Period → Outcome Period
  | none => .error (.calculation "the loan period in the loan policy is not recognised"
      policy.details)
  | some period =>
    if period.unit?.isNone then
      .error (.calculation
        ("the interval \"" ++ period.interval ++ "\" in the loan policy is not recognised")
        policy.details)
    else if period.duration.any (0 < ·) then .ok period
    else
      .error (.calculation
        ("the duration \"" ++ period.durationText ++ "\" in the loan policy is invalid")
        policy.details)

namespace LoanPolicy

variable (policy : LoanPolicy)

/-- The end of a period from `reference`, but not after the due date that the schedule `limit`, if
it has ranges, gives for `limitReference`. -/
def rolling (period : Option Period) (reference : Moment) (limit : Schedule)
    (limitReference : Moment) (zone : Zone) : Calculation Moment := do
  let period ← (policy.usablePeriod period).calculation
  let due ← period.addTo reference zone
  if limit.isEmpty then return due else limit.limit due limitReference zone

/-- The period of a checkout: while a hold is at the head of the queue, the one for holds. -/
def checkoutPeriod (queue : Option RequestQueue) : Option Period :=
  if queue.any (·.holdAtHead) then policy.holds.checkoutPeriod.or policy.period else policy.period

/-- The period of a renewal: while a hold is at the head of the queue, the one for holds. -/
def periodOfRenewal (queue : Option RequestQueue) : Option Period :=
  if queue.any (·.holdAtHead) then policy.holds.renewalPeriod.or policy.renewalPeriod
  else policy.renewalPeriod

/-- The due date that the policy alone gives a loan. -/
def checkoutCandidate (loanDate : Moment) (queue : Option RequestQueue) (zone : Zone) :
    Calculation Moment :=
  if !policy.loanable then throw (.itemNotLoanable policy.id)
  else if policy.isFixed then policy.loanSchedule.dueFor loanDate zone loanDateOutsideRanges
  else
    policy.rolling (policy.checkoutPeriod queue) loanDate policy.loanSchedule loanDate zone

/-- The due date that the policy alone gives a renewal. -/
def renewalCandidate (loan : Loan) (now : Moment) (queue : Option RequestQueue) (zone : Zone) :
    Calculation Moment :=
  if policy.isFixed then policy.scheduleForRenewal.dueFor now zone renewalDateOutsideRanges
  else
    match policy.renewals.renewFrom? with
    | none =>
      throw (.calculation "cannot determine when to renew from"
        [("renewFrom", .text policy.renewals.renewFrom)])
    | some anchor =>
      let reference := match anchor with
        | .currentDueDate => loan.due
        | .systemDate => now
      policy.rolling (policy.periodOfRenewal queue) reference policy.scheduleForRenewal now zone

/-! ## Adjustments -/

/-- The candidate moved by the policy's strategy; without calendar days it stays. -/
def onOpenDays (candidate : Moment) (days : Option AdjacentDays) (zone : Zone) :
    Calculation Moment :=
  match days with
  | none => return candidate
  | some days =>
    if policy.strategy.isIdentity then return candidate
    else policy.strategy.move candidate days zone policy.openingOffset

/-- The way to cut a loan back: by days if it is due on a day, else by opening hours. -/
def expirationStrategy : ClosedDayStrategy :=
  if policy.isLongTerm then .endOfPreviousDayTruncate else .moveToEndOfCurrentHours

/-- The due date cut back to the end of open time before the patron's account expires, if it expires
before the due date. Without calendar days every day is taken for closed. -/
def untilExpiration (due : Moment) (expiration : Option Moment) (days : Option AdjacentDays)
    (zone : Zone) : Calculation Moment :=
  match expiration with
  | none => return due
  | some expiration => do
    if due ≤ expiration then return due
    let days ← AdjacentDays.orClosed days expiration zone
    policy.expirationStrategy.move expiration days zone none

/-! ## Complete calculations -/

/-- A due date that is not before the loan date. -/
def notBefore (loanDate due : Moment) : Outcome Moment :=
  if due < loanDate then
    .error (.calculation "calculated due date is before the loan date"
      [("dueDate", .text due.iso), ("loanDate", .text loanDate.iso)])
  else .ok due

/-- The due date of a loan. -/
def checkoutDueDate (loanDate : Moment) (days : Option AdjacentDays)
    (queue : Option RequestQueue) (zone : Zone) : Calculation Moment := do
  let candidate ← policy.checkoutCandidate loanDate queue zone
  let due ← policy.onOpenDays candidate days zone
  (notBefore loanDate due).calculation

/-- The due date of a renewal before it is compared with the current one. -/
def adjustedRenewal (loan : Loan) (now : Moment) (days : Option AdjacentDays)
    (queue : Option RequestQueue) (zone : Zone) : Calculation Moment := do
  let candidate ← policy.renewalCandidate loan now queue zone
  policy.onOpenDays candidate days zone

end LoanPolicy

/-- A due date that is later than that of the loan. -/
def Loan.extendedTo (loan : Loan) (due : Moment) : Outcome Moment :=
  if due ≤ loan.due then
    .error (.noDueDateChange
      [("currentDueDate", .text loan.due.iso), ("proposedDueDate", .text due.iso)])
  else .ok due

/-- The due date of a renewal, which must be later than the current one. -/
def LoanPolicy.renewalDueDate (policy : LoanPolicy) (loan : Loan) (now : Moment)
    (days : Option AdjacentDays) (queue : Option RequestQueue) (zone : Zone) :
    Calculation Moment := do
  let due ← policy.adjustedRenewal loan now days queue zone
  (loan.extendedTo due).calculation

end Lending
