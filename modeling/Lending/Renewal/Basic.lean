import Lending.Renewal.Check

/-!
# Renewals

A renewal is decided by making all checks and calculating the new due date. If nothing speaks
against it the loan is renewed; if something does, a privileged user may still override it, as long
as a due date can be calculated; otherwise the renewal is refused with all violations and the loan
stays as it was.

## Main definitions

* `Renewal` — what a renewal is decided on, and what became of it
* `Renewal.decide` — the decision
* `Renewal.orRefusal` — the decision as an outcome
-/

namespace Lending

/-- What a renewal is decided on, and what became of it: the loan, the violations for which it was
refused and those that were overridden. -/
structure Renewal where
  loan : Loan
  policy : LoanPolicy
  queue : RequestQueue := .empty
  override : Bool := false
  errors : List Violation := []
  overridden : List Violation := []
deriving DecidableEq, Repr

namespace Renewal

def succeeded (renewal : Renewal) : Bool := renewal.errors.isEmpty

def reasons (renewal : Renewal) : List String := renewal.errors.map (·.reason)

/-- The renewal, or its refusal as a failure. -/
def orRefusal (renewal : Renewal) : Outcome Renewal :=
  if renewal.succeeded then .ok renewal else .error (.renewalRefused renewal.errors)

/-- The new due date before it is compared with the current one. It is calculated only for a policy
that allows renewals, or for an override. -/
def proposedDue (renewal : Renewal) (now : Moment) (days : Option AdjacentDays) (zone : Zone) :
    Except Fault (Option (Outcome Moment)) :=
  let policy := renewal.policy
  if renewal.override || (policy.loanable && policy.renewable) then
    (policy.adjustedRenewal renewal.loan now days (some renewal.queue) zone).result.map some
  else .ok none

/-- What speaks against the renewal until the proposed due date. -/
def violations (renewal : Renewal) (proposed : Option (Outcome Moment)) : List Violation :=
  let onDueDate := proposed.map fun due => checkDueDate (due.bind renewal.loan.extendedTo)
  violationsOf (renewal.policy.checkRenewal renewal.loan renewal.queue ++ onDueDate.toList)

/-- The renewal carried out until `due`. -/
def carriedOut (renewal : Renewal) (due : Moment) : Renewal :=
  { renewal with loan := renewal.loan.renew due renewal.policy.id }

/-- The renewal carried out against the listed violations. -/
def overriding (renewal : Renewal) (due : Moment) (violations : List Violation) : Renewal :=
  { renewal with
    loan := renewal.loan.renewByOverride due renewal.policy.id
    overridden := violations }

/-- The renewal refused for the listed violations. -/
def refused (renewal : Renewal) (violations : List Violation) : Renewal :=
  { renewal with errors := violations }

/-- The decision on a renewal. The calendar days must be those around the new due date. -/
def decide (renewal : Renewal) (now : Moment) (days : Option AdjacentDays) (zone : Zone) :
    Except Fault Renewal := do
  let proposed ← renewal.proposedDue now days zone
  let violations := renewal.violations proposed
  match proposed with
  | some (.ok due) =>
    if violations.isEmpty then return renewal.carriedOut due
    else if renewal.override then return renewal.overriding due violations
    else return renewal.refused violations
  | _ => return renewal.refused violations

end Renewal

end Lending
