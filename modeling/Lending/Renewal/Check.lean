import Lending.DueDate

/-!
# Checks before a renewal

Every check looks at one condition of a renewal and passes or reports a violation. All checks are
made, so that a patron learns every reason for a refusal at once.

## Main definitions

* `CheckResult` — a check by name, with its violation unless it passed
* `LoanPolicy.checkRenewal` — the checks that need no due date, in their order
* `checkDueDate` — the check of a calculated due date
-/

namespace Lending

/-- What a check came to: it passed unless there is a violation. -/
structure CheckResult where
  rule : String
  violation : Option Violation
deriving DecidableEq, Repr

namespace CheckResult

def passed (result : CheckResult) : Bool := result.violation.isNone

/-- What is said of the check. -/
def message (result : CheckResult) : String :=
  match result.violation with
  | none => "ok"
  | some violation => violation.reason

/-- The key of the violation, empty for a check that passed. -/
def key (result : CheckResult) : String :=
  match result.violation with
  | none => ""
  | some violation => violation.key

end CheckResult

/-- A check that reports a violation if a condition fails. -/
def checkThat (rule : String) (condition : Bool) (violation : Violation) : CheckResult :=
  ⟨rule, if condition then none else some violation⟩

/-- The violations that a list of checks reports, in order. -/
def violationsOf (results : List CheckResult) : List Violation :=
  results.filterMap (·.violation)

/-! ## Requests -/

/-- A recall at the head of the queue forbids a renewal. -/
def checkNoActiveRecall (queue : RequestQueue) : CheckResult :=
  checkThat "active_recall" (!queue.recallAtHead)
    { reason := "items cannot be renewed when there is an active recall request"
      key := "ITEM_HAS_OPEN_RECALL_REQUEST"
      parameters := [("requestId", .ofId (queue.head?.map (·.id)))] }

namespace LoanPolicy

variable (policy : LoanPolicy)

/-- A hold at the head of the queue forbids a renewal unless the policy allows it. -/
def checkHoldAllowsRenewal (queue : RequestQueue) : CheckResult :=
  checkThat "hold_renewal" (!queue.holdAtHead || policy.holds.renewWithRequest)
    { reason := "Items with this loan policy cannot be renewed " ++
        "when there is an active, pending hold request"
      key := "RENEWAL_ITEM_HAS_OPEN_HOLD_REQUEST"
      parameters := policy.details }

/-- Under a fixed policy a hold cannot have a renewal period of its own. -/
def checkFixedHoldPeriod (queue : RequestQueue) : CheckResult :=
  checkThat "fixed_profile_hold_period"
    (!(queue.holdAtHead && policy.isFixed && policy.holds.renewalPeriod.isSome))
    { reason := "Item's loan policy has fixed profile but alternative " ++
        "renewal period for holds is specified"
      key := "FIXED_POLICY_HAS_ALTERNATE_RENEWAL_PERIOD_FOR_HOLDS"
      parameters := policy.details }

/-- Under a fixed policy, while a hold waits, a renewal cannot have a period of its own. -/
def checkFixedRenewalPeriod (queue : RequestQueue) : CheckResult :=
  checkThat "fixed_profile_renewal_period"
    (!(queue.holdAtHead && policy.isFixed && policy.renewals.period.isSome))
    { reason := "Item's loan policy has fixed profile but renewal period is specified"
      key := "FIXED_POLICY_HAS_ALTERNATE_RENEWAL_PERIOD"
      parameters := policy.details }

/-! ## Policy and loan -/

def checkLoanable : CheckResult :=
  checkThat "loanable" policy.loanable
    { reason := "item is not loanable", key := "ITEM_NOT_LOANABLE", parameters := policy.details }

/-- A policy under which nothing is lent is not reported as forbidding renewals, too. -/
def checkRenewable : CheckResult :=
  checkThat "renewable" (!policy.loanable || policy.renewable)
    { reason := "loan is not renewable"
      key := "LOAN_IS_NOT_RENEWABLE"
      parameters := policy.details }

/-- A limit is only reported under a policy that allows renewals. -/
def checkRenewalLimit (loan : Loan) : CheckResult :=
  checkThat "renewal_limit"
    (!(policy.loanable && policy.renewable) || !policy.limitReached loan.renewalCount)
    { reason := "loan at maximum renewal number"
      key := "LOAN_AT_MAXIMUM_RENEWAL_NUMBER"
      parameters := policy.details ++
        [("renewalCount", .number loan.renewalCount),
          ("numberAllowed", (policy.renewals.limit.map Detail.number).getD .absent)] }

end LoanPolicy

/-- A lost item, or one said to be returned, is not renewed. -/
def Loan.checkItemStatus (loan : Loan) : CheckResult :=
  checkThat "item_status" (!loan.status.blocksRenewal)
    { reason := "item is " ++ loan.status.name
      key := "ITEM_STATUS_BLOCKS_RENEWAL"
      parameters := [("itemStatus", .text loan.status.name), ("itemId", .ofId loan.itemId)] }

/-- The checks of a renewal that need no due date, in the order in which they are reported. -/
def LoanPolicy.checkRenewal (policy : LoanPolicy) (loan : Loan) (queue : RequestQueue) :
    List CheckResult :=
  [checkNoActiveRecall queue,
    policy.checkHoldAllowsRenewal queue,
    policy.checkFixedHoldPeriod queue,
    policy.checkFixedRenewalPeriod queue,
    loan.checkItemStatus,
    policy.checkLoanable,
    policy.checkRenewable,
    policy.checkRenewalLimit loan]

/-- The check that a due date could be calculated. -/
def checkDueDate (due : Outcome Moment) : CheckResult :=
  match due with
  | .ok _ => ⟨"due_date", none⟩
  | .error failure => ⟨"due_date", some failure.violation⟩

end Lending
