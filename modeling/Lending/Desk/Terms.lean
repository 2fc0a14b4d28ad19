import Lending.Desk.Records
import Lending.Overdue
import Lending.Renewal.Basic
import Lending.Rules.Text

/-!
# Loan terms from the records

The terms of a loan are found in the records: the rules select a policy, the calendar of the service
point gives the days around the candidate due date, and the calculations do the rest.

## Main definitions

* `Library` — records with the settings under which they are used
* `Library.checkoutDueDate`, `Library.checkOut` — the due date of a loan, and the loan
* `Library.renew` — the decision on a renewal
* `Library.overdueMinutes` — the overdue time of a loan
-/

namespace Lending

/-- The records of a library and its settings. -/
structure Library where
  settings : Settings := {}
  records : Records := {}

namespace Library

variable (library : Library)

/-- The zone in which due dates are reckoned. -/
def zone : Zone := library.settings.zone

/-- The rulebook of a rule text. What is given here goes before the settings. -/
def rulebookOf (text : String) (tieBreak : Option TieBreak) (requireFallback : Option Bool) :
    Except RuleTextError Rulebook := do
  let set ← RuleSet.ofText text (requireFallback.getD library.settings.requireFallback)
  return .ofRules set (tieBreak.or library.settings.tieBreak)

/-- The policy that the rules select, of one kind. -/
def policyIdFor (request : Circumstances) (type : PolicyType) : Outcome String :=
  (library.records.rules.select request type).map (·.policyId)

/-- The loan policy that the rules select. -/
def loanPolicyFor (request : Circumstances) : Outcome LoanPolicy :=
  (library.policyIdFor request .loan).map fun id => library.records.loanPolicy (some id)

/-- The open days around the date of a due date. -/
def daysAround (servicePoint : Option String) (due : Moment) : Except Fault AdjacentDays := do
  library.records.adjacentDays servicePoint (← due.dateIn library.zone)

/-- The open days around a candidate due date, for a policy that looks at them. -/
def daysForStrategy (policy : LoanPolicy) (servicePoint : Option String) (candidate : Moment) :
    Except Fault (Option AdjacentDays) :=
  if policy.strategy.isIdentity then .ok none
  else some <$> library.daysAround servicePoint candidate

/-! ## Checkout -/

/-- The due date cut back to the patron's expiration. -/
def untilExpiration (policy : LoanPolicy) (due : Moment) (servicePoint : Option String)
    (expiration : Option Moment) : Calculation Moment :=
  match expiration with
  | none => return due
  | some expiration => do
    if expiration < due then
      let days ← library.daysAround servicePoint expiration
      policy.untilExpiration due (some expiration) (some days) library.zone
    else return due

/-- The policy that the rules select for a loan, and the due date that it gives. -/
def checkoutDueDate (request : Circumstances) (loanDate : Moment) (servicePoint : Option String)
    (expiration : Option Moment) (queue : Option RequestQueue) :
    Calculation (LoanPolicy × Moment) := do
  let policy ← (library.loanPolicyFor request).calculation
  if policy.isUnknown then throw (.policyNotFound "loan" policy.id)
  let candidate ← policy.checkoutCandidate loanDate queue library.zone
  let days ← library.daysForStrategy policy servicePoint candidate
  let due ← policy.checkoutDueDate loanDate days queue library.zone
  let due ← library.untilExpiration policy due servicePoint expiration
  return (policy, due)

/-- The fine policy of a loan: the one given, or else the one that the rules select. -/
def finePolicyIdFor (request : Circumstances) : Option String → Outcome String
  | some id => .ok id
  | none => library.policyIdFor request .overdueFine

/-- What a patron borrows: the loan, the item and the patron by their ids. -/
structure Checkout where
  loanId : String
  itemId : Option String
  userId : Option String
  request : Circumstances
  loanDate : Moment
  servicePoint : Option String
  expiration : Option Moment
  queue : Option RequestQueue
  finePolicyId : Option String

/-- The loan of an item that is checked out. -/
def checkOut (checkout : Checkout) : Calculation Loan := do
  let (policy, due) ← library.checkoutDueDate checkout.request checkout.loanDate
    checkout.servicePoint checkout.expiration checkout.queue
  let finePolicyId ← (library.finePolicyIdFor checkout.request checkout.finePolicyId).calculation
  return {
    id := checkout.loanId
    due
    loanDate := some checkout.loanDate
    itemId := checkout.itemId
    userId := checkout.userId
    policyId := policy.id
    finePolicyId := some finePolicyId
    servicePointId := checkout.servicePoint
    action := some .checkedOut }

/-! ## Renewal -/

/-- The open days around the candidate of a renewal, if there is a candidate. -/
def renewalDays (policy : LoanPolicy) (loan : Loan) (now : Moment) (queue : RequestQueue) :
    Except Fault (Option AdjacentDays) := do
  match ← (policy.renewalCandidate loan now (some queue) library.zone).result with
  | .error _ => return none
  | .ok candidate => library.daysForStrategy policy loan.servicePointId candidate

/-- The decision on a renewal under the policy that the rules now select. -/
def renew (loan : Loan) (request : Circumstances) (now : Moment) (queue : RequestQueue)
    (override : Bool) : Calculation Renewal := do
  let policy ← (library.loanPolicyFor request).calculation
  let days ← library.renewalDays policy loan now queue
  let renewal : Renewal := { loan, policy, queue, override }
  let decided : Except Fault Renewal := renewal.decide now days library.zone
  decided

/-! ## Overdue time -/

/-- The opening days that matter for the overdue time of a loan, where they matter. -/
def overdueDays (loan : Loan) (fine : FinePolicy) (now : Moment) :
    Except Fault (Option (List OpeningDay)) :=
  if loan.due < now ∧ fine.countClosed = false then
    match loan.servicePointId with
    | none => .ok (some [])
    | some id => do
      let first ← loan.due.dateIn library.zone
      let last ← now.dateIn library.zone
      return some (library.records.daysBetween (some id) first last)
  else .ok none

/-- The overdue minutes of a loan under the policies that it was made under. -/
def overdueMinutes (loan : Loan) (now : Moment) : Except Fault Int := do
  let policy := library.records.loanPolicy loan.policyId
  let fine := library.records.finePolicy loan.finePolicyId
  let days ← library.overdueDays loan fine now
  loan.overdueMinutes (some policy) fine now days library.zone

end Library

end Lending
