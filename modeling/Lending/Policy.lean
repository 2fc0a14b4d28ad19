import Lending.ClosedDays
import Lending.Schedule

/-!
# Policies

A loan policy says for how long items are lent and how loans are renewed; an overdue fine policy
says which overdue time counts. Policies are values: a change gives a new policy.

## Main definitions

* `LoanPolicy`, with its parts `RenewalTerms` and `HoldTerms`
* `FinePolicy`
* `LoanPolicy.unknown`, `FinePolicy.unknown` — stand-ins for policies that are not stored
-/

namespace Lending

/-! ## Parts of a loan policy -/

/-- Whether loans last for a period or until the due date of a schedule. -/
inductive LoanProfile | rolling | fixed
deriving DecidableEq, Repr

namespace LoanProfile

def all : List LoanProfile := [rolling, fixed]

def name : LoanProfile → String
  | rolling => "Rolling"
  | fixed => "Fixed"

def named? (name : String) : Option LoanProfile := all.find? (·.name = name)

@[simp] theorem named?_name (profile : LoanProfile) : named? profile.name = some profile := by
  cases profile <;> rfl

end LoanProfile

/-- The date from which a renewed loan lasts. -/
inductive RenewFrom | currentDueDate | systemDate
deriving DecidableEq, Repr

namespace RenewFrom

def all : List RenewFrom := [currentDueDate, systemDate]

def name : RenewFrom → String
  | currentDueDate => "CURRENT_DUE_DATE"
  | systemDate => "SYSTEM_DATE"

def named? (name : String) : Option RenewFrom := all.find? (·.name = name)

@[simp] theorem named?_name (r : RenewFrom) : named? r.name = some r := by
  cases r <;> rfl

end RenewFrom

/-- How renewals are anchored and limited. The anchor is kept by the name that was stored, known or
not; without a `limit` renewals are unlimited. -/
structure RenewalTerms where
  renewFrom : String := RenewFrom.currentDueDate.name
  period : Option Period := none
  limit : Option Int := none
  scheduleId : Option String := none
deriving DecidableEq, Repr

namespace RenewalTerms

/-- The anchor, if its name is known. -/
def renewFrom? (terms : RenewalTerms) : Option RenewFrom := RenewFrom.named? terms.renewFrom

def isUnlimited (terms : RenewalTerms) : Bool := terms.limit.isNone

end RenewalTerms

/-- What changes while a hold waits for the item. -/
structure HoldTerms where
  checkoutPeriod : Option Period := none
  renewalPeriod : Option Period := none
  renewWithRequest : Bool := true
deriving DecidableEq, Repr

/-! ## Loan policies -/

/-- The terms on which items are lent. -/
structure LoanPolicy where
  id : Option String
  name : String := ""
  loanable : Bool := true
  renewable : Bool := true
  profile : LoanProfile := .rolling
  period : Option Period := none
  scheduleId : Option String := none
  strategy : ClosedDayStrategy := .keepCurrentDate
  openingOffset : Option Period := none
  gracePeriod : Option Period := none
  renewals : RenewalTerms := {}
  holds : HoldTerms := {}
  loanSchedule : Schedule := .empty
  renewalSchedule : Schedule := .empty
  isUnknown : Bool := false
deriving DecidableEq, Repr

namespace LoanPolicy

/-- The stand-in for a policy that is not stored; nothing is lent under it. -/
def unknown (id : Option String) : LoanPolicy :=
  { id, name := "Unknown loan policy", loanable := false, renewable := false, isUnknown := true }

def isRolling (policy : LoanPolicy) : Bool := policy.profile = .rolling

def isFixed (policy : LoanPolicy) : Bool := policy.profile = .fixed

/-- Loans until a fixed date or for days and longer are due on a day, not at an hour. -/
def isLongTerm (policy : LoanPolicy) : Bool :=
  policy.isFixed || policy.period.any (·.isLongTerm)

/-- The period of a renewal: its own one, or else that of the loan. -/
def renewalPeriod (policy : LoanPolicy) : Option Period :=
  policy.renewals.period.or policy.period

/-- Whether a loan that was renewed `count` times must not be renewed again. -/
def limitReached (policy : LoanPolicy) (count : Int) : Bool :=
  policy.renewals.limit.any (· ≤ count)

/-- The schedule in force for renewals: the one for renewals unless it is empty. -/
def scheduleForRenewal (policy : LoanPolicy) : Schedule :=
  if policy.renewalSchedule.isEmpty then policy.loanSchedule else policy.renewalSchedule

/-- The policy with other schedules; without one for renewals it has the empty one. -/
def withSchedules (policy : LoanPolicy) (loan : Schedule) (renewal : Option Schedule) :
    LoanPolicy :=
  { policy with loanSchedule := loan, renewalSchedule := renewal.getD .empty }

/-- What is reported of a policy. -/
def details (policy : LoanPolicy) : Parameters :=
  [("loanPolicyId", .ofId policy.id), ("loanPolicyName", .text policy.name)]

end LoanPolicy

/-! ## Overdue fine policies -/

/-- Which overdue time counts: whether the grace period is granted after a recall, and whether time
counts while the library is closed. -/
structure FinePolicy where
  id : Option String := none
  name : String := ""
  graceAfterRecall : Bool := true
  countClosed : Bool := true
  isUnknown : Bool := false
deriving DecidableEq, Repr

namespace FinePolicy

/-- The stand-in for a policy that is not stored. -/
def unknown (id : Option String) : FinePolicy :=
  { id, name := "Unknown overdue fine policy", isUnknown := true }

end FinePolicy

end Lending
