import Lending.Fault
import Lending.Text.Blank

/-!
# Loans

A loan records who has borrowed what until when. Renewals, recalls and changes of the item's status
give a new loan.

## Main definitions

* `ItemStatus`, `LoanAction`, `Loan`
* `Loan.renew`, `Loan.renewByOverride`, `Loan.recallTo` — the operations on a loan
-/

namespace Lending

/-! ## Item status -/

/-- Where an item is, or what has become of it. -/
inductive ItemStatus
  | available | awaitingPickup | awaitingDelivery | checkedOut | inTransit | paged
  | missing | declaredLost | agedToLost | claimedReturned | lostAndPaid | withdrawn
deriving DecidableEq, Repr

namespace ItemStatus

def all : List ItemStatus :=
  [available, awaitingPickup, awaitingDelivery, checkedOut, inTransit, paged,
    missing, declaredLost, agedToLost, claimedReturned, lostAndPaid, withdrawn]

def name : ItemStatus → String
  | available => "Available"
  | awaitingPickup => "Awaiting pickup"
  | awaitingDelivery => "Awaiting delivery"
  | checkedOut => "Checked out"
  | inTransit => "In transit"
  | paged => "Paged"
  | missing => "Missing"
  | declaredLost => "Declared lost"
  | agedToLost => "Aged to lost"
  | claimedReturned => "Claimed returned"
  | lostAndPaid => "Lost and paid"
  | withdrawn => "Withdrawn"

/-- The status of a name, written exactly. -/
def named? (name : String) : Option ItemStatus := all.find? (·.name = name)

/-- The status of a name, in any letter case and with blanks around it. -/
def ofText (text : String) : Except Fault ItemStatus :=
  let sought := lowercase (String.ofList (strip text.toList))
  (Fault.unknownStatus text).require (all.find? (lowercase ·.name = sought))

/-- Items that are lost or said to be returned are not renewed. -/
def blocksRenewal : ItemStatus → Bool
  | declaredLost | agedToLost | claimedReturned => true
  | _ => false

end ItemStatus

/-! ## Loans -/

/-- What was last done with a loan; actions of other systems are kept by their name. -/
inductive LoanAction
  | checkedOut | renewed | renewedThroughOverride | recallRequested
  | other (name : String)
deriving DecidableEq, Repr

namespace LoanAction

/-- The actions that this library takes. -/
def own : List LoanAction := [checkedOut, renewed, renewedThroughOverride, recallRequested]

def name : LoanAction → String
  | checkedOut => "checkedout"
  | renewed => "renewed"
  | renewedThroughOverride => "renewedThroughOverride"
  | recallRequested => "recallrequested"
  | other name => name

/-- The action of a name. -/
def ofName (name : String) : LoanAction := (own.find? (·.name = name)).getD (other name)

/-- Reading the name of an action of this library gives the action. -/
theorem ofName_name {action : LoanAction} (h : action ∈ own) : ofName action.name = action := by
  simp only [own, List.mem_cons, List.not_mem_nil, or_false] at h
  rcases h with rfl | rfl | rfl | rfl <;> decide

end LoanAction

/-- An item in the hands of a patron until its due date. -/
structure Loan where
  id : String
  due : Moment
  loanDate : Option Moment := none
  itemId : Option String := none
  userId : Option String := none
  policyId : Option String := none
  finePolicyId : Option String := none
  renewalCount : Int := 0
  dueDateChangedByRecall : Bool := false
  servicePointId : Option String := none
  status : ItemStatus := .checkedOut
  action : Option LoanAction := none
deriving DecidableEq, Repr

namespace Loan

/-- The loan renewed until `due`. A policy without an id, or with an empty one, leaves the loan
under its old policy. -/
def renew (loan : Loan) (due : Moment) (policyId : Option String) : Loan :=
  { loan with
    due
    renewalCount := loan.renewalCount + 1
    policyId := (policyId.filter (· ≠ "")).or loan.policyId
    action := some .renewed }

/-- The loan renewed against the rules. -/
def renewByOverride (loan : Loan) (due : Moment) (policyId : Option String) : Loan :=
  { loan.renew due policyId with action := some .renewedThroughOverride }

/-- The loan recalled until `due`, unless it is due by then anyway. -/
def recallTo (loan : Loan) (due : Moment) : Loan :=
  if loan.due ≤ due then loan
  else
    { loan with due, dueDateChangedByRecall := true, action := some .recallRequested }

def withStatus (loan : Loan) (status : ItemStatus) : Loan := { loan with status }

end Loan

end Lending
