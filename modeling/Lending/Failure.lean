import Lending.Text.LetterCase

/-!
# Failures

A decision about a loan that turns out against the patron or cannot be made is a failure: an
ordinary outcome, which is reported with a reason, a key that a machine can test, and the values
that the decision depended on.

## Main definitions

* `Detail`, `Violation` — a reported value, and a reported breach of a rule
* `Failure` — why a decision failed, by cause
* `Failure.reason`, `Failure.key`, `Failure.parameters` — what is reported of it
* `Outcome` — a value or a failure
-/

namespace Lending

/-! ## Reports -/

/-- A value named in a report. -/
inductive Detail
  | absent
  | flag (value : Bool)
  | number (value : Int)
  | text (value : String)
deriving DecidableEq, Repr

namespace Detail

/-- An identifier that may be missing. -/
def ofId : Option String → Detail
  | none => absent
  | some id => text id

/-- The written form of a value. -/
def render : Detail → String
  | absent => "None"
  | flag true => "True"
  | flag false => "False"
  | number n => toString n
  | text s => s

end Detail

/-- Named values, in the order in which they are reported. -/
abbrev Parameters := List (String × Detail)

/-- A breach of a rule, as it is reported. -/
structure Violation where
  reason : String
  key : String
  parameters : Parameters := []
deriving DecidableEq, Repr

/-! ## Failures -/

/-- Why a decision failed. -/
inductive Failure
  /-- No rule and no fallback assigns a policy of the wanted type to the request. -/
  | noApplicableRule (policyType : String) (request : Parameters)
  /-- The policy that the rules name is not stored. -/
  | policyNotFound (policyKind : String) (policyId : Option String)
  /-- A fixed schedule has no range for the date. -/
  | rangeMissing (reason : String) (parameters : Parameters)
  /-- A calendar day that is needed is missing or closed. -/
  | calendarUnavailable (parameters : Parameters)
  /-- The policy cannot give a due date. -/
  | calculation (reason : String) (parameters : Parameters)
  /-- Items under the policy are not lent. -/
  | itemNotLoanable (policyId : Option String)
  /-- The renewal would not move the due date to a later one. -/
  | noDueDateChange (parameters : Parameters)
  /-- The renewal is refused for the listed violations. -/
  | renewalRefused (violations : List Violation)
deriving DecidableEq, Repr

namespace Failure

/-- The reason in words. -/
def reason : Failure → String
  | noApplicableRule policyType _ => "no applicable " ++ policyType ++ " rule for the request"
  | policyNotFound kind id =>
    capitalize kind ++ " policy " ++ (Detail.ofId id).render ++
      " could not be found, please check circulation rules"
  | rangeMissing reason _ => reason
  | calendarUnavailable _ => "Calendar timetable is absent for requested date"
  | calculation reason _ => reason
  | itemNotLoanable _ => "item is not loanable"
  | noDueDateChange _ => "renewal would not change the due date"
  | renewalRefused violations =>
    "renewal refused: " ++ "; ".intercalate (violations.map (·.reason))

/-- The key that a machine can test. -/
def key : Failure → String
  | noApplicableRule .. => "NO_APPLICABLE_RULE"
  | policyNotFound .. => "POLICY_NOT_FOUND"
  | rangeMissing .. => "SCHEDULE_RANGE_MISSING"
  | calendarUnavailable _ => "CALENDAR_UNAVAILABLE"
  | calculation .. => "DUE_DATE_CALCULATION"
  | itemNotLoanable _ => "ITEM_NOT_LOANABLE"
  | noDueDateChange _ => "NO_DUE_DATE_CHANGE"
  | renewalRefused _ => "RENEWAL_VALIDATION"

/-- The values that the decision depended on. -/
def parameters : Failure → Parameters
  | noApplicableRule policyType request => ("policyType", .text policyType) :: request
  | policyNotFound _ id => [("policyId", .ofId id)]
  | rangeMissing _ parameters => parameters
  | calendarUnavailable parameters => parameters
  | calculation _ parameters => parameters
  | itemNotLoanable id => [("loanPolicyId", .ofId id)]
  | noDueDateChange parameters => parameters
  | renewalRefused _ => []

/-- The failure as a violation among others. -/
def violation (failure : Failure) : Violation :=
  { reason := failure.reason, key := failure.key, parameters := failure.parameters }

end Failure

/-- The value of a decision, or why it failed. -/
abbrev Outcome (α : Type) := Except Failure α

end Lending
