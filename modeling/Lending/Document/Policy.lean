import Lending.Document.Scalar
import Lending.Policy

/-!
# Policy documents

Loan policies, overdue fine policies and fixed schedules as they are stored. Field names are in
camel case; a second name with low lines is accepted too.

## Main definitions

* `LoanPolicy.ofDocument`, `FinePolicy.ofDocument` — the policy of a document
* `Schedule.ofDocument` — the schedule of a document, whose ranges are put together after reading
-/

namespace Lending

open Reading (record required optional nullable Fields)

/-! ## Loan policies -/

/-- A period with a duration and the name of its unit. -/
def Period.ofDocument : Document → Reading Period :=
  record fun fields =>
    (fun duration interval => (⟨some duration, interval⟩ : Period)) <$>
      required fields "duration" "duration" Reading.whole <*>
      required fields "intervalId" "interval_id" Reading.text

/-- A period that may be left out. -/
def Period.optionalField (fields : Fields) (name second : String) : Reading (Option Period) :=
  optional fields name second (nullable Period.ofDocument) none

/-- How loans are made: their profile, periods, schedule and strategy for closed days. -/
structure LoanTerms where
  profile : LoanProfile := .rolling
  period : Option Period := none
  strategy : ClosedDayStrategy := .keepCurrentDate
  gracePeriod : Option Period := none
  openingOffset : Option Period := none
  scheduleId : Option String := none

/-- The section of a loan policy about loans. -/
def LoanTerms.ofDocument : Document → Reading LoanTerms :=
  record fun fields =>
    LoanTerms.mk <$>
      optional fields "profileId" "profile_id" (Reading.choice LoanProfile.named?) .rolling <*>
      Period.optionalField fields "period" "period" <*>
      optional fields "closedLibraryDueDateManagementId" "closed_library_due_date_management_id"
        (Reading.choice ClosedDayStrategy.named?) .keepCurrentDate <*>
      Period.optionalField fields "gracePeriod" "grace_period" <*>
      Period.optionalField fields "openingTimeOffset" "opening_time_offset" <*>
      optional fields "fixedDueDateScheduleId" "fixed_due_date_schedule_id"
        (nullable Reading.text) none

/-- Renewal terms from the fields of their section: a limit counts unless renewals are unlimited,
and a period unless it is said to be that of the loan. -/
def RenewalTerms.ofFields (unlimited : Bool) (limit : Option Int) (renewFrom : String)
    (differentPeriod : Bool) (period : Option Period) (scheduleId : Option String) :
    RenewalTerms where
  renewFrom
  period := if differentPeriod then period else none
  limit := if unlimited then none else limit
  scheduleId

/-- The section of a loan policy about renewals. -/
def RenewalTerms.ofDocument : Document → Reading RenewalTerms :=
  record fun fields =>
    RenewalTerms.ofFields <$>
      optional fields "unlimited" "unlimited" Reading.flag false <*>
      optional fields "numberAllowed" "number_allowed" (nullable Reading.count) none <*>
      optional fields "renewFromId" "renew_from_id" Reading.text RenewFrom.currentDueDate.name <*>
      optional fields "differentPeriod" "different_period" Reading.flag false <*>
      Period.optionalField fields "period" "period" <*>
      optional fields "alternateFixedDueDateScheduleId" "alternate_fixed_due_date_schedule_id"
        (nullable Reading.text) none

/-- The section of a loan policy about holds. -/
def HoldTerms.ofDocument : Document → Reading HoldTerms :=
  record fun fields =>
    (fun checkoutPeriod renewWithRequest renewalPeriod =>
        ({ checkoutPeriod, renewalPeriod, renewWithRequest } : HoldTerms)) <$>
      Period.optionalField fields "alternateCheckoutLoanPeriod" "alternate_checkout_loan_period" <*>
      optional fields "renewItemsWithRequest" "renew_items_with_request" Reading.flag true <*>
      Period.optionalField fields "alternateRenewalLoanPeriod" "alternate_renewal_loan_period"

/-- A loan policy from its sections. -/
def LoanPolicy.ofSections (id name : String) (loanable renewable : Bool) (terms : LoanTerms)
    (renewals : RenewalTerms) (holds : HoldTerms) : LoanPolicy where
  id := some id
  name
  loanable
  renewable
  profile := terms.profile
  period := terms.period
  scheduleId := terms.scheduleId
  strategy := terms.strategy
  openingOffset := terms.openingOffset
  gracePeriod := terms.gracePeriod
  renewals
  holds

/-- The loan policy of a document. -/
def LoanPolicy.ofDocument : Document → Reading LoanPolicy :=
  record fun fields =>
    LoanPolicy.ofSections <$>
      required fields "id" "id" Reading.text <*>
      optional fields "name" "name" Reading.text "" <*>
      optional fields "loanable" "loanable" Reading.flag true <*>
      optional fields "renewable" "renewable" Reading.flag true <*>
      optional fields "loansPolicy" "loans_policy" LoanTerms.ofDocument {} <*>
      optional fields "renewalsPolicy" "renewals_policy" RenewalTerms.ofDocument {} <*>
      optional fields "requestManagement" "request_management"
        (record fun fields => optional fields "holds" "holds" HoldTerms.ofDocument {}) {}

/-! ## Overdue fine policies -/

/-- The overdue fine policy of a document. -/
def FinePolicy.ofDocument : Document → Reading FinePolicy :=
  record fun fields =>
    (fun id name graceAfterRecall countClosed =>
        ({ id := some id, name, graceAfterRecall, countClosed } : FinePolicy)) <$>
      required fields "id" "id" Reading.text <*>
      optional fields "name" "name" Reading.text "" <*>
      optional fields "gracePeriodRecall" "grace_period_recall" Reading.flag true <*>
      optional fields "countClosed" "count_closed" Reading.flag true

/-! ## Fixed schedules -/

/-- The range of a document: its dates are those that the texts name, whatever their offsets; a due
date without an offset is in universal time. -/
def ScheduleRange.ofDocument : Document → Reading (Except Fault ScheduleRange) :=
  record fun fields =>
    (fun (first : WallClock × Option Int) (last : WallClock × Option Int)
        (due : WallClock × Option Int) =>
        ScheduleRange.make first.1.date last.1.date
          { wall := due.1, zone := .fixed (due.2.getD 0) }) <$>
      required fields "from" "from_" Reading.dateTime <*>
      required fields "to" "to" Reading.dateTime <*>
      required fields "due" "due" Reading.dateTime

/-- A schedule from its ranges. -/
def Schedule.ofRanges (id name : String) (ranges : List (Except Fault ScheduleRange)) :
    Except Fault Schedule := do
  Schedule.make (some id) name (← ranges.mapM (·))

/-- The schedule of a document. -/
def Schedule.ofDocument : Document → Reading (Except Fault Schedule) :=
  record fun fields =>
    Schedule.ofRanges <$>
      required fields "id" "id" Reading.text <*>
      optional fields "name" "name" Reading.text "" <*>
      optional fields "schedules" "schedules" (Reading.list ScheduleRange.ofDocument) []

end Lending
