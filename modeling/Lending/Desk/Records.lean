import Lending.Desk.Calendar
import Lending.Desk.Store
import Lending.Policy
import Lending.Rules.Match
import Lending.Settings

/-!
# Records of a library

The records that lending depends on: the rules, the policies by their kinds and ids, the schedules
by their ids, and the calendars of the service points. Policies of two kinds may share an id.

## Main definitions

* `StoredPolicy`, `StoredPolicy.key` — a policy as it is stored, and under what
* `Records` — all records together
* `Records.loanPolicy`, `Records.finePolicy` — a policy by its id, with its schedules
* `Records.adjacentDays`, `Records.daysBetween` — what the calendar of a service point says
-/

namespace Lending

/-! ## Stored policies -/

/-- A policy as it is stored. Those of the other kinds are not looked up for lending. -/
inductive StoredPolicy
  | loan (policy : LoanPolicy)
  | fine (policy : FinePolicy)
deriving DecidableEq, Repr

namespace StoredPolicy

/-- What a policy is stored under: its kind and its id. -/
def key : StoredPolicy → PolicyType × Option String
  | loan policy => (.loan, policy.id)
  | fine policy => (.overdueFine, policy.id)

def loan? : StoredPolicy → Option LoanPolicy
  | loan policy => some policy
  | fine _ => none

def fine? : StoredPolicy → Option FinePolicy
  | loan _ => none
  | fine policy => some policy

end StoredPolicy

/-! ## Records -/

/-- The records of a library. A service point has a calendar once days were stored for it, be it
none. -/
structure Records where
  rules : Rulebook := {}
  policies : Store (PolicyType × Option String) StoredPolicy := {}
  schedules : Store (Option String) Schedule := {}
  calendars : Store (Option String) Calendar := {}
  searchLimit : Int := 365

namespace Records

variable (records : Records)

/-! ## Storing -/

/-- The records with a policy under its kind and id. -/
def addPolicy (policy : StoredPolicy) : Records :=
  { records with policies := records.policies.insert policy.key policy }

def addSchedule (schedule : Schedule) : Records :=
  { records with schedules := records.schedules.insert schedule.id schedule }

/-- The records with opening days of a service point. -/
def addDays (servicePoint : Option String) (days : List OpeningDay) : Records :=
  let calendar := (records.calendars.find? servicePoint).getD {}
  { records with calendars := records.calendars.insert servicePoint (days.foldl .insert calendar) }

/-! ## Policies -/

/-- The schedule of an id, or the empty schedule. -/
def scheduleOf (id : Option String) : Schedule :=
  (id.bind fun id => records.schedules.find? (some id)).getD .empty

/-- The policy with the schedules that it names; one that names none keeps its own. -/
def withSchedules (policy : LoanPolicy) : LoanPolicy :=
  if policy.scheduleId.isNone && policy.renewals.scheduleId.isNone then policy
  else
    policy.withSchedules (records.scheduleOf policy.scheduleId)
      (some (records.scheduleOf policy.renewals.scheduleId))

/-- The policy of a kind that is stored under an id. -/
def policy? (type : PolicyType) (id : Option String) : Option StoredPolicy :=
  id.bind fun id => records.policies.find? (type, some id)

/-- The loan policy of an id with its schedules. -/
def loanPolicy (id : Option String) : LoanPolicy :=
  match (records.policy? .loan id).bind (·.loan?) with
  | none => .unknown id
  | some policy => records.withSchedules policy

/-- The overdue fine policy of an id. -/
def finePolicy (id : Option String) : FinePolicy :=
  ((records.policy? .overdueFine id).bind (·.fine?)).getD (.unknown id)

/-! ## Calendars -/

/-- A date with the nearest open days on both sides, if the service point has a calendar. -/
def adjacentDays? (servicePoint : Option String) (date : Date) :
    Except Fault (Option AdjacentDays) :=
  match records.calendars.find? servicePoint with
  | none => .ok none
  | some calendar => some <$> calendar.adjacent date records.searchLimit

/-- A date with the nearest open days on both sides. Without a service point, or without a calendar
for it, every day counts as closed. -/
def adjacentDays (servicePoint : Option String) (date : Date) : Except Fault AdjacentDays := do
  match ← servicePoint.elim (.ok none) fun id => records.adjacentDays? (some id) date with
  | some days => return days
  | none => AdjacentDays.closedAround date

/-- The known days of a service point from one date to another. -/
def daysBetween (servicePoint : Option String) (first last : Date) : List OpeningDay :=
  match records.calendars.find? servicePoint with
  | none => []
  | some calendar => calendar.between first last

end Records

end Lending
