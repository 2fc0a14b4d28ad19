import Lending.Proofs.Desk.Terms
import Lending.Proofs.DueDate.Bounds
import Lending.Proofs.Renewal.Override

/-!
# Policies that were never added

The records of a library grow by additions, and the rules may name a loan policy that none of them
has brought. The library then goes by a stand-in that lends nothing. This is more than a flag that a
check could look at: an override passes over every check, and still there is nothing to renew a loan
until, because the stand-in has no period to calculate a due date with.

## Main definitions

* `Addition`, `Records.after` — what is added to the records, and the records after additions
* `Addition.loanPolicy?` — the loan policy that is added, if it is one
* `Library.stocked` — the library whose records are those that were added

## Main results

* `Records.found_after` — what is found after additions is what was brought last
* `LoanPolicy.result_renewalCandidate_unknown` — the unknown policy gives no due date
* `Library.nothing_granted_of_not_added` — what becomes of loans under a policy that was never added
-/

namespace Lending

/-! ## Additions -/

/-- What is added to the records of a library: a policy or a schedule under its id, or opening days
of a service point. -/
inductive Addition
  | loanPolicy (policy : LoanPolicy)
  | finePolicy (policy : FinePolicy)
  | schedule (schedule : Schedule)
  | days (servicePoint : Option String) (days : List OpeningDay)

namespace Addition

/-- The records with an addition. -/
def apply (records : Records) : Addition → Records
  | loanPolicy policy => records.addPolicy (.loan policy)
  | finePolicy policy => records.addPolicy (.fine policy)
  | schedule added => records.addSchedule added
  | days servicePoint added => records.addDays servicePoint added

/-- The loan policy that is added. -/
def loanPolicy? : Addition → Option LoanPolicy
  | loanPolicy policy => some policy
  | finePolicy _ | schedule _ | days _ _ => none

variable (records : Records) (addition : Addition)

@[simp] theorem rules_apply : (addition.apply records).rules = records.rules := by
  cases addition <;> rfl

/-- Under its id an addition brings its loan policy, or leaves the one that was there. A fine policy
has a key of its own, also under the same id. -/
theorem found_loanPolicy_apply (id : String) :
    ((addition.apply records).policy? .loan (some id)).bind (·.loan?) =
      (addition.loanPolicy?.filter (·.id = some id)).or
        ((records.policy? .loan (some id)).bind (·.loan?)) := by
  simp only [Records.policy?, Option.bind_some]
  cases addition with
  | loanPolicy policy =>
    simp only [apply, Records.addPolicy, Store.find?_insert, StoredPolicy.key, Prod.mk.injEq,
      true_and, loanPolicy?, Option.filter, decide_eq_true_eq, eq_comm (a := some id)]
    split <;> rfl
  | finePolicy policy =>
    have otherKind : ¬ (PolicyType.loan, some id) = (StoredPolicy.fine policy).key :=
      fun same => by cases same
    rw [apply, Records.addPolicy, Store.find?_insert, if_neg otherKind]
    rfl
  | schedule | days => rfl

end Addition

namespace Records

variable (records : Records) (additions : List Addition)

/-- The records after additions, the most recent one first. -/
def after (records : Records) : List Addition → Records
  | [] => records
  | addition :: earlier => addition.apply (records.after earlier)

@[simp] theorem rules_after : (records.after additions).rules = records.rules := by
  induction additions with
  | nil => rfl
  | cons addition earlier ih => rw [after, Addition.rules_apply, ih]

/-- If every addition either brings what is looked for or leaves what was found before, then after
additions it is found as it was brought last. -/
theorem found_after {α : Type} (found : Records → Option α) (brings : Addition → Option α)
    (step : ∀ records addition,
      found (Addition.apply records addition) = (brings addition).or (found records)) :
    found (records.after additions) = (additions.findSome? brings).or (found records) := by
  -- the most recent addition is found before anything that came earlier
  induction additions with
  | nil => rfl
  | cons addition earlier ih =>
    rw [after, step, ih, List.findSome?_cons]
    cases brings addition <;> rfl

variable {records additions}

/-- An id under which no loan policy was added stands for the unknown policy. -/
theorem loanPolicy_after_of_not_added {id : String} (fresh : records.policy? .loan (some id) = none)
    (notAdded : ∀ policy, .loanPolicy policy ∈ additions → policy.id ≠ some id) :
    (records.after additions).loanPolicy (some id) = .unknown (some id) := by
  -- fine policies may have been added under the id, but they are no loan policies
  have brings : additions.findSome? (·.loanPolicy?.filter (·.id = some id)) = none := by
    rw [List.findSome?_eq_none_iff]
    intro addition added
    cases addition with
    | loanPolicy policy => simp [Addition.loanPolicy?, notAdded policy added]
    | finePolicy | schedule | days => rfl
  have missed := found_after records additions (fun records =>
    (records.policy? .loan (some id)).bind (·.loan?)) _
      fun records addition => addition.found_loanPolicy_apply records id
  rw [brings, fresh] at missed
  simp only [loanPolicy, missed]
  rfl

end Records

/-! ## The unknown policy -/

namespace LoanPolicy

/-- Why a policy without a period gives no due date. -/
def noPeriod (policy : LoanPolicy) : Failure :=
  .calculation "the loan period in the loan policy is not recognised" policy.details

variable (id : Option String) (loan : Loan) (now : Moment) (queue : Option RequestQueue)
  (zone : Zone)

/-- The unknown policy has neither a schedule to go by nor a period, and a hold brings none. -/
theorem result_renewalCandidate_unknown :
    ((unknown id).renewalCandidate loan now queue zone).result =
      .ok (.error (unknown id).noPeriod) := by
  have anchored : (unknown id).renewals.renewFrom? = some .currentDueDate := by rfl
  have unfixed : (unknown id).isFixed = false := rfl
  have none : (unknown id).periodOfRenewal queue = none := by
    unfold periodOfRenewal
    split <;> rfl
  simp only [renewalCandidate, unfixed, anchored, Bool.false_eq_true, if_false]
  rw [rolling, none]
  rfl

theorem result_adjustedRenewal_unknown (days : Option AdjacentDays) :
    ((unknown id).adjustedRenewal loan now days queue zone).result =
      .ok (.error (unknown id).noPeriod) := by
  rw [adjustedRenewal, Calculation.result_bind, result_renewalCandidate_unknown]

end LoanPolicy

/-! ## Nothing is granted -/

namespace Library

variable {library : Library} {request : Circumstances} {id : Option String}

/-- Under the unknown policy there is no due date to renew a loan until. -/
theorem result_renew_of_unknown (selected : library.loanPolicyFor request = .ok (.unknown id))
    (loan : Loan) (now : Moment) (queue : RequestQueue) (override : Bool) :
    ∃ violations ≠ [], (library.renew loan request now queue override).result =
      .ok (.ok (Renewal.refused { loan, policy := .unknown id, queue, override } violations)) := by
  let renewal : Renewal := { loan, policy := .unknown id, queue, override }
  have undated : renewal.calculatedDue now none library.zone =
      .ok (.error (LoanPolicy.unknown id).noPeriod) :=
    LoanPolicy.result_adjustedRenewal_unknown id loan now (some queue) library.zone none
  obtain ⟨violations, violated, decided⟩ := Renewal.decide_of_calculatedDue_error undated
  have byPolicy := LoanPolicy.result_renewalCandidate_unknown id loan now (some queue) library.zone
  -- without a candidate no days are looked up
  exact ⟨violations, violated,
    result_renew_eq_ok_iff.mpr (.decided selected byPolicy .noCandidate decided)⟩

/-- The library of some settings and rules with the records that were added to it. -/
def stocked (settings : Settings) (rules : Rulebook) (searchLimit : Int)
    (additions : List Addition) : Library where
  settings
  records := ({ rules, searchLimit } : Records).after additions

/-- Whatever is added, a library goes by its rules. -/
theorem policyIdFor_stocked (settings : Settings) (rules : Rulebook) (searchLimit : Int)
    (additions : List Addition) (request : Circumstances) (type : PolicyType) :
    (stocked settings rules searchLimit additions).policyIdFor request type =
      (rules.select request type).map (·.policyId) := by
  rw [policyIdFor, stocked, Records.rules_after]

/-- **Nothing is granted under a policy that was never added.** Whatever was added to the records of
a library, if the rules select the id of a loan policy that was not, then no loan is made, for the
reason that the policy of this id was not found. No renewal succeeds either, with an override or
without, whatever speaks for it, and the loan stays as it is. -/
theorem nothing_granted_of_not_added (settings : Settings) (rules : Rulebook) (searchLimit : Int)
    (additions : List Addition) (request : Circumstances) (id : String)
    (selected : (rules.select request .loan).map (·.policyId) = .ok id)
    (notAdded : ∀ policy, .loanPolicy policy ∈ additions → policy.id ≠ some id) :
    let library := stocked settings rules searchLimit additions
    (∀ loanDate servicePoint expiration queue,
      (library.checkoutDueDate request loanDate servicePoint expiration queue).result =
        .ok (.error (.policyNotFound "loan" (some id)))) ∧
    ∀ loan now queue override, ∃ after,
      (library.renew loan request now queue override).result = .ok (.ok after) ∧
        after.succeeded = false ∧ after.loan = loan ∧ after.policy = .unknown (some id) ∧
        after.overridden = [] := by
  intro library
  have unknown : library.loanPolicyFor request = .ok (.unknown (some id)) := by
    rw [loanPolicyFor, policyIdFor_stocked, selected]
    exact congrArg Except.ok (Records.loanPolicy_after_of_not_added rfl notAdded)
  constructor
  · intro loanDate servicePoint expiration queue
    exact result_checkoutDueDate_eq_ok_iff.mpr (.unknown unknown rfl)
  · intro loan now queue override
    obtain ⟨violations, violated, decided⟩ :=
      result_renew_of_unknown unknown loan now queue override
    exact ⟨_, decided, Renewal.not_succeeded_refused violated, rfl, rfl, rfl⟩

end Library

/-- Additions to the rules of the weekend library. They bring a fine policy under the id that these
rules name for loans, and a loan policy under another one. -/
def misfiled : List Addition :=
  [.finePolicy { id := some "three days" }, .loanPolicy { threeDays with id := some "3 days" },
    .days (some "desk") [.openAllDay monday]]

/-- The library with these additions. -/
def misfiledLibrary : Library := .stocked {} weekendLibrary.records.rules 365 misfiled

/-- A loan that is due on that Monday. -/
def mondayLoan : Loan := { id := "loan-1", due := mondayAtNoon, servicePointId := some "desk" }

theorem misfiledLibrary_grants_nothing :
    (misfiledLibrary.checkoutDueDate (fun _ => none) mondayAtTen (some "desk") none none).result =
        .ok (.error (.policyNotFound "loan" (some "three days"))) ∧
      ∃ after, (misfiledLibrary.renew mondayLoan (fun _ => none) mondayAtTen .empty true).result =
          .ok (.ok after) ∧ after.succeeded = false ∧ after.loan = mondayLoan := by
  obtain ⟨checkout, renewal⟩ := Library.nothing_granted_of_not_added {}
    weekendLibrary.records.rules 365 misfiled (fun _ => none) "three days"
    (policyIdFor_weekendLibrary _) (by simp [misfiled])
  obtain ⟨after, decided, refused, unchanged, -⟩ := renewal mondayLoan mondayAtTen .empty true
  exact ⟨checkout _ _ _ _, after, decided, refused, unchanged⟩

end Lending
