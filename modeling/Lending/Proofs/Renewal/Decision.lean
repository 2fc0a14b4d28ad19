import Lending.Proofs.DueDate.Faults
import Lending.Renewal.Basic

/-!
# The decision on a renewal

A renewal without an override succeeds when none of its conditions is violated and a later due date
can be calculated. The conditions are stated here on their own, one by one, and so is which of them
keep others from being reported: a policy that lends nothing is not also reported as forbidding
renewals, and neither policy is asked for its limit or for a due date. A refusal reports the
violated conditions in their order, and last why there is no due date.

## Main definitions

* `RenewalCondition`, `RenewalCondition.Violated` — the conditions that need no due date
* `Renewal.against`, `Renewal.settled` — all that speaks against a renewal, and what becomes of it
* `Renewal.Decided` — what a regular renewal comes to

## Main results

* `RenewalCondition.map_key_violationsOf` — the checks report the violated conditions in order
* `LoanPolicy.result_renewalDueDate` — the decision compares due dates as the calculation does
* `Renewal.decide_of_permitted`, `Renewal.decide_of_not_permitted` — the decision by what speaks
  against the renewal
* `Renewal.decide_regular` — when a renewal succeeds, and what becomes of it
-/

namespace Lending

/-! ## Conditions -/

/-- The conditions of a renewal that need no due date, in the order in which they are reported. -/
inductive RenewalCondition
  | noRecall | holdAllowed | noHoldPeriod | noRenewalPeriod | itemPresent | loanable | renewable
  | belowLimit
deriving DecidableEq, Repr

namespace RenewalCondition

def all : List RenewalCondition :=
  [noRecall, holdAllowed, noHoldPeriod, noRenewalPeriod, itemPresent, loanable, renewable,
    belowLimit]

theorem mem_all (condition : RenewalCondition) : condition ∈ all := by
  cases condition <;> simp [all]

/-- The key under which a violation is reported. -/
def key : RenewalCondition → String
  | noRecall => "ITEM_HAS_OPEN_RECALL_REQUEST"
  | holdAllowed => "RENEWAL_ITEM_HAS_OPEN_HOLD_REQUEST"
  | noHoldPeriod => "FIXED_POLICY_HAS_ALTERNATE_RENEWAL_PERIOD_FOR_HOLDS"
  | noRenewalPeriod => "FIXED_POLICY_HAS_ALTERNATE_RENEWAL_PERIOD"
  | itemPresent => "ITEM_STATUS_BLOCKS_RENEWAL"
  | loanable => "ITEM_NOT_LOANABLE"
  | renewable => "LOAN_IS_NOT_RENEWABLE"
  | belowLimit => "LOAN_AT_MAXIMUM_RENEWAL_NUMBER"

/-- Whether a renewal violates the condition. -/
def Violated (renewal : Renewal) : RenewalCondition → Prop
  | noRecall => renewal.queue.recallAtHead = true
  | holdAllowed =>
    renewal.queue.holdAtHead = true ∧ renewal.policy.holds.renewWithRequest = false
  | noHoldPeriod =>
    renewal.queue.holdAtHead = true ∧ renewal.policy.isFixed = true ∧
      renewal.policy.holds.renewalPeriod.isSome = true
  | noRenewalPeriod =>
    renewal.queue.holdAtHead = true ∧ renewal.policy.isFixed = true ∧
      renewal.policy.renewals.period.isSome = true
  | itemPresent => renewal.loan.status.blocksRenewal = true
  | loanable => renewal.policy.loanable = false
  | renewable => renewal.policy.loanable = true ∧ renewal.policy.renewable = false
  | belowLimit =>
    renewal.policy.loanable = true ∧ renewal.policy.renewable = true ∧
      renewal.policy.limitReached renewal.loan.renewalCount = true

instance (renewal : Renewal) (condition : RenewalCondition) :
    Decidable (condition.Violated renewal) :=
  match condition with
  | noRecall | itemPresent | loanable => inferInstanceAs (Decidable (_ = _))
  | holdAllowed | renewable => inferInstanceAs (Decidable (_ ∧ _))
  | noHoldPeriod | noRenewalPeriod | belowLimit => inferInstanceAs (Decidable (_ ∧ _ ∧ _))

/-- The check of the condition. -/
def check (renewal : Renewal) : RenewalCondition → CheckResult
  | noRecall => checkNoActiveRecall renewal.queue
  | holdAllowed => renewal.policy.checkHoldAllowsRenewal renewal.queue
  | noHoldPeriod => renewal.policy.checkFixedHoldPeriod renewal.queue
  | noRenewalPeriod => renewal.policy.checkFixedRenewalPeriod renewal.queue
  | itemPresent => renewal.loan.checkItemStatus
  | loanable => renewal.policy.checkLoanable
  | renewable => renewal.policy.checkRenewable
  | belowLimit => renewal.policy.checkRenewalLimit renewal.loan

theorem checkRenewal_eq (renewal : Renewal) :
    renewal.policy.checkRenewal renewal.loan renewal.queue = all.map (check renewal) := rfl

theorem violation_checkThat {rule : String} {passes : Bool} {violation : Violation} {key : String}
    {violated : Prop} [Decidable violated] (same : violation.key = key)
    (fails : passes = false ↔ violated) :
    (checkThat rule passes violation).violation.map (·.key) =
      if violated then some key else none := by
  cases passes <;> simp_all [checkThat]

/-- A check reports its condition, and does so exactly when that is violated. -/
theorem violation_check (renewal : Renewal) (condition : RenewalCondition) :
    (condition.check renewal).violation.map (·.key) =
      if condition.Violated renewal then some condition.key else none := by
  cases condition <;> apply violation_checkThat <;> simp [key, Violated, and_assoc]

/-- The violations that are reported are those of the violated conditions, in their order. -/
theorem map_key_violationsOf (renewal : Renewal) (conditions : List RenewalCondition) :
    (violationsOf (conditions.map (check renewal))).map (·.key) =
      (conditions.filter (·.Violated renewal)).map key := by
  -- every check adds the key of its condition to what the later ones report, or nothing
  induction conditions with
  | nil => rfl
  | cons condition rest ih =>
    have reported := violation_check renewal condition
    simp only [violationsOf, List.map_cons] at ih ⊢
    by_cases violated : condition.Violated renewal
    · rw [if_pos violated, Option.map_eq_some_iff] at reported
      obtain ⟨violation, found, same⟩ := reported
      rw [List.filterMap_cons_some found, List.map_cons, same, ih,
        List.filter_cons_of_pos (by simpa using violated), List.map_cons]
    · rw [if_neg violated, Option.map_eq_none_iff] at reported
      rw [List.filterMap_cons_none reported, ih,
        List.filter_cons_of_neg (by simpa using violated)]

/-- No two conditions are reported under one key. -/
theorem key_injective : Function.Injective key := by
  intro a b same
  cases a <;> cases b <;> first | rfl | simp [key] at same

end RenewalCondition

/-! ## The due date -/

namespace Loan

/-- A due date that extends a loan is taken as it is. -/
theorem extendedTo_eq_ok {loan : Loan} {due given : Moment}
    (extended : loan.extendedTo given = .ok due) : given = due := by
  unfold extendedTo at extended
  split at extended
  · simp at extended
  · exact Except.ok.inj extended

end Loan

/-- The complete calculation compares its due date as the decision on a renewal does. -/
theorem LoanPolicy.result_renewalDueDate (policy : LoanPolicy) (loan : Loan) (now : Moment)
    (days : Option AdjacentDays) (queue : Option RequestQueue) (zone : Zone) :
    (policy.renewalDueDate loan now days queue zone).result =
      (policy.adjustedRenewal loan now days queue zone).result.map
        fun due => due.bind loan.extendedTo := by
  unfold renewalDueDate
  rw [Calculation.result_bind]
  rcases (policy.adjustedRenewal loan now days queue zone).result with fault | failure | due <;> rfl

/-! ## Decisions -/

namespace Renewal

variable {renewal : Renewal} {now : Moment} {days : Option AdjacentDays} {zone : Zone}

/-- The complete calculation of the due date of a renewal. -/
def dueDate (renewal : Renewal) (now : Moment) (days : Option AdjacentDays) (zone : Zone) :
    Except Fault (Outcome Moment) :=
  (renewal.policy.renewalDueDate renewal.loan now days (some renewal.queue) zone).result

/-- Whether the policy lends the item and allows renewals of the loan. -/
def Permitted (renewal : Renewal) : Prop :=
  renewal.policy.loanable = true ∧ renewal.policy.renewable = true

instance (renewal : Renewal) : Decidable renewal.Permitted := inferInstanceAs (Decidable (_ ∧ _))

/-- The violations that are reported whatever the due date. -/
def ownViolations (renewal : Renewal) : List Violation :=
  violationsOf (renewal.policy.checkRenewal renewal.loan renewal.queue)

theorem map_key_ownViolations (renewal : Renewal) :
    renewal.ownViolations.map (·.key) =
      (RenewalCondition.all.filter (·.Violated renewal)).map (·.key) := by
  rw [ownViolations, RenewalCondition.checkRenewal_eq]
  exact RenewalCondition.map_key_violationsOf renewal RenewalCondition.all

theorem ownViolations_eq_nil_iff (renewal : Renewal) :
    renewal.ownViolations = [] ↔ ∀ condition : RenewalCondition, ¬ condition.Violated renewal := by
  have reported := renewal.map_key_ownViolations
  constructor
  · intro none condition violated
    rw [none, List.map_nil, eq_comm, List.map_eq_nil_iff, List.filter_eq_nil_iff] at reported
    exact reported condition condition.mem_all (by simpa using violated)
  · intro kept
    rw [List.filter_eq_nil_iff.mpr fun condition _ => by simpa using kept condition] at reported
    exact List.map_eq_nil_iff.mp reported

/-- Nothing that needs no due date is reported exactly when every such condition is kept. -/
theorem ownViolations_eq_nil_iff_kept (renewal : Renewal) :
    renewal.ownViolations = [] ↔
      renewal.policy.loanable = true ∧ renewal.policy.renewable = true ∧
      renewal.queue.recallAtHead = false ∧
      (renewal.queue.holdAtHead = true → renewal.policy.holds.renewWithRequest = true ∧
        (renewal.policy.isFixed = true →
          renewal.policy.holds.renewalPeriod = none ∧ renewal.policy.renewals.period = none)) ∧
      renewal.loan.status.blocksRenewal = false ∧
      renewal.policy.limitReached renewal.loan.renewalCount = false := by
  rw [ownViolations_eq_nil_iff]
  constructor
  · intro kept
    have noRecall := kept .noRecall
    have holdAllowed := kept .holdAllowed
    have noHoldPeriod := kept .noHoldPeriod
    have noRenewalPeriod := kept .noRenewalPeriod
    have itemPresent := kept .itemPresent
    have loanable := kept .loanable
    have renewable := kept .renewable
    have belowLimit := kept .belowLimit
    simp_all [RenewalCondition.Violated]
  · rintro ⟨loanable, renewable, noRecall, holdAllowed, itemPresent, belowLimit⟩ condition violated
    cases condition <;> simp_all [RenewalCondition.Violated]

/-- Permission is itself among the conditions of a renewal. -/
theorem permitted_of_ownViolations_eq_nil (kept : renewal.ownViolations = []) :
    renewal.Permitted := by
  obtain ⟨loanable, renewable, -⟩ := renewal.ownViolations_eq_nil_iff_kept.mp kept
  exact ⟨loanable, renewable⟩

/-- What is reported of a calculated due date: nothing, or why there is none, in words, under the
key of the failure, and with the values that it depended on. -/
def onDueDate (due : Outcome Moment) : List Violation :=
  match due with
  | .ok _ => []
  | .error failure =>
    [{ reason := failure.reason, key := failure.key, parameters := failure.parameters }]

theorem onDueDate_eq_nil_iff {due : Outcome Moment} : onDueDate due = [] ↔ ∃ d, due = .ok d := by
  cases due <;> simp [onDueDate]

theorem violations_none : renewal.violations none = renewal.ownViolations := by
  simp [violations, ownViolations]

theorem violations_some (due : Outcome Moment) :
    renewal.violations (some due) =
      renewal.ownViolations ++ onDueDate (due.bind renewal.loan.extendedTo) := by
  simp only [violations, ownViolations, violationsOf, List.filterMap_append]
  congr 1
  simp only [Option.map_some, Option.toList_some]
  cases due.bind renewal.loan.extendedTo <;> rfl

/-! ## Decisions -/

/-- What speaks against a renewal. Why there is no due date is reported after everything else, and
only if one is asked for. -/
def against (renewal : Renewal) (calculated : Outcome Moment) : List Violation :=
  renewal.ownViolations ++ if renewal.Permitted then onDueDate calculated else []

theorem against_eq_nil_iff {calculated : Outcome Moment} :
    renewal.against calculated = [] ↔
      renewal.ownViolations = [] ∧ ∃ due, calculated = .ok due := by
  rw [against, List.append_eq_nil_iff]
  refine and_congr_right fun kept => ?_
  rw [if_pos (permitted_of_ownViolations_eq_nil kept), onDueDate_eq_nil_iff]

/-- What becomes of a renewal, given the calculation of its due date. -/
def settled (renewal : Renewal) (calculated : Outcome Moment) : Renewal :=
  match calculated with
  | .ok due =>
    if renewal.against calculated = [] then renewal.carriedOut due
    else renewal.refused (renewal.against calculated)
  | .error _ => renewal.refused (renewal.against calculated)

/-- Without permission no due date is asked for, and the renewal is refused. -/
theorem decide_of_not_permitted (regular : renewal.override = false)
    (barred : ¬ renewal.Permitted) (calculated : Outcome Moment) :
    renewal.decide now days zone = .ok (renewal.settled calculated) := by
  have unproposed : renewal.proposedDue now days zone = .ok none := by
    unfold proposedDue
    rw [if_neg]
    simpa [regular, Permitted] using barred
  have same : renewal.against calculated = renewal.ownViolations := by
    rw [against, if_neg barred, List.append_nil]
  -- permission is itself a condition, so that something is reported
  have violated : renewal.ownViolations ≠ [] := mt permitted_of_ownViolations_eq_nil barred
  have refused : renewal.settled calculated = renewal.refused renewal.ownViolations := by
    cases calculated <;> simp [settled, same, violated]
  rw [decide, unproposed, refused]
  simp [violations, ownViolations, bind, Except.bind, pure, Except.pure]

/-- With permission the complete calculation of the due date settles the renewal. -/
theorem decide_of_permitted (regular : renewal.override = false) (permitted : renewal.Permitted)
    {calculated : Outcome Moment} (h : renewal.dueDate now days zone = .ok calculated) :
    renewal.decide now days zone = .ok (renewal.settled calculated) := by
  rw [dueDate, LoanPolicy.result_renewalDueDate] at h
  obtain ⟨proposed, adjusted, rfl⟩ := map_eq_ok.mp h
  have asked : renewal.proposedDue now days zone = .ok (some proposed) := by
    unfold proposedDue
    rw [if_pos (by simpa [regular, Permitted] using permitted), adjusted]
    rfl
  have same (due : Outcome Moment) :
      renewal.against due = renewal.ownViolations ++ onDueDate due := by
    rw [against, if_pos permitted]
  rw [decide, asked]
  simp only [bind, Except.bind, pure, Except.pure, violations_some, ← same]
  cases proposed with
  | error failure => rfl
  | ok due =>
    -- the decision compares the due date that the complete calculation has already compared
    change (if _ then _ else _) = Except.ok (renewal.settled (renewal.loan.extendedTo due))
    cases compared : renewal.loan.extendedTo due with
    | error failure => simp [settled, compared, regular, against_eq_nil_iff]
    | ok given =>
      obtain rfl := Loan.extendedTo_eq_ok compared
      simp only [settled, compared, List.isEmpty_iff, regular, Bool.false_eq_true, if_false]
      split <;> rfl

/-- What a renewal without an override comes to, given the calculation of its due date. -/
structure Decided (renewal after : Renewal) (calculated : Outcome Moment) : Prop where
  succeeded_iff : after.succeeded = true ↔
    (renewal.policy.loanable = true ∧ renewal.policy.renewable = true ∧
      renewal.queue.recallAtHead = false ∧
      (renewal.queue.holdAtHead = true → renewal.policy.holds.renewWithRequest = true ∧
        (renewal.policy.isFixed = true →
          renewal.policy.holds.renewalPeriod = none ∧ renewal.policy.renewals.period = none)) ∧
      renewal.loan.status.blocksRenewal = false ∧
      renewal.policy.limitReached renewal.loan.renewalCount = false) ∧
    ∃ due, calculated = .ok due
  renewed : after.succeeded = true → ∃ due, calculated = .ok due ∧ after.loan.due = due ∧
    after.loan = renewal.loan.renew due renewal.policy.id
  unchanged : after.succeeded = false → after.loan = renewal.loan
  errors : ∃ own : List Violation,
    own.map (·.key) = (RenewalCondition.all.filter (·.Violated renewal)).map (·.key) ∧
    after.errors = own ++ if renewal.Permitted then onDueDate calculated else []

theorem decided_carriedOut (noErrors : renewal.errors = []) {due : Moment}
    (clear : renewal.against (.ok due) = []) :
    renewal.Decided (renewal.carriedOut due) (.ok due) := by
  have succeeded : (renewal.carriedOut due).succeeded = true := by
    simp [carriedOut, Renewal.succeeded, noErrors]
  obtain ⟨kept, found⟩ := against_eq_nil_iff.mp clear
  exact {
    succeeded_iff := iff_of_true succeeded ⟨renewal.ownViolations_eq_nil_iff_kept.mp kept, found⟩
    renewed := fun _ => ⟨due, rfl, rfl, rfl⟩
    unchanged := fun refused => by simp [succeeded] at refused
    errors := ⟨renewal.ownViolations, renewal.map_key_ownViolations, noErrors.trans clear.symm⟩ }

theorem decided_refused {calculated : Outcome Moment} (violated : renewal.against calculated ≠ []) :
    renewal.Decided (renewal.refused (renewal.against calculated)) calculated := by
  have refused : ¬ (renewal.refused (renewal.against calculated)).succeeded = true := by
    simpa [Renewal.refused, succeeded] using violated
  exact {
    succeeded_iff := iff_of_false refused fun ⟨kept, found⟩ =>
      violated (against_eq_nil_iff.mpr ⟨renewal.ownViolations_eq_nil_iff_kept.mpr kept, found⟩)
    renewed := fun succeeded => absurd succeeded refused
    unchanged := fun _ => rfl
    errors := ⟨renewal.ownViolations, renewal.map_key_ownViolations, rfl⟩ }

theorem decided_settled (noErrors : renewal.errors = []) (calculated : Outcome Moment) :
    renewal.Decided (renewal.settled calculated) calculated := by
  cases calculated with
  | error failure => exact decided_refused (by simp [against_eq_nil_iff])
  | ok due =>
    by_cases clear : renewal.against (.ok due) = []
    · have carried : renewal.settled (.ok due) = renewal.carriedOut due := if_pos clear
      rw [carried]
      exact decided_carriedOut noErrors clear
    · have refused : renewal.settled (.ok due) = renewal.refused (renewal.against (.ok due)) :=
        if_neg clear
      rw [refused]
      exact decided_refused clear

/-- **A regular renewal.** On calendar days that describe the candidate, and within the calendar, a
renewal without an override is always decided: it succeeds exactly when all conditions are kept and
there is a later due date, which it then gets. Otherwise the loan stays as it was, and all violated
conditions are reported in their order, followed by the reason why there is no due date. -/
theorem decide_regular (renewal : Renewal) (now : Moment) (days : Option AdjacentDays) (zone : Zone)
    (regular : renewal.override = false) (noErrors : renewal.errors = [])
    (describe : ∀ given ∈ days, ∀ candidate,
      (renewal.policy.renewalCandidate renewal.loan now (some renewal.queue) zone).result =
        .ok (.ok candidate) → given.Describe candidate zone)
    (within : ∀ fault,
      (renewal.policy.renewalDueDate renewal.loan now days (some renewal.queue) zone).result =
        .error fault → ¬ fault.LeavesCalendar) :
    ∃ calculated after,
      (renewal.policy.renewalDueDate renewal.loan now days (some renewal.queue) zone).result =
        .ok calculated ∧
      renewal.decide now days zone = .ok after ∧ renewal.Decided after calculated := by
  have stops := renewal.policy.stopsAtEnds_renewalDueDate renewal.loan _ zone describe
  cases h : renewal.dueDate now days zone with
  | error fault => exact absurd (stops fault h) (within fault h)
  | ok calculated =>
    refine ⟨calculated, renewal.settled calculated, h, ?_, decided_settled noErrors calculated⟩
    by_cases permitted : renewal.Permitted
    · exact decide_of_permitted regular permitted h
    · exact decide_of_not_permitted regular permitted calculated

/-- The renewal of a lost item that someone else recalls, for a day from now, a week before it is
due. It was renewed as often as the policy allows. -/
def ofLostItem : Renewal where
  loan :=
    { id := "loan-1", due := .showing ⟨739000, by decide⟩ startOfDay .utc, renewalCount := 2
      status := .declaredLost }
  policy :=
    { id := "two-renewals", period := some (.of .days (some 1)), strategy := .endOfNextOpenDay
      renewals := { renewFrom := RenewFrom.systemDate.name, limit := some 2 } }
  queue := ⟨[{ id := "request-1", kind := .recallRequest }], by simp⟩

theorem ofLostItem_decided :
    let now : Moment := .showing ⟨738993, by decide⟩ startOfDay .utc
    let days : AdjacentDays :=
      { previous := .openAllDay ⟨738993, by decide⟩
        requested := .closed ⟨738994, by decide⟩
        next := .openAllDay ⟨738996, by decide⟩ }
    ∃ calculated after,
      (ofLostItem.policy.renewalDueDate ofLostItem.loan now days (some ofLostItem.queue)
        .utc).result = .ok calculated ∧
      ofLostItem.decide now days .utc = .ok after ∧ ofLostItem.Decided after calculated ∧
      after.errors.map (·.key) =
        ["ITEM_HAS_OPEN_RECALL_REQUEST", "ITEM_STATUS_BLOCKS_RENEWAL",
          "LOAN_AT_MAXIMUM_RENEWAL_NUMBER", "NO_DUE_DATE_CHANGE"] := by
  intro now days
  have candidate : (ofLostItem.policy.renewalCandidate ofLostItem.loan now
      (some ofLostItem.queue) .utc).result.toOption.bind (·.toOption) =
        some (.showing days.requested.date startOfDay .utc) := by decide +kernel
  have calculated : (ofLostItem.policy.renewalDueDate ofLostItem.loan now days
      (some ofLostItem.queue) .utc).result.toOption.map (fun due => (onDueDate due).map (·.key)) =
        some ["NO_DUE_DATE_CHANGE"] := by decide +kernel
  obtain ⟨due, after, found, decided, right⟩ := decide_regular ofLostItem now days .utc rfl rfl
    (by
      rintro _ ⟨⟩ given h date fallsOn
      rw [h] at candidate
      obtain rfl := Option.some.inj candidate
      exact Except.ok.inj ((Moment.dateIn_showing _ _ _).symm.trans fallsOn))
    (by
      intro fault h
      rw [h] at calculated
      cases calculated)
  refine ⟨due, after, found, decided, right, ?_⟩
  rw [found] at calculated
  have unchanged : (onDueDate due).map (·.key) = ["NO_DUE_DATE_CHANGE"] :=
    Option.some.inj calculated
  obtain ⟨own, reported, errors⟩ := right.errors
  have violated : RenewalCondition.all.filter (·.Violated ofLostItem) =
      [.noRecall, .itemPresent, .belowLimit] := by decide
  have permitted : ofLostItem.Permitted := by decide
  rw [errors, List.map_append, reported, violated, if_pos permitted, unchanged]
  rfl

end Renewal

end Lending
