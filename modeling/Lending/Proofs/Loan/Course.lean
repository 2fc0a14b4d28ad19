import Lending.Proofs.Renewal.Retry

/-!
# The course of a loan

A loan is handed from one renewal to the next, each decided afresh and under a policy of its own,
with recalls and changes of the item's status in between. What can happen at one event is said once;
from it follows what holds of the whole course, in whatever order the events come: it stays the same
loan, its renewals are counted, regular renewals lengthen it and recalls do not, and the limit of
the policies bounds the number of renewals.

## Main definitions

* `Renewal.Attempt` — what a renewal of a loan is attempted with
* `Loan.Event`, `Loan.followed` — what happens to a loan, and a loan after a course of events
* `Loan.Event.Step` — what an event can do, with one case for each way in which it ends
* `Loan.Consistent` — what holds of a course

## Main results

* `Loan.Event.step` — every event takes such a step
* `Loan.followed_sameLending`, `Loan.renewalCount_followed`, `Loan.renewalCount_followed_le` — what
  the steps of a course come to
* `Loan.consistent_course` — what holds of every course
-/

namespace Lending

theorem Moment.le_refl (a : Moment) : a ≤ a := by
  simp [Moment.le_def, Moment.since]

theorem Moment.le_of_lt {a b : Moment} (h : a < b) : a ≤ b :=
  Int.le_of_lt h

namespace Renewal

/-! ## Attempts -/

/-- What a renewal of a loan is attempted with. -/
structure Attempt where
  policy : LoanPolicy
  queue : RequestQueue := .empty
  override : Bool := false
  now : Moment
  days : Option AdjacentDays := none
  zone : Zone := .utc

namespace Attempt

variable {attempt : Attempt} {loan : Loan}

/-- The renewal of a loan that is attempted; nothing was decided on it before. -/
def of (attempt : Attempt) (loan : Loan) : Renewal where
  loan
  policy := attempt.policy
  queue := attempt.queue
  override := attempt.override

/-- The decision on an attempt to renew a loan. -/
def decision (attempt : Attempt) (loan : Loan) : Except Fault Renewal :=
  (attempt.of loan).decide attempt.now attempt.days attempt.zone

/-- Whether an attempt carries through against what speaks against it. -/
def Overrides (attempt : Attempt) (loan : Loan) : Prop :=
  ∃ after, attempt.decision loan = .ok after ∧ after.overridden ≠ []

/-- Only a privileged attempt overrides anything. -/
theorem Overrides.privileged (overrides : attempt.Overrides loan) : attempt.override = true := by
  obtain ⟨after, decided, listed⟩ := overrides
  obtain ⟨proposed, -, ended⟩ := decidedAs_of_decide decided
  cases ended with
  | carriedOut clear => exact absurd rfl listed
  | overriding privileged violated => exact privileged
  | refused barred violated => exact absurd rfl listed

end Attempt

/-- Where nothing speaks against a renewal it is later than the due date before it, and the limit of
the policy was not reached. -/
theorem of_violations_eq_nil {renewal : Renewal} {due : Moment}
    (clear : renewal.violations (some (.ok due)) = []) :
    renewal.loan.due < due ∧ renewal.policy.limitReached renewal.loan.renewalCount = false := by
  rw [violations_some, List.append_eq_nil_iff, onDueDate_eq_nil_iff,
    ownViolations_eq_nil_iff_kept] at clear
  obtain ⟨⟨-, -, -, -, -, below⟩, found, extended⟩ := clear
  refine ⟨Moment.not_le.mp fun notLater => ?_, below⟩
  simp [Except.bind, Loan.extendedTo, notLater] at extended

end Renewal

namespace Loan

open Renewal (Attempt)

/-! ## Events -/

/-- What happens to a loan. -/
inductive Event
  | renewal (attempt : Attempt)
  | recallTo (due : Moment)
  | statusChange (status : ItemStatus)

namespace Event

/-- A loan after an event. A renewal that cannot be decided leaves it as it was. -/
def apply (loan : Loan) : Event → Loan
  | renewal attempt =>
    match attempt.decision loan with
    | .ok after => after.loan
    | .error _ => loan
  | recallTo due => loan.recallTo due
  | statusChange status => loan.withStatus status

/-- Whether an event is a renewal that succeeds. -/
def succeeds (loan : Loan) : Event → Bool
  | renewal attempt =>
    match attempt.decision loan with
    | .ok after => after.succeeded
    | .error _ => false
  | recallTo _ | statusChange _ => false

/-- What an event can do: it is a renewal that succeeds, by the rules or against them, or one that
does not, or another event. -/
inductive Step (loan : Loan) : Event → Bool → Loan → Prop
  | renewed {attempt : Attempt} {due : Moment} (later : loan.due < due)
      (below : attempt.policy.limitReached loan.renewalCount = false) :
      Step loan (.renewal attempt) true (loan.renew due attempt.policy.id)
  | overridden {attempt : Attempt} {due : Moment} (overrides : attempt.Overrides loan) :
      Step loan (.renewal attempt) true (loan.renewByOverride due attempt.policy.id)
  | refused {attempt : Attempt} : Step loan (.renewal attempt) false loan
  | recalled {due : Moment} : Step loan (.recallTo due) false (loan.recallTo due)
  | statusChanged {status : ItemStatus} :
      Step loan (.statusChange status) false (loan.withStatus status)

/-- Every event takes such a step. -/
theorem step (loan : Loan) (event : Event) :
    event.Step loan (event.succeeds loan) (event.apply loan) := by
  cases event with
  | recallTo due => exact .recalled
  | statusChange status => exact .statusChanged
  | renewal attempt =>
    simp only [apply, succeeds]
    cases decided : attempt.decision loan with
    | error fault => exact .refused
    | ok after =>
      obtain ⟨proposed, -, ended⟩ := Renewal.decidedAs_of_decide decided
      cases ended with
      | carriedOut clear =>
        obtain ⟨later, below⟩ := Renewal.of_violations_eq_nil clear
        exact .renewed later below
      | overriding privileged violated => exact .overridden ⟨_, decided, violated⟩
      | refused barred violated =>
        simp only [Renewal.not_succeeded_refused violated]
        exact .refused

end Event

/-- Whether two states are of one loan: the same item lent to the same user on the same terms of
overdue time. -/
structure SameLending (a b : Loan) : Prop where
  id : a.id = b.id
  itemId : a.itemId = b.itemId
  userId : a.userId = b.userId
  loanDate : a.loanDate = b.loanDate
  finePolicyId : a.finePolicyId = b.finePolicyId
  servicePointId : a.servicePointId = b.servicePointId

theorem SameLending.trans {a b c : Loan} (hab : a.SameLending b) (hbc : b.SameLending c) :
    a.SameLending c where
  id := hab.id.trans hbc.id
  itemId := hab.itemId.trans hbc.itemId
  userId := hab.userId.trans hbc.userId
  loanDate := hab.loanDate.trans hbc.loanDate
  finePolicyId := hab.finePolicyId.trans hbc.finePolicyId
  servicePointId := hab.servicePointId.trans hbc.servicePointId

theorem sameLending_recallTo (loan : Loan) (due : Moment) :
    (loan.recallTo due).SameLending loan := by
  unfold recallTo
  split <;> exact ⟨rfl, rfl, rfl, rfl, rfl, rfl⟩

theorem recallTo_due_le (loan : Loan) (due : Moment) : (loan.recallTo due).due ≤ loan.due := by
  unfold recallTo
  split
  · exact Moment.le_refl loan.due
  · next later => exact Moment.le_of_lt (Moment.not_le.mp later)

@[simp] theorem recallTo_renewalCount (loan : Loan) (due : Moment) :
    (loan.recallTo due).renewalCount = loan.renewalCount := by
  unfold recallTo
  split <;> rfl

namespace Event.Step

variable {loan after : Loan} {event : Event} {succeeded : Bool}

theorem sameLending (step : event.Step loan succeeded after) : after.SameLending loan := by
  cases step with
  | renewed | overridden | refused | statusChanged => exact ⟨rfl, rfl, rfl, rfl, rfl, rfl⟩
  | recalled => exact loan.sameLending_recallTo _

/-- A renewal that succeeds is counted, and nothing else is. -/
theorem renewalCount (step : event.Step loan succeeded after) :
    after.renewalCount = loan.renewalCount + succeeded.toNat := by
  cases step with
  | renewed | overridden => rfl
  | refused | statusChanged => exact (Int.add_zero _).symm
  | recalled => simp

/-- A renewal that succeeds and overrides nothing makes the due date later. -/
theorem due_lt {attempt : Attempt} (step : Step loan (.renewal attempt) true after)
    (regular : ¬ attempt.Overrides loan) : loan.due < after.due := by
  cases step with
  | renewed later => exact later
  | overridden overrides => exact absurd overrides regular

/-- A renewal that overrides nothing takes the count no further than the limit of its policy. -/
theorem renewalCount_le {bound : Int} (step : event.Step loan succeeded after)
    (limited : ∀ attempt, event = .renewal attempt → attempt.override = false ∧
      ∃ limit ∈ attempt.policy.renewals.limit, limit ≤ bound) :
    after.renewalCount ≤ max bound loan.renewalCount := by
  cases step with
  | @renewed attempt _ later below =>
    obtain ⟨-, limit, declared, within⟩ := limited attempt rfl
    rw [Option.mem_def] at declared
    have unreached : ¬ limit ≤ loan.renewalCount := by
      simpa [LoanPolicy.limitReached, declared] using below
    simp only [Loan.renew]
    omega
  | @overridden attempt _ overrides =>
    obtain ⟨regular, -⟩ := limited attempt rfl
    simp [overrides.privileged] at regular
  | refused | statusChanged => exact Int.le_max_right _ _
  | recalled =>
    rw [recallTo_renewalCount]
    exact Int.le_max_right _ _

end Event.Step

/-! ## Courses -/

/-- A loan after a course of events, the most recent one first. -/
def followed (loan : Loan) : List Event → Loan
  | [] => loan
  | event :: earlier => event.apply (loan.followed earlier)

/-- The number of renewals in a course that succeed. -/
def successes (loan : Loan) : List Event → Nat
  | [] => 0
  | event :: earlier =>
    loan.successes earlier + (event.succeeds (loan.followed earlier)).toNat

variable (loan : Loan) (course : List Event)

theorem followed_sameLending : (loan.followed course).SameLending loan := by
  induction course with
  | nil => exact ⟨rfl, rfl, rfl, rfl, rfl, rfl⟩
  | cons event earlier ih => exact (event.step (loan.followed earlier)).sameLending.trans ih

theorem renewalCount_followed :
    (loan.followed course).renewalCount = loan.renewalCount + loan.successes course := by
  induction course with
  | nil => exact (Int.add_zero _).symm
  | cons event earlier ih =>
    rw [followed, (event.step (loan.followed earlier)).renewalCount, ih, successes]
    push_cast
    omega

/-- Without overrides the policies of a course bound the count of renewals. -/
theorem renewalCount_followed_le {bound : Int}
    (limited : ∀ attempt, .renewal attempt ∈ course → attempt.override = false ∧
      ∃ limit ∈ attempt.policy.renewals.limit, limit ≤ bound) :
    (loan.followed course).renewalCount ≤ max bound loan.renewalCount := by
  induction course with
  | nil => exact Int.le_max_right _ _
  | cons event earlier ih =>
    have before := ih fun attempt member => limited attempt (.tail _ member)
    have last : (event.apply (loan.followed earlier)).renewalCount ≤
        max bound (loan.followed earlier).renewalCount :=
      (event.step _).renewalCount_le fun attempt same => limited attempt (same ▸ .head _)
    rw [followed]
    omega

/-- What holds of a loan in a course of events. -/
structure Consistent : Prop where
  /-- It stays the same loan. -/
  same : (loan.followed course).SameLending loan
  /-- The renewals that succeeded are counted. -/
  counted : (loan.followed course).renewalCount = loan.renewalCount + loan.successes course
  /-- A renewal that succeeded without an override, or had one and did not need it, has made the due
  date later. -/
  lengthened : ∀ attempt earlier, .renewal attempt :: earlier <:+ course →
    Event.succeeds (loan.followed earlier) (.renewal attempt) = true →
    attempt.override = false ∨ ¬ attempt.Overrides (loan.followed earlier) →
    (loan.followed earlier).due < (loan.followed (.renewal attempt :: earlier)).due
  /-- A recall has not made it later. -/
  recalled : ∀ due earlier, .recallTo due :: earlier <:+ course →
    (loan.followed (.recallTo due :: earlier)).due ≤ (loan.followed earlier).due
  /-- If nothing may be overridden and every policy has a limit up to a bound, then at no time have
  there been more renewals than the bound, or than at the outset. -/
  bounded : ∀ bound : Int, (∀ attempt, .renewal attempt ∈ course → attempt.override = false ∧
      ∃ limit ∈ attempt.policy.renewals.limit, limit ≤ bound) →
    ∀ earlier, earlier <:+ course →
      (loan.followed earlier).renewalCount ≤ max bound loan.renewalCount

/-- **The course of a loan.** Whatever happens to a loan, and in whatever order, it stays the same
loan, its renewals are counted, regular ones lengthen it and recalls do not, and the limits of the
policies bound their number. -/
theorem consistent_course : loan.Consistent course := by
  constructor
  case same => exact loan.followed_sameLending course
  case counted => exact loan.renewalCount_followed course
  case lengthened =>
    intro attempt earlier _ succeeds regular
    have step := (Event.renewal attempt).step (loan.followed earlier)
    rw [succeeds] at step
    -- an attempt that may not override anything does not
    refine step.due_lt fun overrides => ?_
    rcases regular with unprivileged | regular
    · simp [overrides.privileged] at unprivileged
    · exact regular overrides
  case recalled => exact fun due earlier _ => (loan.followed earlier).recallTo_due_le due
  case bounded =>
    intro bound limited earlier part
    exact loan.renewalCount_followed_le earlier fun attempt member =>
      limited attempt (part.subset member)

/-- A loan that is due on the twelfth of January, and was renewed once before. -/
def onceRenewed : Loan where
  id := "loan-1"
  due := .showing ⟨738896, by decide⟩ startOfDay .utc
  renewalCount := 1

/-- A renewal for a day, of which the policy allows two. -/
def forADay : Attempt where
  policy :=
    { id := "one-day", period := some (.of .days (some 1)), renewals := { limit := some 2 } }
  now := .showing ⟨738890, by decide⟩ startOfDay .utc

/-- The loan is renewed for a day, reaches the limit, is renewed by an override, and recalled. -/
def renewedThenRecalled : List Event :=
  [.recallTo (.showing ⟨738892, by decide⟩ startOfDay .utc),
    .renewal { forADay with override := true }, .statusChange .checkedOut, .renewal forADay,
    .renewal forADay]

theorem renewedThenRecalled_consistent :
    onceRenewed.Consistent renewedThenRecalled ∧ onceRenewed.successes renewedThenRecalled = 2 ∧
      (onceRenewed.followed renewedThenRecalled).renewalCount = 3 ∧
      (onceRenewed.followed renewedThenRecalled.tail.tail).renewalCount = 2 := by
  have consistent := onceRenewed.consistent_course renewedThenRecalled
  have successes : onceRenewed.successes renewedThenRecalled = 2 := by decide +kernel
  refine ⟨consistent, successes, ?_, by decide +kernel⟩
  rw [consistent.counted, successes]
  rfl

end Loan

end Lending
