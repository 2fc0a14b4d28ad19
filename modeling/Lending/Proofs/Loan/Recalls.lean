import Lending.Proofs.Loan.Course
import Lending.Proofs.Loan.History
import Lending.Proofs.Overdue.Elapsed
import Lending.Proofs.Time.Steady
import Mathlib.Order.Bounds.Basic

/-!
# Recalls in any order

A loan that is not renewed in between may be recalled many times, by patrons whose clocks are set
to different zones, while the status of its item changes. Every recall looks at the due date that
the earlier ones have left. Yet if the clocks of all these zones are never changed it does not
matter in which order the recalls come: the loan is due at the earliest of all dates, and it is
marked as changed by a recall exactly if that is earlier than the due date that it had at first. A
recall for the same instant, shown by another clock, changes nothing.

## Main definitions

* `Loan.recallDates` — the dates for which a loan is recalled
* `Moment.instants` — the instants of some moments
* `Loan.RecalledBy` — what recalls for some dates make of a loan

## Main results

* `Loan.instant_due_recallTo` — a recall takes the earlier of two due dates
* `Loan.isLeast_due_after`, `Loan.marked_after_iff` — the due date and the mark after all recalls
* `Loan.recalls_in_any_order` — recalls and changes of status in any order
-/

namespace Lending

/-- The instants of some moments. -/
def Moment.instants (moments : List Moment) : Set Int := {t | ∃ m ∈ moments, m.instant = t}

theorem Moment.instants_cons (m : Moment) (moments : List Moment) :
    instants (m :: moments) = insert m.instant (instants moments) := by
  ext t
  simp [instants, eq_comm]

namespace Loan

variable {loan : Loan} {due : Moment}

/-! ## One operation -/

/-- A recall takes the earlier of two due dates. -/
theorem instant_due_recallTo (steady : loan.due.zone.NeverChanges) :
    (loan.recallTo due).due.instant = min loan.due.instant due.instant := by
  have order := Moment.le_iff_instant (b := due) steady
  unfold recallTo
  split
  · next dueBefore => exact (Int.min_eq_left (order.mp dueBefore)).symm
  · next later =>
    have earlier : due.instant ≤ loan.due.instant := by
      rw [order] at later
      omega
    exact (Int.min_eq_right earlier).symm

/-- A recall marks the loan if its date is earlier than the due date. -/
theorem marked_recallTo_iff (steady : loan.due.zone.NeverChanges) :
    (loan.recallTo due).dueDateChangedByRecall = true ↔
      due.instant < loan.due.instant ∨ loan.dueDateChangedByRecall = true := by
  have order := Moment.le_iff_instant (b := due) steady
  refine ((Operation.recallTo due).changedByRecall_apply loan).trans (or_congr_left ?_)
  rw [Operation.Shortens, ← Moment.not_le, order, Int.not_le]

theorem neverChanges_recallTo (steady : loan.due.zone.NeverChanges)
    (steadyDate : due.zone.NeverChanges) : (loan.recallTo due).due.zone.NeverChanges := by
  unfold recallTo
  split
  · exact steady
  · exact steadyDate

theorem sameLending_withStatus (loan : Loan) (status : ItemStatus) :
    (loan.withStatus status).SameLending loan :=
  ⟨rfl, rfl, rfl, rfl, rfl, rfl⟩

/-! ## Recalls one after another -/

/-- What recalls for some dates make of a loan: it is due at the earliest instant of all, it is
marked if that is before the due date that it had, and apart from its status and the last action
nothing else is changed. -/
structure RecalledBy (loan : Loan) (dates : List Moment) (after : Loan) : Prop where
  steady : after.due.zone.NeverChanges
  due : IsLeast (insert loan.due.instant (Moment.instants dates)) after.due.instant
  marked : after.dueDateChangedByRecall = true ↔
    loan.dueDateChangedByRecall = true ∨ ∃ t ∈ Moment.instants dates, t < loan.due.instant
  same : after.SameLending loan
  policyId : after.policyId = loan.policyId
  renewalCount : after.renewalCount = loan.renewalCount

namespace RecalledBy

variable {dates : List Moment} {after : Loan} {date : Moment}

theorem refl (steady : loan.due.zone.NeverChanges) : loan.RecalledBy [] loan where
  steady := steady
  due := by simp [Moment.instants]
  marked := by simp [Moment.instants]
  same := ⟨rfl, rfl, rfl, rfl, rfl, rfl⟩
  policyId := rfl
  renewalCount := rfl

theorem withStatus (recalled : loan.RecalledBy dates after) (status : ItemStatus) :
    loan.RecalledBy dates (after.withStatus status) where
  steady := recalled.steady
  due := recalled.due
  marked := recalled.marked
  same := (after.sameLending_withStatus status).trans recalled.same
  policyId := recalled.policyId
  renewalCount := recalled.renewalCount

/-- A recall marks the loan if it is the first one for an instant before the due date that the loan
had, or if there was such a one before it. -/
theorem marked_recallTo_iff (recalled : loan.RecalledBy dates after) :
    (after.recallTo date).dueDateChangedByRecall = true ↔
      loan.dueDateChangedByRecall = true ∨
        ∃ t ∈ Moment.instants (date :: dates), t < loan.due.instant := by
  obtain ⟨listed, least⟩ := recalled.due
  rw [Loan.marked_recallTo_iff recalled.steady, recalled.marked, Moment.instants_cons,
    Set.exists_mem_insert]
  constructor
  · rintro (shortens | marked | earlier)
    · have notLater := least (Set.mem_insert _ _)
      exact .inr (.inl (by omega))
    · exact .inl marked
    · exact .inr (.inr earlier)
  · rintro (marked | shortens | earlier)
    · exact .inr (.inl marked)
    · by_cases earlierYet : date.instant < after.due.instant
      · exact .inl earlierYet
      · -- the loan is due by then anyway, so that an earlier recall has shortened it
        rcases Set.mem_insert_iff.mp listed with unchanged | given
        · omega
        · exact .inr (.inr ⟨_, given, by omega⟩)
    · exact .inr (.inr earlier)

theorem recallTo (recalled : loan.RecalledBy dates after) (steadyDate : date.zone.NeverChanges) :
    loan.RecalledBy (date :: dates) (after.recallTo date) where
  steady := neverChanges_recallTo recalled.steady steadyDate
  due := by
    rw [instant_due_recallTo recalled.steady, Moment.instants_cons, Set.insert_comm, Int.min_comm]
    exact recalled.due.insert _
  marked := recalled.marked_recallTo_iff
  same := (after.sameLending_recallTo date).trans recalled.same
  policyId := by
    rw [← recalled.policyId, Loan.recallTo]
    split <;> rfl
  renewalCount := by rw [recallTo_renewalCount, recalled.renewalCount]

end RecalledBy

/-- The date of a recall. -/
def Operation.recallDate? : Operation → Option Moment
  | recallTo due => some due
  | renew _ _ | renewByOverride _ _ | changeStatus _ => none

/-- The dates for which a loan is recalled, the most recent one first. -/
def recallDates (history : List Operation) : List Moment := history.filterMap (·.recallDate?)

/-- A loan that is not renewed is recalled for some dates. -/
theorem recalledBy_after {history : List Operation} (unrenewed : ∀ op ∈ history, ¬ op.IsRenewal)
    (steady : loan.due.zone.NeverChanges)
    (steadyDates : ∀ date ∈ recallDates history, date.zone.NeverChanges) :
    loan.RecalledBy (recallDates history) (loan.after history) := by
  induction history with
  | nil => exact .refl steady
  | cons op earlier ih =>
    obtain ⟨noRenewal, unrenewedBefore⟩ := List.forall_mem_cons.mp unrenewed
    cases op with
    | recallTo date =>
      obtain ⟨steadyDate, steadyBefore⟩ := List.forall_mem_cons.mp steadyDates
      exact (ih unrenewedBefore steadyBefore).recallTo steadyDate
    | renew | renewByOverride => exact absurd trivial noRenewal
    | changeStatus status => exact (ih unrenewedBefore steadyDates).withStatus status

/-- **Recalls in any order.** Let a loan be recalled for any dates, and let the status of its item
change in between, but let it not be renewed. If the clocks that show its due date and the dates of
the recalls are never changed, it is due at the earliest of all these, it is marked as changed by a
recall if it was before or some date is earlier than the due date, and it stays the same loan with
the same policy and count of renewals. In every other order of the recalls, with whatever changes of
status in between, the instant at which it is due and its mark are the same. -/
theorem recalls_in_any_order (loan : Loan) (history : List Operation)
    (unrenewed : ∀ op ∈ history, ¬ op.IsRenewal) (steady : loan.due.zone.NeverChanges)
    (steadyDates : ∀ date ∈ recallDates history, date.zone.NeverChanges) :
    loan.RecalledBy (recallDates history) (loan.after history) ∧
      ∀ others, (∀ op ∈ others, ¬ op.IsRenewal) →
        (recallDates others).Perm (recallDates history) →
        (loan.after others).due.instant = (loan.after history).due.instant ∧
          (loan.after others).dueDateChangedByRecall =
            (loan.after history).dueDateChangedByRecall := by
  have recalled := recalledBy_after unrenewed steady steadyDates
  refine ⟨recalled, fun others unrenewedOthers reordered => ?_⟩
  have otherwise := recalledBy_after unrenewedOthers steady
    fun date given => steadyDates date (reordered.mem_iff.mp given)
  have sameInstants :
      Moment.instants (recallDates others) = Moment.instants (recallDates history) := by
    simp only [Moment.instants, reordered.mem_iff]
  rw [Bool.eq_iff_iff, otherwise.marked, recalled.marked, sameInstants]
  exact ⟨(sameInstants ▸ otherwise.due).unique recalled.due, Iff.rfl⟩

/-- Midnight before the fifth of January in universal time. -/
def beforeTheFifth : Moment := .showing (.ofDay 738889) startOfDay .utc

/-- The loan that is due on the eleventh is recalled until the eighth, and then twice for that
midnight, which another clock shows an hour later. -/
def recalledThrice : List Operation :=
  [.recallTo beforeTheFifth, .changeStatus .inTransit,
    .recallTo (.showing (.ofDay 738889) (.ofHour 1) (.fixed 3600)),
    .recallTo (.showing (.ofDay 738892) startOfDay .utc)]

/-- The loan keeps the due date that the other clock shows. If the recalls come the other way round
it has the other one, which is at the same instant. -/
theorem januaryLoan_recalledThrice :
    januaryLoan.RecalledBy (recallDates recalledThrice) (januaryLoan.after recalledThrice) ∧
      (januaryLoan.after recalledThrice).due.zone = .fixed 3600 ∧
      (januaryLoan.after recalledThrice).due.instant = beforeTheFifth.instant ∧
      (januaryLoan.after recalledThrice.reverse).due = beforeTheFifth ∧
      (januaryLoan.after recalledThrice.reverse).dueDateChangedByRecall = true := by
  obtain ⟨recalled, reordered⟩ := recalls_in_any_order januaryLoan recalledThrice
    (by simp [recalledThrice, Operation.IsRenewal]) (by decide) (by decide)
  obtain ⟨instant, mark⟩ := reordered recalledThrice.reverse
    (by simp [recalledThrice, Operation.IsRenewal]) ((List.reverse_perm _).filterMap _)
  have backwards : (januaryLoan.after recalledThrice.reverse).due = beforeTheFifth := by decide
  refine ⟨recalled, by decide, ?_, backwards, ?_⟩
  · rw [← instant, backwards]
  · rw [mark, recalled.marked]
    exact .inr ⟨beforeTheFifth.instant, ⟨beforeTheFifth, by decide, rfl⟩, by decide⟩

end Loan

end Lending
