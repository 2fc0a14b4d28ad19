import Lending.Overdue
import Lending.Proofs.Renewal.Retry
import Mathlib.Tactic.SplitIfs

/-!
# The history of a loan

A loan is recalled, renewed and given another item status, in any order. That its due date was
changed by a recall is written down by the recall and never taken back. So the mark says that some
recall has shortened the loan, not that its due date still is the one of a recall: a loan that is
renewed after such a recall has a due date of its own and keeps the mark, and under a fine policy
that grants no grace after a recall it stays without grace.

## Main definitions

* `Loan.Operation`, `Loan.after` — what is done with a loan, and a loan after a history of it
* `Loan.lastSetter?` — the operation that the due date of a loan comes from
* `Loan.ShortenedIn`, `Loan.RecalledLast`, `Loan.RenewedLast` — what a history does to the due date

## Main results

* `Renewal.loan_of_decide` — deciding a renewal is one operation on the loan, or none
* `Loan.due_after` — the due date is the one that was set last
* `Loan.changedByRecall_after_iff` — the mark of a recall is never taken back
* `Loan.changedByRecall_iff_recalledLast` — when the mark is right
-/

namespace Lending

namespace Loan

variable {loan : Loan}

/-! ## What is done with a loan -/

/-- What is done with a loan. -/
inductive Operation
  | recallTo (due : Moment)
  | renew (due : Moment) (policyId : Option String)
  | renewByOverride (due : Moment) (policyId : Option String)
  | changeStatus (status : ItemStatus)
deriving DecidableEq, Repr

namespace Operation

/-- A loan after an operation. -/
def apply (loan : Loan) : Operation → Loan
  | recallTo due => loan.recallTo due
  | renew due policyId => loan.renew due policyId
  | renewByOverride due policyId => loan.renewByOverride due policyId
  | changeStatus status => loan.withStatus status

/-- The due date that an operation is given, if any. -/
def due? : Operation → Option Moment
  | recallTo due | renew due _ | renewByOverride due _ => some due
  | changeStatus _ => none

/-- Whether an operation is a recall that shortens a loan. -/
def Shortens (loan : Loan) : Operation → Prop
  | recallTo due => due < loan.due
  | _ => False

/-- Whether an operation renews a loan. -/
def IsRenewal : Operation → Prop
  | renew _ _ | renewByOverride _ _ => True
  | _ => False

instance (loan : Loan) : DecidablePred (Shortens loan)
  | recallTo _ => inferInstanceAs (Decidable (_ < _))
  | renew _ _ | renewByOverride _ _ | changeStatus _ => inferInstanceAs (Decidable False)

instance : DecidablePred IsRenewal
  | renew _ _ | renewByOverride _ _ => inferInstanceAs (Decidable True)
  | recallTo _ | changeStatus _ => inferInstanceAs (Decidable False)

/-- Whether an operation sets the due date of a loan: every renewal does, and a recall if it
shortens the loan. -/
def SetsDue (loan : Loan) (op : Operation) : Prop := op.IsRenewal ∨ op.Shortens loan

instance (loan : Loan) : DecidablePred (SetsDue loan) :=
  fun _ => inferInstanceAs (Decidable (_ ∨ _))

/-- The due date after an operation is the one that it sets, or else the one before. -/
theorem due_apply (loan : Loan) (op : Operation) :
    some (op.apply loan).due = if op.SetsDue loan then op.due? else some loan.due := by
  cases op with
  | recallTo due =>
    -- a recall looks whether the loan is due by then anyway, the predicate whether it is not
    simp only [apply, Loan.recallTo, SetsDue, IsRenewal, Shortens, due?, false_or, ← Moment.not_le]
    split <;> rfl
  | renew due policyId => simp [apply, Loan.renew, SetsDue, IsRenewal, due?]
  | renewByOverride due policyId =>
    simp [apply, Loan.renewByOverride, Loan.renew, SetsDue, IsRenewal, due?]
  | changeStatus status => simp [apply, withStatus, SetsDue, IsRenewal, Shortens]

/-- After an operation the due date counts as changed by a recall if the operation shortens the
loan, or if it did before. -/
theorem changedByRecall_apply (loan : Loan) (op : Operation) :
    (op.apply loan).dueDateChangedByRecall = true ↔
      op.Shortens loan ∨ loan.dueDateChangedByRecall = true := by
  cases op with
  | recallTo due =>
    simp only [apply, Loan.recallTo, Shortens, ← Moment.not_le]
    split <;> simp [*]
  | renew due policyId => simp [apply, Loan.renew, Shortens]
  | renewByOverride due policyId => simp [apply, Loan.renewByOverride, Loan.renew, Shortens]
  | changeStatus status => simp [apply, withStatus, Shortens]

end Operation

end Loan

/-- What a decision does with the loan is a renewal, or nothing. -/
theorem Renewal.loan_of_decide {renewal after : Renewal} {now : Moment}
    {days : Option AdjacentDays} {zone : Zone}
    (decided : renewal.decide now days zone = .ok after) :
    after.loan = renewal.loan ∨
      ∃ op : Loan.Operation, op.IsRenewal ∧ after.loan = op.apply renewal.loan := by
  obtain ⟨proposed, -, ended⟩ := Renewal.decidedAs_of_decide decided
  cases ended with
  | carriedOut clear => exact .inr ⟨.renew _ _, trivial, rfl⟩
  | overriding privileged violated => exact .inr ⟨.renewByOverride _ _, trivial, rfl⟩
  | refused barred violated => exact .inl rfl

namespace Loan

variable {loan : Loan} {history : List Operation}

/-! ## Histories -/

/-- A loan after a history, the most recent operation first. -/
def after (loan : Loan) : List Operation → Loan
  | [] => loan
  | op :: earlier => op.apply (loan.after earlier)

/-- The operation that set the due date of a loan most recently. -/
def lastSetter? (loan : Loan) : List Operation → Option Operation
  | [] => none
  | op :: earlier =>
    if op.SetsDue (loan.after earlier) then some op else loan.lastSetter? earlier

/-- Whether a recall has shortened the loan at some time. -/
def ShortenedIn (loan : Loan) (history : List Operation) : Prop :=
  ∃ op earlier, op :: earlier <:+ history ∧ op.Shortens (loan.after earlier)

/-- Whether the due date is the one of a recall. -/
def RecalledLast (loan : Loan) (history : List Operation) : Prop :=
  ∃ due, loan.lastSetter? history = some (.recallTo due)

/-- Whether the due date is the one of a renewal. -/
def RenewedLast (loan : Loan) (history : List Operation) : Prop :=
  ∃ op, loan.lastSetter? history = some op ∧ op.IsRenewal

/-- The due date is the one that was set last, or else the first one. -/
theorem due_after (loan : Loan) (history : List Operation) :
    (loan.after history).due = ((loan.lastSetter? history).bind (·.due?)).getD loan.due := by
  induction history with
  | nil => rfl
  | cons op earlier ih =>
    have set := op.due_apply (loan.after earlier)
    rw [after, lastSetter?]
    split_ifs at set ⊢ with sets
    · simp [← set]
    · rw [← ih]
      exact Option.some.inj set

theorem shortenedIn_cons_iff {op : Operation} {earlier : List Operation} :
    loan.ShortenedIn (op :: earlier) ↔
      op.Shortens (loan.after earlier) ∨ loan.ShortenedIn earlier := by
  simp only [ShortenedIn, List.suffix_cons_iff]
  constructor
  · rintro ⟨other, others, same | listed, shortens⟩
    · obtain ⟨rfl, rfl⟩ := List.cons.inj same
      exact .inl shortens
    · exact .inr ⟨other, others, listed, shortens⟩
  · rintro (shortens | ⟨other, others, listed, shortens⟩)
    · exact ⟨op, earlier, .inl rfl, shortens⟩
    · exact ⟨other, others, .inr listed, shortens⟩

/-- The mark of a recall is never taken back. -/
theorem changedByRecall_after_iff (loan : Loan) (history : List Operation) :
    (loan.after history).dueDateChangedByRecall = true ↔
      loan.ShortenedIn history ∨ loan.dueDateChangedByRecall = true := by
  induction history with
  | nil => simp [after, ShortenedIn]
  | cons op earlier ih => rw [after, op.changedByRecall_apply, ih, shortenedIn_cons_iff, or_assoc]

/-- A due date of a recall was shortened by it. -/
theorem RecalledLast.shortenedIn (last : loan.RecalledLast history) : loan.ShortenedIn history := by
  obtain ⟨due, last⟩ := last
  induction history with
  | nil => simp [lastSetter?] at last
  | cons op earlier ih =>
    rw [lastSetter?] at last
    rw [shortenedIn_cons_iff]
    split_ifs at last with sets
    · -- a recall is no renewal, and sets the due date only by shortening the loan
      obtain rfl := Option.some.inj last
      exact .inl (sets.resolve_left fun renews => renews)
    · exact .inr (ih last)

/-- A loan that was shortened once has a due date of a recall, or was renewed since. -/
theorem ShortenedIn.recalledLast_or_renewedLast (shortened : loan.ShortenedIn history) :
    loan.RecalledLast history ∨ loan.RenewedLast history := by
  induction history with
  | nil => simp [ShortenedIn] at shortened
  | cons op earlier ih =>
    unfold RecalledLast RenewedLast
    rw [lastSetter?]
    split_ifs with sets
    · rcases sets with renews | shortens
      · exact .inr ⟨op, rfl, renews⟩
      · cases op with
        | recallTo due => exact .inl ⟨due, rfl⟩
        | _ => exact shortens.elim
    · -- the operation leaves the due date as it was, so that it is no recall that shortens the loan
      refine ih ((shortenedIn_cons_iff.mp shortened).resolve_left fun shortens => ?_)
      exact sets (.inr shortens)

theorem RenewedLast.not_recalledLast (last : loan.RenewedLast history) :
    ¬ loan.RecalledLast history := by
  rintro ⟨due, recalled⟩
  obtain ⟨op, renewed, renews⟩ := last
  obtain rfl := Option.some.inj (recalled.symm.trans renewed)
  exact renews

/-- A loan that was shortened still has the due date of a recall, unless it was renewed last. -/
theorem shortenedIn_iff_recalledLast_iff :
    (loan.ShortenedIn history ↔ loan.RecalledLast history) ↔
      ¬ (loan.ShortenedIn history ∧ loan.RenewedLast history) := by
  constructor
  · rintro same ⟨shortened, renewed⟩
    exact renewed.not_recalledLast (same.mp shortened)
  · intro unrenewed
    refine ⟨fun shortened => ?_, RecalledLast.shortenedIn⟩
    apply shortened.recalledLast_or_renewedLast.resolve_right
    exact fun renewed => unrenewed ⟨shortened, renewed⟩

/-! ## The mark of a recall -/

/-- The grace of a loan is the one that its policy grants, unless the mark of a recall takes it. -/
theorem graceMinutes_eq_or (policy : Option LoanPolicy) (fine : FinePolicy)
    (unmarked : loan.dueDateChangedByRecall = false) (other : Loan) :
    other.graceMinutes policy fine = loan.graceMinutes policy fine ∨
      other.dueDateChangedByRecall = true ∧ fine.graceAfterRecall = false := by
  unfold graceMinutes
  cases policy.bind (·.gracePeriod) with
  | none => exact .inl rfl
  | some grace =>
    cases marked : other.dueDateChangedByRecall <;> cases granted : fine.graceAfterRecall <;>
      simp [unmarked]

/-- **The mark of a recall.** A loan without the mark has it after a history exactly if some recall
has shortened the loan. So the mark tells whether the due date is the one of a recall, except that
it is kept when the loan is renewed after such a recall and not shortened again. Otherwise grace is
lost only to a recall that the due date comes from. -/
theorem changedByRecall_iff_recalledLast (history : List Operation)
    (unmarked : loan.dueDateChangedByRecall = false) :
    ((loan.after history).dueDateChangedByRecall = true ↔ loan.ShortenedIn history) ∧
      (((loan.after history).dueDateChangedByRecall = true ↔ loan.RecalledLast history) ↔
        ¬ (loan.ShortenedIn history ∧ loan.RenewedLast history)) ∧
      (¬ (loan.ShortenedIn history ∧ loan.RenewedLast history) →
        ∀ policy fine, (loan.after history).graceMinutes policy fine =
            loan.graceMinutes policy fine ∨
          loan.RecalledLast history ∧ fine.graceAfterRecall = false) := by
  have marked : (loan.after history).dueDateChangedByRecall = true ↔ loan.ShortenedIn history := by
    rw [changedByRecall_after_iff, unmarked]
    simp
  rw [marked]
  refine ⟨Iff.rfl, shortenedIn_iff_recalledLast_iff, fun unrenewed policy fine => ?_⟩
  refine (graceMinutes_eq_or policy fine unmarked (loan.after history)).imp_right ?_
  rintro ⟨recalled, ungranted⟩
  exact ⟨(shortenedIn_iff_recalledLast_iff.mpr unrenewed).mp (marked.mp recalled), ungranted⟩

/-- A loan that is due on the eleventh of January. -/
def januaryLoan : Loan where
  id := "loan-1"
  due := .showing ⟨738895, by decide⟩ startOfDay .utc

/-- The loan is recalled until the fifth, and then renewed until the twenty-first. -/
def recalledThenRenewed : List Operation :=
  [.renew (.showing ⟨738905, by decide⟩ startOfDay .utc) none,
    .recallTo (.showing ⟨738889, by decide⟩ startOfDay .utc)]

/-- With the recall the loan is marked, and its due date is the one of the recall. -/
theorem recalled_januaryLoan :
    januaryLoan.RecalledLast recalledThenRenewed.tail ∧
      (januaryLoan.after recalledThenRenewed.tail).dueDateChangedByRecall = true := by
  have last : januaryLoan.RecalledLast recalledThenRenewed.tail := ⟨_, by rfl⟩
  obtain ⟨marked, -, -⟩ :=
    @changedByRecall_iff_recalledLast januaryLoan recalledThenRenewed.tail rfl
  exact ⟨last, marked.mpr last.shortenedIn⟩

/-- With the renewal it is still marked, though the due date is the one of the renewal. -/
theorem not_always_recalledLast : ¬ ∀ (loan : Loan) (history : List Operation),
    loan.dueDateChangedByRecall = false →
      ((loan.after history).dueDateChangedByRecall = true ↔ loan.RecalledLast history) := by
  intro right
  have marked : (januaryLoan.after recalledThenRenewed).dueDateChangedByRecall = true := by decide
  obtain ⟨due, last⟩ := (right januaryLoan recalledThenRenewed rfl).mp marked
  revert last
  simp [lastSetter?, recalledThenRenewed, Operation.SetsDue, Operation.IsRenewal]

end Loan

end Lending
