import Lending.DueDate
import Lending.Proofs.Except

/-!
# Schedules without a range for the date

A candidate due date may fail because a schedule has no range for a date: the schedule that fixes
the due dates of a policy, or the one that limits those of a rolling period. The failure then gives
a reason, which names the loan date or the renewal date. Fixed due dates give the reason that
belongs to what is calculated. A limit is always looked up with the reason for loan dates, so that a
renewal for a rolling period gives a reason that is not its own.

## Main definitions

* `Schedule.Lacks` — a schedule that has no range for the date of a moment
* `Schedule.missingRange` — what is reported of it
* `LoanPolicy.HasEnd` — a period that leads to a due date
* `LoanPolicy.renewalReason` — the reason that a renewal gives

## Main results

* `Schedule.dueFor_eq_error_iff`, `Schedule.limit_eq_error_iff` — when a schedule fails, and how
* `LoanPolicy.rolling_eq_rangeMissing_iff` — when a limited period fails for want of a range
* `LoanPolicy.candidates_eq_rangeMissing_iff` — when the candidates do, and the reasons they give
-/

namespace Lending

/-! ## Schedules -/

namespace Schedule

variable {schedule : Schedule} {reference due : Moment} {zone : Zone} {reason : String}
variable {failure : Failure}

/-- A schedule lacks a range for the date on which a moment falls in a zone. -/
def Lacks (schedule : Schedule) (reference : Moment) (zone : Zone) (date : Date) : Prop :=
  reference.dateIn zone = .ok date ∧ schedule.range? date = none

/-- The report that a schedule lacks a range for a date. -/
def missingRange (schedule : Schedule) (reason : String) (date : Date) : Failure :=
  .rangeMissing reason [("scheduleId", .ofId schedule.id), ("date", .text date.iso)]

/-- A schedule fails only for want of a range, and with the reason that it was given. -/
theorem dueFor_eq_error_iff :
    (schedule.dueFor reference zone reason).result = .ok (.error failure) ↔
      ∃ date, schedule.Lacks reference zone date ∧ failure = schedule.missingRange reason date := by
  rw [dueFor, Calculation.result_lift_bind_eq_ok_iff]
  refine exists_congr fun date => ?_
  rw [Lacks, and_assoc]
  refine and_congr_right fun _ => ?_
  cases schedule.range? date with
  | none => simp [missingRange, eq_comm]
  | some range => simp

/-- A limit fails as the schedule does, with the reason for loan dates. -/
theorem limit_eq_error_iff :
    (schedule.limit due reference zone).result = .ok (.error failure) ↔
      ∃ date, schedule.Lacks reference zone date ∧
        failure = schedule.missingRange loanDateOutsideRanges date := by
  rw [← dueFor_eq_error_iff, limit, Calculation.result_bind_eq_ok_iff]
  simp

end Schedule

/-! ## Candidates -/

/-- The moment from which a renewal is counted. -/
def RenewFrom.moment (loan : Loan) (now : Moment) : RenewFrom → Moment
  | currentDueDate => loan.due
  | systemDate => now

namespace LoanPolicy

variable (policy : LoanPolicy)

/-- A period is usable and leads from a moment to a due date. -/
def HasEnd (period : Option Period) (reference : Moment) (zone : Zone) : Prop :=
  ∃ usable due, policy.usablePeriod period = .ok usable ∧ usable.addTo reference zone = .ok due

/-- The reason that a renewal gives if a schedule lacks a range for the date. -/
def renewalReason : String :=
  if policy.isFixed then renewalDateOutsideRanges else loanDateOutsideRanges

variable {policy} {period : Option Period} {reference limitReference : Moment} {limit : Schedule}
variable {zone : Zone} {reason : String} {details : Parameters}

/-- A period that is not usable is reported as such. -/
theorem usablePeriod_ne_rangeMissing :
    policy.usablePeriod period ≠ .error (.rangeMissing reason details) := by
  unfold usablePeriod
  split
  · simp
  · split
    · simp
    · split <;> simp

/-- A rolling period fails for want of a range if it has an end, and there is a limit to it that
lacks a range. -/
theorem rolling_eq_rangeMissing_iff :
    (policy.rolling period reference limit limitReference zone).result =
        .ok (.error (.rangeMissing reason details)) ↔
      limit.isEmpty = false ∧ policy.HasEnd period reference zone ∧
        ∃ date, limit.Lacks limitReference zone date ∧
          .rangeMissing reason details = limit.missingRange loanDateOutsideRanges date := by
  unfold rolling
  constructor
  · intro failed
    rcases Calculation.result_bind_eq_ok_iff.mp failed with
      ⟨_, unusable, same⟩ | ⟨usable, given, rest⟩
    · rw [← Except.error.inj same] at unusable
      exact absurd (Except.ok.inj unusable) usablePeriod_ne_rangeMissing
    · obtain ⟨due, ends, rest⟩ := Calculation.result_lift_bind_eq_ok_iff.mp rest
      split at rest
      · simp at rest
      · next ranged =>
        exact ⟨Bool.eq_false_iff.mpr ranged, ⟨usable, due, Except.ok.inj given, ends⟩,
          Schedule.limit_eq_error_iff.mp rest⟩
  · rintro ⟨ranged, ⟨usable, due, given, ends⟩, lacks⟩
    refine Calculation.result_bind_eq_ok_iff.mpr (.inr ⟨usable, congrArg Except.ok given, ?_⟩)
    refine Calculation.result_lift_bind_eq_ok_iff.mpr ⟨due, ends, ?_⟩
    rw [ranged]
    exact Schedule.limit_eq_error_iff.mpr lacks

/-- **Missing ranges.** A loan that is lent under a policy fails for want of a range if the loan
schedule lacks one for the loan date: always under a fixed policy, and under a rolling one if the
schedule has ranges at all and the period leads to an end for it to limit. It gives the reason for
loan dates. A renewal fails for want of a range if the schedule for renewals lacks one for the
current date, in the same two cases. It gives the reason for renewals exactly under a fixed
policy. -/
theorem candidates_eq_rangeMissing_iff (policy : LoanPolicy) (loan : Loan) (loanDate now : Moment)
    (queue : Option RequestQueue) (zone : Zone) (reason : String) (details : Parameters) :
    ((policy.checkoutCandidate loanDate queue zone).result =
        .ok (.error (.rangeMissing reason details)) ↔
      policy.loanable = true ∧
        (policy.isFixed = true ∨
          policy.loanSchedule.isEmpty = false ∧
            policy.HasEnd (policy.checkoutPeriod queue) loanDate zone) ∧
        ∃ date, policy.loanSchedule.Lacks loanDate zone date ∧
          .rangeMissing reason details =
            policy.loanSchedule.missingRange loanDateOutsideRanges date) ∧
    ((policy.renewalCandidate loan now queue zone).result =
        .ok (.error (.rangeMissing reason details)) ↔
      (policy.isFixed = true ∨
        policy.scheduleForRenewal.isEmpty = false ∧
          ∃ anchor ∈ policy.renewals.renewFrom?,
            policy.HasEnd (policy.periodOfRenewal queue) (anchor.moment loan now) zone) ∧
        ∃ date, policy.scheduleForRenewal.Lacks now zone date ∧
          .rangeMissing reason details =
            policy.scheduleForRenewal.missingRange policy.renewalReason date) ∧
    (policy.renewalReason = renewalDateOutsideRanges ↔ policy.isFixed = true) := by
  refine ⟨?_, ?_, ?_⟩
  · unfold checkoutCandidate
    cases policy.loanable with
    | false => simp
    | true =>
      cases policy.isFixed with
      | true => simpa using Schedule.dueFor_eq_error_iff
      | false => simpa [and_assoc] using rolling_eq_rangeMissing_iff
  · unfold renewalCandidate renewalReason
    cases policy.isFixed with
    | true => simpa using Schedule.dueFor_eq_error_iff
    | false =>
      cases policy.renewals.renewFrom? with
      | none => simp
      | some anchor =>
        cases anchor <;> simpa [and_assoc, RenewFrom.moment] using rolling_eq_rangeMissing_iff
  · unfold renewalReason
    cases policy.isFixed with
    | true => simp
    | false => simp [loanDateOutsideRanges, renewalDateOutsideRanges]

/-- The winter of 2022, in which all is due in the middle of February. -/
def winterSchedule : Schedule where
  id := some "winter"
  name := ""
  ranges := [⟨⟨738155, by decide⟩, ⟨738185, by decide⟩, .endOf ⟨738200, by decide⟩ .utc, by decide⟩]
  ordered := by simp

/-- Loans for ten days, in winter until the middle of February at the latest. -/
def tenDaysInWinter : LoanPolicy where
  id := some "ten-days"
  period := some (.of .days (some 10))
  loanSchedule := winterSchedule

/-- A loan that is due before the end of winter. -/
def winterLoan : Loan where
  id := "loan-1"
  due := .showing ⟨738174, by decide⟩ startOfDay .utc

/-- A renewal in March does not give the reason for renewals. -/
theorem not_always_own_reason : ¬ ∀ (policy : LoanPolicy) (loan : Loan) (now : Moment)
    (queue : Option RequestQueue) (zone : Zone) (reason : String) (details : Parameters),
    (policy.renewalCandidate loan now queue zone).result =
        .ok (.error (.rangeMissing reason details)) → reason = renewalDateOutsideRanges := by
  intro always
  let march : Moment := .showing ⟨738214, by decide⟩ startOfDay .utc
  have ends : tenDaysInWinter.HasEnd tenDaysInWinter.period winterLoan.due .utc :=
    ⟨.of .days (some 10), .showing ⟨738184, by decide⟩ startOfDay .utc, rfl, by rfl⟩
  have lacks : winterSchedule.Lacks march .utc march.wall.date := ⟨rfl, by decide⟩
  have failed : (tenDaysInWinter.renewalCandidate winterLoan march none .utc).result = _ :=
    rolling_eq_rangeMissing_iff.mpr ⟨rfl, ends, _, lacks, rfl⟩
  exact absurd (always _ _ _ _ _ _ _ failed) (by decide)

end LoanPolicy

end Lending
