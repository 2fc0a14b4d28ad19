import Lending.Proofs.Overdue.Elapsed

/-!
# Grace

The grace period of a loan policy is taken off the overdue minutes, of which there are never less
than none. Its duration is taken as it is stored. A period for which an item is lent must be of a
known unit and longer than nothing, but nothing is asked of a grace period: with a unit that is not
known it grants no grace, and with a negative duration it runs backwards. Taking it off then adds
minutes for which no item was overdue.

## Main definitions

* `LoanPolicy.withoutGrace` — a loan policy that grants no grace
* `Loan.grantedGrace` — the grace period that takes effect for a loan
* `Period.RunsBackwards` — a period of a negative number of known units

## Main results

* `Loan.graceMinutes_neg_iff` — grace is negative exactly if its period runs backwards
* `Loan.overdueMinutes_eq` — overdue minutes in one equation
* `Loan.overdueMinutes_le_withoutGrace_iff` — when a grace period adds no overdue minutes
-/

namespace Lending

/-! ## Grace periods -/

/-- A period of a negative number of units that are known. -/
def Period.RunsBackwards (period : Period) : Prop :=
  period.unit?.isSome = true ∧ ∃ duration ∈ period.duration, duration < 0

namespace Period

variable {period : Period}

theorem toMinutes_neg_iff : period.toMinutes < 0 ↔ period.RunsBackwards := by
  unfold toMinutes RunsBackwards
  cases period.unit? with
  | none => simp
  | some unit =>
    cases period.duration with
    | none => simp
    | some duration =>
      -- every unit has minutes, so that the sign is that of the duration
      have sign : duration * unit.toMinutes < 0 ↔ duration < 0 := by
        cases unit <;> simp only [PeriodUnit.toMinutes] <;> omega
      simpa using sign

/-- A period that could be lent for does not run backwards. -/
theorem not_runsBackwards_of_isValid (valid : period.isValid = true) : ¬ period.RunsBackwards := by
  rintro ⟨-, duration, given, negative⟩
  simp only [isValid, Option.mem_def.mp given, Option.any_some, Bool.and_eq_true,
    decide_eq_true_eq] at valid
  omega

end Period

/-- The policy without its grace period. -/
def LoanPolicy.withoutGrace (policy : LoanPolicy) : LoanPolicy :=
  { policy with gracePeriod := none }

/-- A policy about which only its grace period is known. -/
def LoanPolicy.ofGrace (duration : Int) (unit : PeriodUnit) : LoanPolicy where
  id := none
  gracePeriod := some (.of unit (some duration))

namespace Loan

variable {loan : Loan} {policy : LoanPolicy} {fine : FinePolicy} {now : Moment}
variable {days : Option (List OpeningDay)} {zone : Zone}

/-- The grace period that takes effect for a loan: that of the policy, except after a recall under a
fine policy that grants no grace then. -/
def grantedGrace (loan : Loan) (policy : LoanPolicy) (fine : FinePolicy) : Option Period :=
  if loan.dueDateChangedByRecall && !fine.graceAfterRecall then none else policy.gracePeriod

theorem isValid_of_grantedGrace (valid : ∀ grace ∈ policy.gracePeriod, grace.isValid = true) :
    ∀ grace ∈ loan.grantedGrace policy fine, grace.isValid = true := by
  unfold grantedGrace
  split
  · simp
  · exact valid

theorem graceMinutes_eq :
    loan.graceMinutes (some policy) fine =
      ((loan.grantedGrace policy fine).map Period.toMinutes).getD 0 := by
  simp only [graceMinutes, grantedGrace, Option.bind_some]
  split <;> split <;> simp_all

theorem graceMinutes_withoutGrace : loan.graceMinutes (some policy.withoutGrace) fine = 0 := rfl

/-- Grace is negative exactly if the period that takes effect runs backwards. -/
theorem graceMinutes_neg_iff :
    loan.graceMinutes (some policy) fine < 0 ↔
      ∃ grace ∈ loan.grantedGrace policy fine, grace.RunsBackwards := by
  rw [graceMinutes_eq]
  cases loan.grantedGrace policy fine with
  | none => simp
  | some grace => simpa using Period.toMinutes_neg_iff

/-! ## Overdue minutes -/

/-- Overdue minutes are those that have passed, less the grace. -/
theorem overdueMinutes_eq {policy : Option LoanPolicy} :
    loan.overdueMinutes policy fine now days zone =
      if now ≤ loan.due then .ok 0
      else (loan.elapsedMinutes fine now days zone).map fun elapsed =>
        max (elapsed - loan.graceMinutes policy fine) 0 := by
  unfold overdueMinutes
  cases loan.elapsedMinutes fine now days zone <;> rfl

/-- **Grace.** Whether overdue minutes can be counted does not depend on the grace period. If they
can, the grace of an overdue loan is taken off those that are counted without it, down to none. So a
grace period adds no overdue minutes, unless the loan is overdue and the grace that takes effect
runs backwards; a valid period never does. -/
theorem overdueMinutes_le_withoutGrace_iff (loan : Loan) (policy : LoanPolicy) (fine : FinePolicy)
    (now : Moment) (days : Option (List OpeningDay)) (zone : Zone) :
    (∀ fault, loan.overdueMinutes (some policy) fine now days zone = .error fault ↔
      loan.overdueMinutes (some policy.withoutGrace) fine now days zone = .error fault) ∧
    ∀ full, loan.overdueMinutes (some policy.withoutGrace) fine now days zone = .ok full →
      ∃ counted, loan.overdueMinutes (some policy) fine now days zone = .ok counted ∧
        (loan.due < now → counted = max (full - loan.graceMinutes (some policy) fine) 0) ∧
        (counted ≤ full ↔
          ¬ (loan.due < now ∧ ∃ grace ∈ loan.grantedGrace policy fine, grace.RunsBackwards)) ∧
        ((∀ grace ∈ policy.gracePeriod, grace.isValid = true) → counted ≤ full) := by
  have validGrace (valid : ∀ grace ∈ policy.gracePeriod, grace.isValid = true) :
      ¬ loan.graceMinutes (some policy) fine < 0 := by
    rw [graceMinutes_neg_iff]
    rintro ⟨grace, granted, backwards⟩
    have isValid := isValid_of_grantedGrace valid grace granted
    exact Period.not_runsBackwards_of_isValid isValid backwards
  rw [← graceMinutes_neg_iff, ← Moment.not_le]
  simp only [overdueMinutes_eq, graceMinutes_withoutGrace]
  generalize loan.graceMinutes (some policy) fine = grace at *
  by_cases due : now ≤ loan.due
  · simp [due]
  · simp only [due, if_false, not_false_eq_true, true_and, forall_const]
    cases loan.elapsedMinutes fine now days zone with
    | error fault => simp [Except.map]
    | ok elapsed =>
      refine ⟨by simp [Except.map], ?_⟩
      intro full counted
      obtain rfl := Except.ok.inj counted
      dsimp only
      refine ⟨max (elapsed - grace) 0, rfl, by omega, by omega, fun valid => ?_⟩
      have := validGrace valid
      omega

/-- A loan due at ten o'clock. -/
def tenOClockLoan : Loan where
  id := "loan-1"
  due := .showing (.ofDay 738885) (.ofHour 10) .utc

/-- An hour later. -/
def elevenOClock : Moment := .showing (.ofDay 738885) (.ofHour 11) .utc

/-- Five minutes of grace are taken off the hour that has passed. -/
theorem overdueMinutes_tenOClockLoan :
    tenOClockLoan.overdueMinutes (some (.ofGrace 5 .minutes)) {} elevenOClock none .utc = .ok 55 ∧
      (55 : Int) ≤ 60 := by
  have counts : tenOClockLoan.overdueMinutes (some (.ofGrace 5 .minutes)) {} elevenOClock none
      .utc = .ok 55 := by decide
  obtain ⟨counted, same, -, -, valid⟩ :=
    (overdueMinutes_le_withoutGrace_iff tenOClockLoan (.ofGrace 5 .minutes) {} elevenOClock none
      .utc).2 60 (by decide)
  obtain rfl : 55 = counted := Except.ok.inj (counts.symm.trans same)
  exact ⟨counts, valid (by decide)⟩

/-- With a grace period of minus five minutes, an hour counts for more than an hour. -/
theorem not_always_le_withoutGrace :
    ¬ ∀ (loan : Loan) (policy : LoanPolicy) (fine : FinePolicy) (now : Moment)
      (days : Option (List OpeningDay)) (zone : Zone) (counted full : Int),
      loan.overdueMinutes (some policy) fine now days zone = .ok counted →
        loan.overdueMinutes (some policy.withoutGrace) fine now days zone = .ok full →
        counted ≤ full := by
  intro always
  have le : (65 : Int) ≤ 60 :=
    always tenOClockLoan (.ofGrace (-5) .minutes) {} elevenOClock none .utc 65 60
      (by decide) (by decide)
  omega

end Loan

end Lending
