import Lending.Overdue
import Lending.Proofs.Time.Rounding
import Lending.Proofs.Time.Steady

/-!
# Elapsed overdue time

Overdue time is meant as elapsed time. If closed time counts, it is the distance of two moments, and
moments of one zone are subtracted by their wall clocks. So the time that is counted drifts from the
time that has passed by as much as that zone reads the two moments at different distances from
universal time. The minutes are right exactly if no full minute lies between the two times: always
if the moments are in step, which is to say that there is no such drift, and never if the drift is
a minute or longer, unless not even the first minute is full.

## Main definitions

* `Moment.drift` — the time that is counted but has not passed
* `Moment.InStep` — moments whose distance is that of their instants
* `Moment.fullMinutes` — the minutes that have passed between two moments

## Main results

* `Moment.since_eq_sub_iff` — when moments are subtracted by their instants
* `Loan.overdueMinutes_eq_fullMinutes_iff` — when overdue minutes are those that have passed
-/

namespace Lending

namespace Moment

variable {a b : Moment}

/-! ## Moments in step -/

/-- Two moments are in step unless one zone reads them at different distances from universal
time. -/
def InStep (a b : Moment) : Prop := a.zone = b.zone → a.offset = b.offset

instance (a b : Moment) : Decidable (a.InStep b) :=
  inferInstanceAs (Decidable (_ → _))

/-- By how much the distance of two moments exceeds that of their instants. -/
def drift (a b : Moment) : Int := if a.zone = b.zone then (a.offset - b.offset) * 1000000 else 0

theorem since_eq_sub_add_drift (a b : Moment) :
    a.since b = a.instant - b.instant + a.drift b := by
  unfold since drift instant
  split <;> omega

theorem drift_eq_zero_iff : a.drift b = 0 ↔ a.InStep b := by
  unfold drift InStep
  by_cases same : a.zone = b.zone
  · rw [if_pos same, forall_prop_of_true same]
    omega
  · simp [same]

/-- The drift within a zone comes from readings that are less than two days apart. -/
theorem natAbs_drift_lt (a b : Moment) : (a.drift b).natAbs < 172800000000 := by
  unfold drift
  split
  · next same =>
    have near :=
      a.zone.natAbs_interpretation_sub_lt a.wall.micros b.wall.micros a.secondPass b.secondPass
    unfold offset
    rw [← same]
    omega
  · decide

/-- Moments are as far apart as their instants exactly if they are in step. -/
theorem since_eq_sub_iff : a.since b = a.instant - b.instant ↔ a.InStep b := by
  rw [← drift_eq_zero_iff, since_eq_sub_add_drift]
  omega

theorem InStep.symm (inStep : a.InStep b) : b.InStep a :=
  fun same => (inStep same.symm).symm

theorem inStep_of_neverChanges (never : a.zone.NeverChanges) : a.InStep b :=
  since_eq_sub_iff.mp (since_eq_sub never)

/-- The full minutes that have passed from one moment to another, none if the other is earlier. -/
def fullMinutes (start stop : Moment) : Nat := (stop.instant - start.instant).toNat / 60000000

end Moment

/-! ## Overdue minutes -/

/-- The date with a number, counted from the first one of the calendar and around its end. -/
def Date.ofDay (day : Nat) : Date := ⟨day % 3652059, by omega⟩

/-- A time of day on the hour, counted around midnight. -/
def TimeOfDay.ofHour (hour : Nat) : TimeOfDay := ⟨hour % 24 * 3600000000, by omega⟩

/-- A span has a number of full units, one at least, exactly if it is as long as these. -/
theorem le_toNat_div_iff {span : Int} {count unit : Nat} (positive : 0 < unit)
    (counted : 1 ≤ count) : count ≤ span.toNat / unit ↔ count * unit ≤ span := by
  have full : 0 < count * unit := Nat.mul_pos counted positive
  rw [Nat.le_div_iff_mul_le positive]
  omega

/-- Two spans have the same number of full units exactly if no full unit lies between them. -/
theorem toNat_div_eq_iff {a b : Int} {unit : Nat} (positive : 0 < unit) :
    a.toNat / unit = b.toNat / unit ↔
      ∀ count : Nat, 1 ≤ count → (count * unit ≤ a ↔ count * unit ≤ b) := by
  constructor
  · intro equal count counted
    rw [← le_toNat_div_iff positive counted, equal, le_toNat_div_iff positive counted]
  · intro between
    refine eq_of_forall_le_iff fun count => ?_
    rcases Nat.eq_zero_or_pos count with rfl | counted
    · simp
    · rw [le_toNat_div_iff positive counted, le_toNat_div_iff positive counted]
      exact between count counted

namespace Loan

variable {loan : Loan} {policy : Option LoanPolicy} {fine : FinePolicy} {now : Moment}
variable {days : Option (List OpeningDay)} {zone : Zone}

/-- If closed time counts and there is no grace, the overdue minutes are those from the due date
until now. -/
theorem overdueMinutes_of_countClosed (counts : fine.countClosed = true)
    (noGrace : loan.graceMinutes policy fine = 0) :
    loan.overdueMinutes policy fine now days zone = .ok (minutesBetween loan.due now) := by
  unfold overdueMinutes
  split
  · next notDue =>
    -- not even the minutes from the due date are any then
    rw [Moment.le_def] at notDue
    have none : (now.since loan.due).toNat = 0 := by omega
    rw [minutesBetween, wholeMinutes, none, Seconds.ofMicros_zero]
    rfl
  · simp [elapsedMinutes, counts, noGrace]

/-- **Overdue minutes.** If closed time counts and there is no grace, the minutes of a loan are the
full minutes of the time that has passed since the due date, with the drift of the clocks of the
zone. They are those that have passed exactly if no full minute lies between the two times. So they
are for moments in step; and if one zone reads the two moments at distances that are a minute or
more apart, they are only as long as no minute is full, by the clock and in fact. -/
theorem overdueMinutes_eq_fullMinutes_iff (counts : fine.countClosed = true)
    (noGrace : loan.graceMinutes policy fine = 0)
    (near : (now.instant - loan.due.instant).natAbs < 2 ^ 33 * 1000000) :
    let passed := now.instant - loan.due.instant
    let counted := passed + now.drift loan.due
    let right := loan.overdueMinutes policy fine now days zone = .ok (loan.due.fullMinutes now)
    loan.overdueMinutes policy fine now days zone = .ok (counted.toNat / 60000000 : Nat) ∧
      (right ↔ ∀ minute : Nat, 1 ≤ minute →
        (minute * 60000000 ≤ counted ↔ minute * 60000000 ≤ passed)) ∧
      (now.InStep loan.due → right) ∧
      (now.zone = loan.due.zone → 60 ≤ (now.offset - loan.due.offset).natAbs →
        (right ↔ counted < 60000000 ∧ passed < 60000000)) := by
  intro passed counted right
  have drift : counted = passed + now.drift loan.due := rfl
  have clock : loan.overdueMinutes policy fine now days zone =
      .ok (counted.toNat / 60000000 : Nat) := by
    have apart := now.natAbs_drift_lt loan.due
    rw [overdueMinutes_of_countClosed counts noGrace, minutesBetween, wholeMinutes,
      now.since_eq_sub_add_drift, Seconds.wholeMinutes_ofMicros (by omega)]
  have equal : right ↔ counted.toNat / 60000000 = passed.toNat / 60000000 := by
    simp only [right, clock, Except.ok.injEq, Nat.cast_inj, Moment.fullMinutes, passed]
  refine ⟨clock, equal.trans (toNat_div_eq_iff (by decide)), fun inStep => ?_,
    fun same apart => ?_⟩
  · rw [equal, drift, Moment.drift_eq_zero_iff.mpr inStep, Int.add_zero]
  · -- times that are a minute apart have as many full minutes only if they have none
    have long : 60000000 ≤ (now.drift loan.due).natAbs := by
      rw [Moment.drift, if_pos same]
      omega
    rw [equal]
    omega

/-- A loan due at one o'clock in New York, in the night in which clocks are advanced there. -/
def springNight : Loan where
  id := "loan-1"
  due := .showing (.ofDay 738954) (.ofHour 1) (.region .newYork)

/-- Three o'clock in that night. -/
def springDawn : Moment :=
  .showing (.ofDay 738954) (.ofHour 3) (.region .newYork)

/-- Of the two hours that are counted then only one has passed: at three o'clock clocks are read an
hour further to the east than at one. -/
theorem overdueMinutes_springNight :
    springDawn.offset - springNight.due.offset = 3600 ∧
      springNight.overdueMinutes none {} springDawn none .utc = .ok 120 ∧
      springNight.due.fullMinutes springDawn = 60 ∧
      springNight.overdueMinutes none {} springDawn none .utc ≠
        .ok (springNight.due.fullMinutes springDawn) := by
  obtain ⟨clock, -, -, apart⟩ := @overdueMinutes_eq_fullMinutes_iff springNight none {} springDawn
    none .utc rfl rfl (by decide)
  exact ⟨by decide, clock.trans (by decide), by decide,
    mt (apart rfl (by decide)).mp (by decide)⟩

/-- Overdue minutes are not always those that have passed. -/
theorem not_always_fullMinutes : ¬ ∀ (loan : Loan) (policy : Option LoanPolicy) (fine : FinePolicy)
    (now : Moment) (days : Option (List OpeningDay)) (zone : Zone),
    fine.countClosed = true → loan.graceMinutes policy fine = 0 →
    (now.instant - loan.due.instant).natAbs < 2 ^ 33 * 1000000 →
      loan.overdueMinutes policy fine now days zone = .ok (loan.due.fullMinutes now) := by
  intro elapsed
  have equal := elapsed springNight none {} springDawn none .utc rfl rfl (by decide)
  rw [overdueMinutes_of_countClosed rfl rfl] at equal
  revert equal
  decide

end Loan

end Lending
