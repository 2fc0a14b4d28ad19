import Lending.Proofs.DueDate.Faults
import Lending.Proofs.Period.Elapsed
import Lending.Proofs.Renewal.Decision
import Lending.Proofs.Time.Civil

/-!
# How far due dates can be calculated

The durations of a policy are not limited, but the calendar is. Within it the calculation of a due
date comes to an outcome, a due date or the reason why there is none; a period that leads beyond the
calendar stops the calculation, and so does a moment that the clocks of the zone cannot show. What
counts is the period that is used, and not even that one where nothing is lent or the policy gives
no usable one.

## Main definitions

* `Calculation.Returns` — a calculation that no fault stops
* `Moment.ShownIn` — the moments that a clock in a zone can show
* `PeriodUnit.EndsInCalendar`, `Period.EndsInCalendar` — how far each unit can be counted
* `LoanPolicy.CheckoutInCalendar`, `LoanPolicy.RenewalInCalendar`, `Renewal.DecidedInCalendar` — the
  periods and dates that a calculation uses
* `EndsWithin` — a step that gives a value within a range, and leaves the calendar beyond it

## Main results

* `Calculation.returns_bind_iff` — when a calculation of two parts returns
* `Period.addTo_isOk_iff` — a period leads to a moment exactly if it ends in the calendar
* `Period.not_endsInCalendar` — no unit can be counted for 9999 years
* `LoanPolicy.calculations_endWithin` — how far due dates can be calculated
-/

namespace Lending

/-! ## Calculations that return -/

section Returns

variable {α β : Type} {first : Calculation α} {next : α → Calculation β}

/-- A calculation that comes to an outcome: no fault stops it. -/
def Calculation.Returns (calculation : Calculation α) : Prop :=
  ∃ outcome, calculation.result = .ok outcome

namespace Calculation

@[simp] theorem returns_calculation (outcome : Outcome α) : outcome.calculation.Returns :=
  ⟨outcome, rfl⟩

@[simp] theorem returns_pure (a : α) : (pure a : Calculation α).Returns := ⟨.ok a, rfl⟩

@[simp] theorem returns_throw (failure : Failure) : (throw failure : Calculation α).Returns :=
  ⟨.error failure, rfl⟩

@[simp] theorem returns_monadLift_iff {step : Except Fault α} :
    (monadLift step : Calculation α).Returns ↔ ∃ a, step = .ok a := by
  cases step <;> simp [Returns, Except.map]

/-- The second part of a calculation only has to return for the value of the first one. -/
theorem returns_bind_iff :
    (first >>= next).Returns ↔
      first.Returns ∧ ∀ a, first.result = .ok (.ok a) → (next a).Returns := by
  unfold Returns
  rw [result_bind]
  rcases first.result with fault | failure | a <;> simp

theorem returns_bind_iff_left (returns : ∀ a, (next a).Returns) :
    (first >>= next).Returns ↔ first.Returns := by
  rw [returns_bind_iff]
  exact and_iff_left fun a _ => returns a

end Calculation

end Returns

/-! ## Moments and periods -/

/-- The moments that a clock in a zone can show: those of the zone, and all others that the calendar
has. -/
def Moment.ShownIn (moment : Moment) (zone : Zone) : Prop :=
  moment.zone = zone ∨ zone.Reaches moment.instant

theorem Moment.dateIn_isOk_iff {moment : Moment} {zone : Zone} :
    (∃ date, moment.dateIn zone = .ok date) ↔ moment.ShownIn zone := by
  rw [ShownIn, ← isSome_inZone?_iff, dateIn, dateIn?]
  cases moment.inZone? zone <;> simp

/-- Whether the calendar has the end of a number of units. Minutes and hours are counted by the
clock of the moment's own zone, longer units by that of the given one. -/
def PeriodUnit.EndsInCalendar (unit : PeriodUnit) (count : Int) (moment : Moment) (zone : Zone) :
    Prop :=
  let micros := count * unit.toMinutes * 60000000
  match unit with
  | .minutes | .hours =>
    InCalendar (moment.wall.micros + micros) ∧
      (moment.zone = zone ∨ zone.Reaches (moment.movedInstant micros))
  | .days | .weeks => ∃ shown ∈ moment.inZone? zone, InCalendar (shown.wall.micros + micros)
  | .months =>
    ∃ shown ∈ moment.inZone? zone,
      1 ≤ shown.wall.date.yearAfter count ∧ shown.wall.date.yearAfter count ≤ 9999

instance (unit : PeriodUnit) (count : Int) (moment : Moment) (zone : Zone) :
    Decidable (unit.EndsInCalendar count moment zone) :=
  match unit with
  | .minutes | .hours => inferInstanceAs (Decidable (_ ∧ _))
  | .days | .weeks | .months => inferInstanceAs (Decidable (∃ shown ∈ moment.inZone? zone, _))

/-- Whether the calendar has the end of a period, which must be counted in a known unit. -/
def Period.EndsInCalendar (period : Period) (moment : Moment) (zone : Zone) : Prop :=
  ∃ unit ∈ period.unit?, unit.EndsInCalendar (period.duration.getD 0) moment zone

instance (period : Period) (moment : Moment) (zone : Zone) :
    Decidable (period.EndsInCalendar moment zone) :=
  inferInstanceAs (Decidable (∃ unit ∈ period.unit?, _))

namespace Period

variable {period : Period} {moment : Moment} {zone : Zone}

theorem addDays_isOk_iff {days : Int} :
    (∃ result, addDays days moment zone = .ok result) ↔
      ∃ shown ∈ moment.inZone? zone, InCalendar (shown.wall.micros + days * 86400000000) := by
  constructor
  · rintro ⟨result, h⟩
    obtain ⟨shown, inZone, h⟩ := bind_eq_ok.mp h
    obtain ⟨wall, moved, -⟩ := bind_eq_ok.mp h
    exact ⟨shown, Moment.inZone_eq_ok.mp inZone,
      WallClock.isSome_ofMicros?_iff.mp ⟨wall, Fault.require_eq_ok.mp moved⟩⟩
  · rintro ⟨shown, inZone, inCalendar⟩
    obtain ⟨wall, moved⟩ := WallClock.isSome_ofMicros?_iff.mpr inCalendar
    exact ⟨{ wall, zone }, bind_eq_ok.mpr ⟨shown, Moment.inZone_eq_ok.mpr inZone,
      bind_eq_ok.mpr ⟨wall, Fault.require_eq_ok.mpr moved, rfl⟩⟩⟩

theorem addMonths_isOk_iff {months : Int} :
    (∃ result, addMonths months moment zone = .ok result) ↔
      ∃ shown ∈ moment.inZone? zone, 1 ≤ shown.wall.date.yearAfter months ∧
        shown.wall.date.yearAfter months ≤ 9999 := by
  constructor
  · rintro ⟨result, h⟩
    obtain ⟨shown, inZone, h⟩ := bind_eq_ok.mp h
    obtain ⟨date, moved, -⟩ := bind_eq_ok.mp h
    exact ⟨shown, Moment.inZone_eq_ok.mp inZone, (Date.addMonths_isOk_iff _ _).mp ⟨date, moved⟩⟩
  · rintro ⟨shown, inZone, inCalendar⟩
    obtain ⟨date, moved⟩ := (Date.addMonths_isOk_iff _ _).mpr inCalendar
    exact ⟨_, bind_eq_ok.mpr ⟨shown, Moment.inZone_eq_ok.mpr inZone,
      bind_eq_ok.mpr ⟨date, moved, rfl⟩⟩⟩

/-- A missing duration counts as zero. -/
theorem toMinutes_of_unit? {unit : PeriodUnit} (named : period.unit? = some unit) :
    period.toMinutes = period.duration.getD 0 * unit.toMinutes := by
  unfold toMinutes
  cases period.duration <;> simp [named]

/-- A period of a known unit leads to a moment exactly if it ends in the calendar. -/
theorem addTo_isOk_iff (known : period.unit?.isSome = true) :
    (∃ result, period.addTo moment zone = .ok result) ↔ period.EndsInCalendar moment zone := by
  obtain ⟨unit, named⟩ := Option.isSome_iff_exists.mp known
  have ends : period.EndsInCalendar moment zone ↔
      unit.EndsInCalendar (period.duration.getD 0) moment zone := by
    simp [EndsInCalendar, named]
  rw [ends]
  cases unit with
  | minutes =>
    rw [addTo_eq_addMinutes (.inl named), toMinutes_of_unit? named]
    exact addMinutes_isOk_iff
  | hours =>
    rw [addTo_eq_addMinutes (.inr named), toMinutes_of_unit? named]
    exact addMinutes_isOk_iff
  | days =>
    have length (count : Int) : count * 1440 * 60000000 = count * 86400000000 := by omega
    simp only [addTo, named, addDays_isOk_iff, PeriodUnit.EndsInCalendar, PeriodUnit.toMinutes,
      length]
  | weeks =>
    have length (count : Int) : count * 10080 * 60000000 = count * 7 * 86400000000 := by omega
    simp only [addTo, named, addDays_isOk_iff, PeriodUnit.EndsInCalendar, PeriodUnit.toMinutes,
      length]
  | months => simp only [addTo, named, addMonths_isOk_iff, PeriodUnit.EndsInCalendar]

/-- The last day of the calendar is 2913173 days after New Year 2024. -/
example :
    let newYear : Moment := .showing ⟨738885, by decide⟩ startOfDay .utc
    (of .days (some 2913173)).EndsInCalendar newYear .utc ∧
      ¬ (of .days (some 2913174)).EndsInCalendar newYear .utc := by
  decide

/-- Whatever its unit and wherever it begins, a period of 9999 years does not end in the
calendar. -/
theorem not_endsInCalendar (overlong : 9999 * 12 * 44640 ≤ period.toMinutes) (moment : Moment)
    (zone : Zone) : ¬ period.EndsInCalendar moment zone := by
  rintro ⟨unit, named, ends⟩
  rw [toMinutes_of_unit? named] at overlong
  have beyond (wall : WallClock) :
      ¬ InCalendar (wall.micros + period.duration.getD 0 * unit.toMinutes * 60000000) := by
    rintro ⟨-, inCalendar⟩
    omega
  cases unit with
  | minutes | hours => exact beyond _ ends.1
  | days | weeks =>
    obtain ⟨shown, -, inCalendar⟩ := ends
    exact beyond _ inCalendar
  | months =>
    obtain ⟨shown, -, -, last⟩ := ends
    have year := shown.wall.date.one_le_year
    have month := shown.wall.date.one_le_month
    rw [PeriodUnit.toMinutes] at overlong
    rw [Date.yearAfter] at last
    omega

end Period

/-! ## Schedules and candidates -/

theorem Schedule.returns_dueFor_iff {schedule : Schedule} {reference : Moment} {zone : Zone}
    {reason : String} :
    (schedule.dueFor reference zone reason).Returns ↔ reference.ShownIn zone := by
  rw [dueFor, Calculation.returns_bind_iff_left, ← Moment.dateIn_isOk_iff]
  · exact Calculation.returns_monadLift_iff
  · intro date
    split <;> simp

theorem Schedule.returns_limit_iff {schedule : Schedule} {due reference : Moment} {zone : Zone} :
    (schedule.limit due reference zone).Returns ↔ reference.ShownIn zone := by
  rw [limit, Calculation.returns_bind_iff_left fun _ => Calculation.returns_pure _]
  exact returns_dueFor_iff

/-- Whether the calendar has the end of a period and the date for which a schedule that limits it is
looked up; a schedule without ranges is not. -/
def Period.LimitedInCalendar (period : Period) (reference : Moment) (limit : Schedule)
    (limitReference : Moment) (zone : Zone) : Prop :=
  period.EndsInCalendar reference zone ∧ (limit.isEmpty = false → limitReference.ShownIn zone)

namespace LoanPolicy

variable (policy : LoanPolicy)

/-- Whether the calendar has the end of a period as the schedule limits it; a period that is not
usable has no end to calculate. -/
def RollsInCalendar (period : Option Period) (reference : Moment) (limit : Schedule)
    (limitReference : Moment) (zone : Zone) : Prop :=
  ∀ usable, policy.usablePeriod period = .ok usable →
    usable.LimitedInCalendar reference limit limitReference zone

/-- Whether the calendar has the due date that the policy alone gives a loan. -/
def CheckoutInCalendar (loanDate : Moment) (queue : Option RequestQueue) (zone : Zone) : Prop :=
  policy.loanable = true →
    if policy.isFixed then loanDate.ShownIn zone
    else policy.RollsInCalendar (policy.checkoutPeriod queue) loanDate policy.loanSchedule
      loanDate zone

/-- Whether the calendar has the due date that the policy alone gives a renewal. -/
def RenewalInCalendar (loan : Loan) (now : Moment) (queue : Option RequestQueue) (zone : Zone) :
    Prop :=
  let rolls (reference : Moment) := policy.RollsInCalendar (policy.periodOfRenewal queue) reference
    policy.scheduleForRenewal now zone
  if policy.isFixed then now.ShownIn zone
  else match policy.renewals.renewFrom? with
    | none => True
    | some .currentDueDate => rolls loan.due
    | some .systemDate => rolls now

variable {policy} {loan : Loan} {queue : Option RequestQueue} {zone : Zone} {loanDate now : Moment}

theorem returns_rolling_iff {period : Option Period} {reference limitReference : Moment}
    {limit : Schedule} :
    (policy.rolling period reference limit limitReference zone).Returns ↔
      policy.RollsInCalendar period reference limit limitReference zone := by
  have limited (due : Moment) :
      (if limit.isEmpty then return due else limit.limit due limitReference zone :
        Calculation Moment).Returns ↔ (limit.isEmpty = false → limitReference.ShownIn zone) := by
    cases h : limit.isEmpty <;> simp [Schedule.returns_limit_iff]
  rw [rolling, Calculation.returns_bind_iff, and_iff_right (Calculation.returns_calculation _)]
  refine forall_congr' fun usable => ?_
  rw [Calculation.result_calculation, Except.ok.injEq]
  refine imp_congr_right fun given => ?_
  have added : (∃ due, usable.addTo reference zone = .ok due) ↔ _ :=
    Period.addTo_isOk_iff (policy.unit?_isSome_of_usablePeriod given)
  rw [Calculation.returns_bind_iff, Period.LimitedInCalendar, ← added]
  constructor
  · rintro ⟨ends, rest⟩
    obtain ⟨due, found⟩ := Calculation.returns_monadLift_iff.mp ends
    have shown := rest due (Calculation.result_monadLift_eq_ok.mpr found)
    exact ⟨⟨due, found⟩, (limited due).mp shown⟩
  · rintro ⟨ends, shown⟩
    exact ⟨Calculation.returns_monadLift_iff.mpr ends, fun due _ => (limited due).mpr shown⟩

theorem returns_checkoutCandidate_iff :
    (policy.checkoutCandidate loanDate queue zone).Returns ↔
      policy.CheckoutInCalendar loanDate queue zone := by
  unfold checkoutCandidate CheckoutInCalendar
  cases policy.loanable with
  | false => simp
  | true =>
    cases policy.isFixed with
    | true => simp [Schedule.returns_dueFor_iff]
    | false => simp [returns_rolling_iff]

theorem returns_renewalCandidate_iff :
    (policy.renewalCandidate loan now queue zone).Returns ↔
      policy.RenewalInCalendar loan now queue zone := by
  unfold renewalCandidate RenewalInCalendar
  cases policy.isFixed with
  | true => exact Schedule.returns_dueFor_iff
  | false =>
    cases policy.renewals.renewFrom? with
    | none => simp
    | some anchor => cases anchor <;> exact returns_rolling_iff

/-! ## Complete calculations -/

theorem returns_checkoutDueDate_iff :
    (policy.checkoutDueDate loanDate none queue zone).Returns ↔
      policy.CheckoutInCalendar loanDate queue zone := by
  rw [← returns_checkoutCandidate_iff]
  exact Calculation.returns_bind_iff_left fun candidate => ⟨_, rfl⟩

theorem returns_adjustedRenewal_iff :
    (policy.adjustedRenewal loan now none queue zone).Returns ↔
      policy.RenewalInCalendar loan now queue zone := by
  rw [← returns_renewalCandidate_iff]
  exact Calculation.returns_bind_iff_left fun candidate => ⟨_, rfl⟩

theorem returns_renewalDueDate_iff :
    (policy.renewalDueDate loan now none queue zone).Returns ↔
      policy.RenewalInCalendar loan now queue zone := by
  rw [← returns_adjustedRenewal_iff]
  exact Calculation.returns_bind_iff_left fun due => ⟨_, rfl⟩

end LoanPolicy

namespace Renewal

variable {renewal : Renewal} {now : Moment} {zone : Zone}

/-- Whether the calendar has the due date that a decision asks for; without permission and without
an override it asks for none. -/
def DecidedInCalendar (renewal : Renewal) (now : Moment) (zone : Zone) : Prop :=
  renewal.override = true ∨ renewal.Permitted →
    renewal.policy.RenewalInCalendar renewal.loan now (some renewal.queue) zone

theorem proposedDue_isOk_iff :
    (∃ proposed, renewal.proposedDue now none zone = .ok proposed) ↔
      renewal.DecidedInCalendar now zone := by
  rw [DecidedInCalendar, ← LoanPolicy.returns_adjustedRenewal_iff]
  simp only [proposedDue]
  split
  · next asked =>
    have permitted : renewal.override = true ∨ renewal.Permitted := by
      simpa [Permitted] using asked
    rw [forall_prop_of_true permitted, Calculation.Returns]
    cases (renewal.policy.adjustedRenewal renewal.loan now none (some renewal.queue)
      zone).result <;> simp [Except.map]
  · next unasked => simp_all [Permitted]

/-- Nothing stops a decision on a proposed due date. -/
theorem exists_decide_of_proposedDue {days : Option AdjacentDays}
    {proposed : Option (Outcome Moment)}
    (asked : renewal.proposedDue now days zone = .ok proposed) :
    ∃ after, renewal.decide now days zone = .ok after := by
  rw [decide, asked]
  simp only [bind, Except.bind]
  split
  · split
    · exact ⟨_, rfl⟩
    · split <;> exact ⟨_, rfl⟩
  · exact ⟨_, rfl⟩

theorem decide_isOk_iff :
    (∃ after, renewal.decide now none zone = .ok after) ↔ renewal.DecidedInCalendar now zone := by
  rw [← proposedDue_isOk_iff]
  constructor
  · rintro ⟨after, decided⟩
    obtain ⟨proposed, asked, -⟩ := bind_eq_ok.mp decided
    exact ⟨proposed, asked⟩
  · rintro ⟨proposed, asked⟩
    exact exists_decide_of_proposedDue asked

/-- On calendar days that describe the candidate a decision is made, unless its due date leads
beyond the calendar. -/
theorem stopsAtEnds_decide_of_describe {days : Option AdjacentDays}
    (describe : ∀ given ∈ days, ∀ candidate,
      (renewal.policy.renewalCandidate renewal.loan now (some renewal.queue) zone).result =
        .ok (.ok candidate) → given.Describe candidate zone) :
    StopsAtEnds (renewal.decide now days zone) := by
  have asks : StopsAtEnds (renewal.proposedDue now days zone) := by
    simp only [proposedDue]
    split
    · exact (renewal.policy.stopsAtEnds_adjustedRenewal renewal.loan _ zone describe).map some
    · exact stopsAtEnds_ok none
  intro fault stopped
  cases asked : renewal.proposedDue now days zone with
  | error cause =>
    rw [decide, asked] at stopped
    obtain rfl := Except.error.inj stopped
    exact asks cause asked
  | ok proposed =>
    obtain ⟨after, decided⟩ := exists_decide_of_proposedDue asked
    simp [decided] at stopped

theorem stopsAtEnds_decide : StopsAtEnds (renewal.decide now none zone) :=
  stopsAtEnds_decide_of_describe (by simp)

end Renewal

/-- A step that gives a value exactly within a range, and leaves the calendar beyond it. -/
structure EndsWithin {α : Type} (step : Except Fault α) (range : Prop) : Prop where
  returns_iff : (∃ a, step = .ok a) ↔ range
  stopsAtEnds : StopsAtEnds step

/-- **How far due dates can be calculated.** Without calendar days every calculation of a due date,
and the decision on a renewal, comes to an outcome as long as the period that it uses ends in the
calendar and the clocks of the zone can show the dates that it looks up. Beyond that the calendar is
left, and nothing else stops a calculation. -/
theorem LoanPolicy.calculations_endWithin (policy : LoanPolicy) (loan : Loan) (renewal : Renewal)
    (loanDate now : Moment) (queue : Option RequestQueue) (zone : Zone) :
    EndsWithin (policy.checkoutCandidate loanDate queue zone).result
      (policy.CheckoutInCalendar loanDate queue zone) ∧
    EndsWithin (policy.checkoutDueDate loanDate none queue zone).result
      (policy.CheckoutInCalendar loanDate queue zone) ∧
    EndsWithin (policy.renewalCandidate loan now queue zone).result
      (policy.RenewalInCalendar loan now queue zone) ∧
    EndsWithin (policy.renewalDueDate loan now none queue zone).result
      (policy.RenewalInCalendar loan now queue zone) ∧
    EndsWithin (renewal.decide now none zone) (renewal.DecidedInCalendar now zone) :=
  ⟨⟨returns_checkoutCandidate_iff, policy.stopsAtEnds_checkoutCandidate queue zone loanDate⟩,
    ⟨returns_checkoutDueDate_iff, policy.stopsAtEnds_checkoutDueDate queue zone (by simp)⟩,
    ⟨returns_renewalCandidate_iff, policy.stopsAtEnds_renewalCandidate loan queue zone now⟩,
    ⟨returns_renewalDueDate_iff, policy.stopsAtEnds_renewalDueDate loan queue zone (by simp)⟩,
    ⟨Renewal.decide_isOk_iff, Renewal.stopsAtEnds_decide⟩⟩

/-- A policy that lends for a trillion days. -/
def LoanPolicy.overlong : LoanPolicy :=
  { id := none, period := some (.of .days (some 1000000000000)) }

/-- No loan of the calendar has a due date under this policy, and no reason against it either. -/
theorem LoanPolicy.not_always_returns :
    ¬ ∀ (policy : LoanPolicy) (loanDate : Moment) (queue : Option RequestQueue) (zone : Zone),
      ∃ outcome, (policy.checkoutCandidate loanDate queue zone).result = .ok outcome := by
  intro returns
  let loanDate : Moment := .showing default startOfDay .utc
  have range : overlong.CheckoutInCalendar loanDate none .utc :=
    returns_checkoutCandidate_iff.mp (returns overlong loanDate none .utc)
  have rolls : overlong.RollsInCalendar overlong.period loanDate .empty loanDate .utc := range rfl
  exact Period.not_endsInCalendar (by decide) loanDate .utc (rolls _ rfl).1

end Lending
