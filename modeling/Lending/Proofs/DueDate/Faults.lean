import Lending.DueDate
import Lending.Proofs.Except

/-!
# What stops the calculation of a due date

Due dates are calculated within the years of the calendar, and a step that would leave them stops
the calculation. Nothing else does: an unusable period or a missing range is a failure, which is an
ordinary outcome, and calendar days are only wrong if they are not those around the candidate.

## Main definitions

* `Fault.LeavesCalendar` — the faults of a step beyond the ends of the calendar
* `StopsAtEnds` — a calculation that only such a fault can stop
* `AdjacentDays.Describe` — calendar days around the date of a moment

## Main results

* `LoanPolicy.stopsAtEnds_checkoutCandidate`, `LoanPolicy.stopsAtEnds_renewalCandidate`
* `LoanPolicy.stopsAtEnds_checkoutDueDate`, `LoanPolicy.stopsAtEnds_renewalDueDate` — on days that
  describe the candidate, too
-/

namespace Lending

/-- Whether a fault is that of a step beyond the ends of the calendar. -/
def Fault.LeavesCalendar : Fault → Prop
  | .outOfRange | .yearOutOfRange _ => True
  | _ => False

/-! ## Steps -/

section StopsAtEnds

variable {α β : Type}

/-- A step that nothing but the ends of the calendar can stop. -/
def StopsAtEnds (step : Except Fault α) : Prop :=
  ∀ fault, step = .error fault → fault.LeavesCalendar

@[simp] theorem stopsAtEnds_ok (a : α) : StopsAtEnds (.ok a) := by
  intro fault stopped
  simp at stopped

theorem stopsAtEnds_require (value : Option α) : StopsAtEnds (Fault.outOfRange.require value) := by
  cases value with
  | none =>
    rintro _ ⟨⟩
    trivial
  | some a => exact stopsAtEnds_ok a

theorem StopsAtEnds.bind {first : Except Fault α} {next : α → Except Fault β}
    (hfirst : StopsAtEnds first) (hnext : ∀ a, first = .ok a → StopsAtEnds (next a)) :
    StopsAtEnds (first >>= next) := by
  cases h : first with
  | error fault =>
    rintro _ ⟨⟩
    exact hfirst fault h
  | ok a => exact hnext a h

theorem StopsAtEnds.map {step : Except Fault α} (h : StopsAtEnds step) (f : α → β) :
    StopsAtEnds (step.map f) :=
  h.bind fun a _ => stopsAtEnds_ok (f a)

theorem Calculation.result_monadLift_eq_ok {step : Except Fault α} {a : α} :
    (monadLift step : Calculation α).result = .ok (.ok a) ↔ step = .ok a := by
  cases step <;> simp [Except.map]

/-- A lifted step is stopped as it is alone. -/
theorem StopsAtEnds.lift {step : Except Fault α} (h : StopsAtEnds step) :
    StopsAtEnds (monadLift step : Calculation α).result := by
  cases step with
  | error fault =>
    rintro _ ⟨⟩
    exact h fault rfl
  | ok a => exact stopsAtEnds_ok _

/-- A calculation of two parts is stopped by what stops one of them. -/
theorem StopsAtEnds.calculation_bind {first : Calculation α} {next : α → Calculation β}
    (hfirst : StopsAtEnds first.result)
    (hnext : ∀ a, first.result = .ok (.ok a) → StopsAtEnds (next a).result) :
    StopsAtEnds (first >>= next).result := by
  rw [Calculation.result_bind]
  split
  · next a h => exact hnext a h
  · exact stopsAtEnds_ok _
  · next fault h =>
    rintro _ ⟨⟩
    exact hfirst fault h

end StopsAtEnds

/-! ## Moments and periods -/

theorem Moment.stopsAtEnds_dateIn (m : Moment) (zone : Zone) : StopsAtEnds (m.dateIn zone) :=
  stopsAtEnds_require _

/-- A clock shows its own date. -/
@[simp] theorem Moment.dateIn_showing (date : Date) (time : TimeOfDay) (zone : Zone) :
    (Moment.showing date time zone).dateIn zone = .ok date := by
  simp [dateIn, dateIn?, inZone?]

theorem Moment.stopsAtEnds_inZone (m : Moment) (zone : Zone) : StopsAtEnds (m.inZone zone) :=
  stopsAtEnds_require _

theorem Date.stopsAtEnds_addMonths (date : Date) (months : Int) :
    StopsAtEnds (date.addMonths months) := by
  simp only [addMonths]
  split
  · exact stopsAtEnds_require _
  · split <;> (rintro _ ⟨⟩; trivial)

/-- A period of a known unit leads to another moment, or beyond the calendar. -/
theorem Period.stopsAtEnds_addTo {period : Period} (known : period.unit?.isSome = true)
    (moment : Moment) (zone : Zone) : StopsAtEnds (period.addTo moment zone) := by
  have minutes (count : Int) : StopsAtEnds (addMinutes count moment zone) :=
    (stopsAtEnds_require _).bind fun _ _ => Moment.stopsAtEnds_inZone _ zone
  have days (count : Int) : StopsAtEnds (addDays count moment zone) :=
    (moment.stopsAtEnds_inZone zone).bind fun _ _ =>
      (stopsAtEnds_require _).bind fun _ _ => stopsAtEnds_ok _
  have months (count : Int) : StopsAtEnds (addMonths count moment zone) :=
    (moment.stopsAtEnds_inZone zone).bind fun _ _ =>
      (Date.stopsAtEnds_addMonths _ count).bind fun _ _ => stopsAtEnds_ok _
  unfold addTo
  cases named : period.unit? with
  | none => simp [named] at known
  | some unit =>
    cases unit with
    | minutes => exact minutes _
    | hours => exact minutes _
    | days => exact days _
    | weeks => exact days _
    | months => exact months _

/-! ## Schedules and candidates -/

theorem Schedule.stopsAtEnds_dueFor (schedule : Schedule) (reference : Moment) (zone : Zone)
    (reason : String) : StopsAtEnds (schedule.dueFor reference zone reason).result := by
  refine (reference.stopsAtEnds_dateIn zone).lift.calculation_bind fun date _ => ?_
  split <;> exact stopsAtEnds_ok _

theorem Schedule.stopsAtEnds_limit (schedule : Schedule) (due reference : Moment) (zone : Zone) :
    StopsAtEnds (schedule.limit due reference zone).result :=
  (schedule.stopsAtEnds_dueFor reference zone _).calculation_bind fun _ _ => stopsAtEnds_ok _

namespace LoanPolicy

variable (policy : LoanPolicy) (loan : Loan) (queue : Option RequestQueue) (zone : Zone)

/-- A due date is calculated with the period that was given, if that is valid. -/
theorem usablePeriod_eq_ok_iff {given : Option Period} {period : Period} :
    policy.usablePeriod given = .ok period ↔ given = some period ∧ period.isValid = true := by
  cases given with
  | none => simp [usablePeriod]
  | some given =>
    simp only [usablePeriod, Option.some.injEq]
    constructor
    · intro usable
      split at usable
      · cases usable
      · next known =>
        split at usable
        · next positive =>
          obtain rfl := Except.ok.inj usable
          exact ⟨rfl, by simp_all [Period.isValid, Option.isSome_iff_ne_none]⟩
        · cases usable
    · rintro ⟨rfl, valid⟩
      obtain ⟨known, positive⟩ := (Bool.and_eq_true _ _).mp valid
      rw [if_neg (by simpa [Option.isSome_iff_ne_none] using known), if_pos positive]

/-- A period that a due date can be calculated with has a known unit. -/
theorem unit?_isSome_of_usablePeriod {given : Option Period} {period : Period}
    (usable : policy.usablePeriod given = .ok period) : period.unit?.isSome = true := by
  obtain ⟨-, valid⟩ := policy.usablePeriod_eq_ok_iff.mp usable
  exact ((Bool.and_eq_true _ _).mp valid).1

theorem stopsAtEnds_rolling (period : Option Period) (reference : Moment) (limit : Schedule)
    (limitReference : Moment) :
    StopsAtEnds (policy.rolling period reference limit limitReference zone).result := by
  refine StopsAtEnds.calculation_bind (stopsAtEnds_ok _) fun period usable => ?_
  -- an unknown unit has already made the calculation fail
  have known := policy.unit?_isSome_of_usablePeriod (Except.ok.inj usable)
  refine (Period.stopsAtEnds_addTo known reference zone).lift.calculation_bind fun due _ => ?_
  split
  · exact stopsAtEnds_ok _
  · exact limit.stopsAtEnds_limit due limitReference zone

theorem stopsAtEnds_checkoutCandidate (loanDate : Moment) :
    StopsAtEnds (policy.checkoutCandidate loanDate queue zone).result := by
  unfold checkoutCandidate
  split
  · exact stopsAtEnds_ok _
  · split
    · exact Schedule.stopsAtEnds_dueFor _ loanDate zone _
    · exact policy.stopsAtEnds_rolling zone _ loanDate _ loanDate

theorem stopsAtEnds_renewalCandidate (now : Moment) :
    StopsAtEnds (policy.renewalCandidate loan now queue zone).result := by
  unfold renewalCandidate
  split
  · exact Schedule.stopsAtEnds_dueFor _ now zone _
  · split
    · exact stopsAtEnds_ok _
    · exact policy.stopsAtEnds_rolling zone _ _ _ now

end LoanPolicy

/-! ## Closed days and complete calculations -/

/-- Calendar days are those around the date on which a moment falls. -/
def AdjacentDays.Describe (days : AdjacentDays) (moment : Moment) (zone : Zone) : Prop :=
  ∀ date, moment.dateIn zone = .ok date → days.requested.date = date

theorem OpeningDay.stopsAtEnds_isOpenAt (day : OpeningDay) (moment : Moment) (zone : Zone) :
    StopsAtEnds (day.isOpenAt moment zone) :=
  (moment.stopsAtEnds_inZone zone).bind fun _ _ => stopsAtEnds_ok _

namespace ClosedDayStrategy

variable {requested : Moment} {days : AdjacentDays} {zone : Zone} {offset : Option Period}

theorem stopsAtEnds_toEndOfNextOpenDay :
    StopsAtEnds (toEndOfNextOpenDay requested days zone).result := by
  unfold toEndOfNextOpenDay
  split
  · exact (requested.stopsAtEnds_dateIn zone).lift.calculation_bind fun _ _ => stopsAtEnds_ok _
  · exact stopsAtEnds_ok _

theorem stopsAtEnds_toEndOfCurrentHours :
    StopsAtEnds (toEndOfCurrentHours requested days zone).result := by
  have asked := days.requested.stopsAtEnds_isOpenAt requested zone
  refine asked.lift.calculation_bind fun isOpen _ => ?_
  split <;> exact stopsAtEnds_ok _

theorem stopsAtEnds_toBeginningOfNextOpenHours :
    StopsAtEnds (toBeginningOfNextOpenHours requested days zone offset).result := by
  have asked := days.requested.stopsAtEnds_isOpenAt requested zone
  refine asked.lift.calculation_bind fun isOpen _ => ?_
  split
  · exact stopsAtEnds_ok _
  · refine StopsAtEnds.calculation_bind (stopsAtEnds_ok _) fun opening _ => ?_
    split
    · exact stopsAtEnds_ok _
    · next offset valid =>
      have known : offset.unit?.isSome = true := by
        have := (Option.filter_eq_some_iff.mp valid).2
        simp only [Period.isValid, Bool.and_eq_true] at this
        exact this.1
      exact (Period.stopsAtEnds_addTo known opening zone).lift

/-- A due date is moved on the calendar days around it, or beyond the calendar. -/
theorem stopsAtEnds_move (strategy : ClosedDayStrategy) (describe : days.Describe requested zone) :
    StopsAtEnds (strategy.move requested days zone offset).result := by
  refine (requested.stopsAtEnds_dateIn zone).lift.calculation_bind fun date fallsOn => ?_
  have same : days.requested.date = date :=
    describe date (Calculation.result_monadLift_eq_ok.mp fallsOn)
  -- the days are not the wrong ones, and no strategy stops for another reason
  simp only [same, ne_eq, not_true_eq_false, if_false]
  cases strategy with
  | keepCurrentDate | moveToEndOfPreviousOpenDay | endOfPreviousDayTruncate =>
    exact stopsAtEnds_ok _
  | moveToEndOfNextOpenDay | endOfNextOpenDay => exact stopsAtEnds_toEndOfNextOpenDay
  | moveToEndOfCurrentHours => exact stopsAtEnds_toEndOfCurrentHours
  | moveToBeginningOfNextOpenHours => exact stopsAtEnds_toBeginningOfNextOpenHours

end ClosedDayStrategy

namespace LoanPolicy

variable (policy : LoanPolicy) (loan : Loan) (queue : Option RequestQueue) (zone : Zone)

theorem stopsAtEnds_onOpenDays {candidate : Moment} {days : Option AdjacentDays}
    (describe : ∀ given ∈ days, given.Describe candidate zone) :
    StopsAtEnds (policy.onOpenDays candidate days zone).result := by
  unfold onOpenDays
  split
  · exact stopsAtEnds_ok _
  · next given =>
    split
    · exact stopsAtEnds_ok _
    · exact policy.strategy.stopsAtEnds_move (describe given rfl)

/-- On calendar days that describe the candidate a loan has a due date or a reason against it,
unless it leads beyond the calendar. -/
theorem stopsAtEnds_checkoutDueDate {loanDate : Moment} {days : Option AdjacentDays}
    (describe : ∀ given ∈ days, ∀ candidate,
      (policy.checkoutCandidate loanDate queue zone).result = .ok (.ok candidate) →
        given.Describe candidate zone) :
    StopsAtEnds (policy.checkoutDueDate loanDate days queue zone).result :=
  (policy.stopsAtEnds_checkoutCandidate queue zone loanDate).calculation_bind fun candidate found =>
    (policy.stopsAtEnds_onOpenDays zone fun given member =>
      describe given member candidate found).calculation_bind fun _ _ => stopsAtEnds_ok _

theorem stopsAtEnds_adjustedRenewal {now : Moment} {days : Option AdjacentDays}
    (describe : ∀ given ∈ days, ∀ candidate,
      (policy.renewalCandidate loan now queue zone).result = .ok (.ok candidate) →
        given.Describe candidate zone) :
    StopsAtEnds (policy.adjustedRenewal loan now days queue zone).result :=
  (policy.stopsAtEnds_renewalCandidate loan queue zone now).calculation_bind fun candidate found =>
    policy.stopsAtEnds_onOpenDays zone fun given member => describe given member candidate found

/-- On calendar days that describe the candidate a renewal has a due date or a reason against it,
unless it leads beyond the calendar. -/
theorem stopsAtEnds_renewalDueDate {now : Moment} {days : Option AdjacentDays}
    (describe : ∀ given ∈ days, ∀ candidate,
      (policy.renewalCandidate loan now queue zone).result = .ok (.ok candidate) →
        given.Describe candidate zone) :
    StopsAtEnds (policy.renewalDueDate loan now days queue zone).result :=
  (policy.stopsAtEnds_adjustedRenewal loan queue zone describe).calculation_bind
    fun _ _ => stopsAtEnds_ok _

/-- On calendar days that describe the expiration a due date is cut back, or beyond the calendar. -/
theorem stopsAtEnds_untilExpiration {due expiration : Moment} {days : AdjacentDays}
    (describe : days.Describe expiration zone) :
    StopsAtEnds (policy.untilExpiration due (some expiration) (some days) zone).result := by
  simp only [untilExpiration]
  split
  · exact stopsAtEnds_ok _
  · refine (stopsAtEnds_ok days).lift.calculation_bind fun given same => ?_
    obtain rfl := Except.ok.inj (Calculation.result_monadLift_eq_ok.mp same)
    exact policy.expirationStrategy.stopsAtEnds_move describe

end LoanPolicy

end Lending
