import Lending.Proofs.DueDate.Forward
import Lending.Proofs.DueDate.MissingRange
import Lending.Proofs.Loan.Course
import Lending.Proofs.Overdue.Elapsed

/-!
# Limits of due dates

A rolling policy with a schedule uses it to limit its due dates. The limit is drawn when the period
is added, and the candidate is never later. Only then is the candidate moved off closed days, and
nothing looks at the limit again. The strategies that move back keep to it. Those that move on may
lead beyond it: to the end of an open day, also if this is the day of the limit itself, or to an
opening after it.

## Main definitions

* `ClosedDayStrategy.KeepsTo` — a strategy moves a due date to no later moment than a limit
* `Schedule.Limits` — a schedule has limited a candidate
* `LoanPolicy.Limited` — what becomes of a limit when a candidate is moved

## Main results

* `ClosedDayStrategy.le_iff_keepsTo` — when a moved due date is not later than a limit
* `ClosedDayStrategy.le_of_movesBack` — strategies that move back keep to every limit
* `LoanPolicy.dueDates_limited` — when the due dates of loans and renewals keep to their limits
-/

namespace Lending

variable {requested candidate due limit : Moment} {zone : Zone}

/-! ## Moved due dates -/

namespace ClosedDayStrategy

variable {strategy : ClosedDayStrategy} {days : AdjacentDays} {offset : Option Period}

/-- Whether what a strategy moves a due date to is no later than a limit. A due date that it keeps
is taken to be so. -/
def KeepsTo (strategy : ClosedDayStrategy) (limit requested : Moment) (days : AdjacentDays)
    (zone : Zone) (offset : Option Period) : Prop :=
  match strategy with
  | keepCurrentDate => True
  | moveToEndOfPreviousOpenDay =>
    days.requested.isOpen = true ∨ .endOf days.previous.date zone ≤ limit
  | endOfPreviousDayTruncate => .endOf days.previous.date zone ≤ limit
  | moveToEndOfNextOpenDay | endOfNextOpenDay =>
    .endOf (if days.requested.isOpen then days.requested else days.next).date zone ≤ limit
  | moveToEndOfCurrentHours =>
    days.requested.isOpenAt requested zone = .ok true ∨
      ∀ closing ∈ (days.requested.lastClosingBy? requested zone).or
        (days.previous.lastClosing? zone), closing ≤ limit
  | moveToBeginningOfNextOpenHours =>
    days.requested.isOpenAt requested zone = .ok true ∨
      ∀ opening ∈ (days.requested.firstOpeningFrom? requested zone).or
        (days.next.firstOpening? zone),
        ∀ due, Period.afterOpening offset opening zone = .ok due → due ≤ limit

/-- A due date by a limit is moved to a moment by the limit exactly if the strategy keeps to it. -/
theorem le_iff_keepsTo (inTime : requested ≤ limit)
    (moved : (strategy.move requested days zone offset).result = .ok (.ok due)) :
    due ≤ limit ↔ strategy.KeepsTo limit requested days zone offset := by
  -- a due date that is kept is by the limit, and any other one is compared with it in `KeepsTo`
  have fallsOn := dateIn_of_move moved
  rw [move_of_dateIn strategy offset fallsOn] at moved
  cases strategy with
  | keepCurrentDate =>
    obtain rfl := Except.ok.inj (Except.ok.inj moved)
    exact iff_of_true inTime trivial
  | moveToEndOfPreviousOpenDay =>
    have moved := Except.ok.inj moved
    unfold toEndOfPreviousOpenDay at moved
    split at moved
    · next isOpen =>
      obtain rfl := Except.ok.inj moved
      exact iff_of_true inTime (.inl isOpen)
    · next closed =>
      obtain ⟨-, rfl⟩ := endOfOpenDay_eq_ok.mp moved
      exact (or_iff_right closed).symm
  | endOfPreviousDayTruncate =>
    obtain ⟨-, rfl⟩ := endOfOpenDay_eq_ok.mp (Except.ok.inj moved)
    rfl
  | moveToEndOfNextOpenDay | endOfNextOpenDay =>
    have moved := Except.ok.inj ((result_toEndOfNextOpenDay fallsOn).symm.trans moved)
    unfold KeepsTo
    split at moved
    · next isOpen =>
      obtain rfl := Except.ok.inj moved
      rw [if_pos isOpen]
    · next closed =>
      obtain ⟨-, rfl⟩ := endOfOpenDay_eq_ok.mp moved
      rw [if_neg closed]
  | moveToEndOfCurrentHours =>
    obtain ⟨isOpen, asked⟩ := days.requested.exists_isOpenAt fallsOn
    have moved := (result_toEndOfCurrentHours asked).symm.trans moved
    unfold KeepsTo
    rw [asked]
    cases isOpen with
    | true =>
      obtain rfl := Except.ok.inj (Except.ok.inj moved)
      exact iff_of_true inTime (.inl rfl)
    | false =>
      rw [fromTimetable_eq_ok.mp (Except.ok.inj moved)]
      simp
  | moveToBeginningOfNextOpenHours =>
    obtain ⟨isOpen, asked⟩ := days.requested.exists_isOpenAt fallsOn
    have moved := (result_toBeginningOfNextOpenHours_offset asked).symm.trans moved
    unfold KeepsTo
    rw [asked]
    cases isOpen with
    | true =>
      obtain rfl := Except.ok.inj (Except.ok.inj moved)
      exact iff_of_true inTime (.inl rfl)
    | false =>
      rw [if_neg Bool.false_ne_true] at moved
      split at moved
      · cases moved
      · next opening found =>
        obtain ⟨due, added, ⟨⟩⟩ := map_eq_ok.mp moved
        rw [found]
        simp [added]

/-- A due date that is moved back is one of the zone, if it is not kept. -/
theorem eq_or_zone_of_move (back : strategy.MovesBack)
    (moved : (strategy.move requested days zone offset).result = .ok (.ok due)) :
    due = requested ∨ due.zone = zone := by
  have fallsOn := dateIn_of_move moved
  rw [move_of_dateIn strategy offset fallsOn] at moved
  cases strategy with
  | moveToEndOfNextOpenDay | endOfNextOpenDay | moveToBeginningOfNextOpenHours => exact back.elim
  | keepCurrentDate => exact .inl (Except.ok.inj (Except.ok.inj moved)).symm
  | moveToEndOfPreviousOpenDay =>
    have moved := Except.ok.inj moved
    unfold toEndOfPreviousOpenDay at moved
    split at moved
    · exact .inl (Except.ok.inj moved).symm
    · obtain ⟨-, rfl⟩ := endOfOpenDay_eq_ok.mp moved
      exact .inr rfl
  | endOfPreviousDayTruncate =>
    obtain ⟨-, rfl⟩ := endOfOpenDay_eq_ok.mp (Except.ok.inj moved)
    exact .inr rfl
  | moveToEndOfCurrentHours =>
    obtain ⟨isOpen, asked⟩ := days.requested.exists_isOpenAt fallsOn
    have moved := (result_toEndOfCurrentHours asked).symm.trans moved
    split at moved
    · exact .inl (Except.ok.inj (Except.ok.inj moved)).symm
    · have closing := fromTimetable_eq_ok.mp (Except.ok.inj moved)
      rcases Option.or_eq_some_iff.mp closing with today | ⟨-, before⟩
      · obtain ⟨-, hour, -, rfl⟩ := OpeningDay.exists_of_lastClosingBy? today
        exact .inr rfl
      · obtain ⟨hour, -, rfl⟩ := OpeningDay.exists_of_lastClosing? before
        exact .inr rfl

/-- Strategies that move back keep to every limit, where clocks are never changed and on days that
look back. -/
theorem le_of_movesBack (back : strategy.MovesBack) (never : zone.NeverChanges)
    (lookBack : days.LookBack) (inTime : requested ≤ limit)
    (inZone : requested.zone = zone ∨ requested = limit)
    (moved : (strategy.move requested days zone offset).result = .ok (.ok due)) :
    due ≤ limit := by
  -- a move back is one by instants, which give the order of moments only within a zone
  have notAfter := instant_le_of_move back never lookBack moved
  have instants : requested.instant ≤ limit.instant := by
    rcases inZone with rfl | rfl
    · exact (Moment.le_iff_instant never).mp inTime
    · exact le_rfl
  rcases eq_or_zone_of_move back moved with rfl | rfl
  · exact inTime
  · exact (Moment.le_iff_instant never).mpr (notAfter.trans instants)

end ClosedDayStrategy

/-! ## Candidates -/

theorem Moment.earlier_le (a b : Moment) : a.earlier b ≤ a := by
  unfold earlier
  by_cases before : b < a
  · rw [if_pos before, le_def]
    exact (lt_def.mp before).le
  · rw [if_neg before]
    exact Moment.le_refl a

/-- A period leads to a moment of the zone. -/
theorem Period.zone_of_addTo {period : Period} {moment : Moment}
    (added : period.addTo moment zone = .ok due) : due.zone = zone := by
  have days {count : Int} (added : addDays count moment zone = .ok due) : due.zone = zone := by
    obtain ⟨_, _, _, _, rfl⟩ := addDays_eq_ok_iff.mp added
    rfl
  unfold addTo at added
  cases named : period.unit? with
  | none => simp [named] at added
  | some unit =>
    simp only [named] at added
    cases unit with
    | minutes | hours => exact zone_addMinutes added
    | days | weeks => exact days added
    | months =>
      obtain ⟨_, _, _, _, rfl⟩ := addMonths_eq_ok_iff.mp added
      rfl

/-- A schedule limits a candidate for the date of a moment: it gives a due date for it, which is not
before the candidate, and the candidate is one of the zone unless it is that due date. -/
def Schedule.Limits (schedule : Schedule) (reference : Moment) (zone : Zone)
    (limit candidate : Moment) : Prop :=
  (schedule.dueFor reference zone loanDateOutsideRanges).result = .ok (.ok limit) ∧
    candidate ≤ limit ∧ (candidate.zone = zone ∨ candidate = limit)

namespace LoanPolicy

variable {policy : LoanPolicy} {days : Option AdjacentDays} {schedule : Schedule}
variable {reference : Moment}

/-- What becomes of a limit. The candidate is not later, and the due date that it is moved to is not
if the strategy of the policy keeps to the limit on the given days. If there are no days, or the
strategy only moves back by clocks that are never changed, this is always so. -/
structure Limited (policy : LoanPolicy) (limit candidate due : Moment) (days : Option AdjacentDays)
    (zone : Zone) : Prop where
  candidate_le : candidate ≤ limit
  due_le_iff : due ≤ limit ↔
    ∀ given ∈ days, policy.strategy.KeepsTo limit candidate given zone policy.openingOffset
  due_le : policy.strategy.MovesBack → zone.NeverChanges → (∀ given ∈ days, given.LookBack) →
    due ≤ limit

/-- A candidate by a limit, of the zone unless it is the limit itself, is moved as the strategy
allows. -/
theorem limited_of_onOpenDays (inTime : candidate ≤ limit)
    (inZone : candidate.zone = zone ∨ candidate = limit)
    (moved : (policy.onOpenDays candidate days zone).result = .ok (.ok due)) :
    policy.Limited limit candidate due days zone := by
  unfold onOpenDays at moved
  split at moved
  · obtain rfl := Except.ok.inj (Except.ok.inj moved)
    exact ⟨inTime, iff_of_true inTime (by simp), fun _ _ _ => inTime⟩
  · next given =>
    split at moved
    · next identity =>
      obtain rfl := Except.ok.inj (Except.ok.inj moved)
      have kept : policy.strategy = .keepCurrentDate := of_decide_eq_true identity
      refine ⟨inTime, iff_of_true inTime ?_, fun _ _ _ => inTime⟩
      rw [kept]
      exact fun _ _ => trivial
    · refine ⟨inTime, ?_, ?_⟩
      · simpa using ClosedDayStrategy.le_iff_keepsTo inTime moved
      · intro back never lookBack
        exact ClosedDayStrategy.le_of_movesBack back never (lookBack given rfl) inTime inZone moved

/-- A rolling period is limited by a schedule that has ranges. -/
theorem exists_limits_of_rolling {period : Option Period} {limitReference : Moment}
    (ranged : schedule.isEmpty = false)
    (found : (policy.rolling period reference schedule limitReference zone).result =
      .ok (.ok candidate)) :
    ∃ limit, schedule.Limits limitReference zone limit candidate := by
  obtain ⟨usable, -, found⟩ := Calculation.result_bind_eq_ok.mp found
  obtain ⟨ends, added, found⟩ := Calculation.result_bind_eq_ok.mp found
  rw [if_neg (Bool.eq_false_iff.mp ranged)] at found
  obtain ⟨limit, listed, found⟩ := Calculation.result_bind_eq_ok.mp found
  obtain rfl := Except.ok.inj (Except.ok.inj found)
  -- the earlier of two moments is the limit itself, or the end of the period
  refine ⟨limit, listed, Moment.earlier_le limit ends, ?_⟩
  rcases limit.earlier_eq_or ends with kept | cut
  · exact .inr kept
  · have inZone := Period.zone_of_addTo (Calculation.result_monadLift_eq_ok.mp added)
    exact .inl ((congrArg Moment.zone cut).trans inZone)

theorem exists_limits_of_checkoutCandidate {queue : Option RequestQueue}
    (rolling : policy.isFixed = false) (ranged : policy.loanSchedule.isEmpty = false)
    (found : (policy.checkoutCandidate reference queue zone).result = .ok (.ok candidate)) :
    ∃ limit, policy.loanSchedule.Limits reference zone limit candidate := by
  unfold checkoutCandidate at found
  split at found
  · cases found
  · rw [if_neg (Bool.eq_false_iff.mp rolling)] at found
    exact exists_limits_of_rolling ranged found

theorem exists_limits_of_renewalCandidate {loan : Loan} {queue : Option RequestQueue}
    (rolling : policy.isFixed = false) (ranged : policy.scheduleForRenewal.isEmpty = false)
    (found : (policy.renewalCandidate loan reference queue zone).result = .ok (.ok candidate)) :
    ∃ limit, policy.scheduleForRenewal.Limits reference zone limit candidate := by
  unfold renewalCandidate at found
  rw [if_neg (Bool.eq_false_iff.mp rolling)] at found
  split at found
  · cases found
  · exact exists_limits_of_rolling ranged found

/-- **Limits.** Let a rolling policy have a schedule with ranges. The candidate for a loan is no
later than the due date that the schedule gives for the loan date, and that for a renewal no later
than the one that the schedule for renewals gives for the current date. The due date itself may be:
it keeps to the limit exactly if the strategy of the policy does on the given days. Strategies that
move back always do. -/
theorem dueDates_limited (policy : LoanPolicy) (loan : Loan) (loanDate now : Moment)
    (days : Option AdjacentDays) (queue : Option RequestQueue) (zone : Zone)
    (rolling : policy.isFixed = false) :
    (policy.loanSchedule.isEmpty = false →
      ∀ due, (policy.checkoutDueDate loanDate days queue zone).result = .ok (.ok due) →
        ∃ limit candidate,
          (policy.loanSchedule.dueFor loanDate zone loanDateOutsideRanges).result =
              .ok (.ok limit) ∧
            (policy.checkoutCandidate loanDate queue zone).result = .ok (.ok candidate) ∧
            policy.Limited limit candidate due days zone) ∧
    (policy.scheduleForRenewal.isEmpty = false →
      ∀ due, (policy.renewalDueDate loan now days queue zone).result = .ok (.ok due) →
        ∃ limit candidate,
          (policy.scheduleForRenewal.dueFor now zone loanDateOutsideRanges).result =
              .ok (.ok limit) ∧
            (policy.renewalCandidate loan now queue zone).result = .ok (.ok candidate) ∧
            policy.Limited limit candidate due days zone) := by
  constructor
  · intro ranged due found
    obtain ⟨candidate, byPolicy, moved, -⟩ := checkoutDueDate_eq_ok.mp found
    obtain ⟨limit, listed, inTime, inZone⟩ :=
      exists_limits_of_checkoutCandidate rolling ranged byPolicy
    exact ⟨limit, candidate, listed, byPolicy, limited_of_onOpenDays inTime inZone moved⟩
  · intro ranged due found
    obtain ⟨given, adjusted, found⟩ := Calculation.result_bind_eq_ok.mp found
    obtain rfl := Loan.extendedTo_eq_ok (Except.ok.inj found)
    obtain ⟨candidate, byPolicy, moved⟩ := Calculation.result_bind_eq_ok.mp adjusted
    obtain ⟨limit, listed, inTime, inZone⟩ :=
      exists_limits_of_renewalCandidate rolling ranged byPolicy
    exact ⟨limit, candidate, listed, byPolicy, limited_of_onOpenDays inTime inZone moved⟩

def januaryLast : Date := .ofDay 738915

def februaryFirst : Date := .ofDay 738916

def februarySecond : Date := .ofDay 738917

/-- Loans of January are due when February begins. -/
def januarySchedule : Schedule where
  id := some "january"
  name := ""
  ranges := [⟨.ofDay 738885, januaryLast, .showing februaryFirst startOfDay .utc, by decide⟩]
  ordered := by simp

/-- Loans for thirty days, in January until February at the latest, and until the end of an open
day. -/
def thirtyDaysInJanuary : LoanPolicy where
  id := some "thirty-days"
  period := some (.of .days (some 30))
  loanSchedule := januarySchedule
  strategy := .endOfNextOpenDay

/-- Ten o'clock in the middle of January. -/
def midJanuary : Moment := .showing (.ofDay 738899) (.ofHour 10) .utc

theorem checkoutCandidate_thirtyDaysInJanuary :
    (thirtyDaysInJanuary.checkoutCandidate midJanuary none .utc).result =
      .ok (.ok (.showing februaryFirst startOfDay .utc)) :=
  rfl

/-- If the first of February is an open day, a loan of the middle of January is due when it ends,
almost a day after its limit. -/
theorem dueDates_thirtyDaysInJanuary :
    thirtyDaysInJanuary.isFixed = false ∧ ∃ limit candidate,
      (januarySchedule.dueFor midJanuary .utc loanDateOutsideRanges).result = .ok (.ok limit) ∧
        candidate ≤ limit ∧ ¬ Moment.endOf februaryFirst .utc ≤ limit := by
  let days : AdjacentDays :=
    ⟨.openAllDay januaryLast, .openAllDay februaryFirst, .openAllDay februarySecond⟩
  have due : (thirtyDaysInJanuary.checkoutDueDate midJanuary (some days) none .utc).result =
      .ok (.ok (.endOf februaryFirst .utc)) :=
    checkoutDueDate_eq_ok.mpr ⟨_, checkoutCandidate_thirtyDaysInJanuary, rfl, by decide⟩
  obtain ⟨limit, candidate, listed, -, limited⟩ := (dueDates_limited thirtyDaysInJanuary winterLoan
    midJanuary midJanuary (some days) none .utc rfl).1 rfl _ due
  have beyond : ¬ Moment.endOf februaryFirst .utc ≤ .showing februaryFirst startOfDay .utc := by
    decide
  obtain rfl : .showing februaryFirst startOfDay .utc = limit :=
    Except.ok.inj (Except.ok.inj listed)
  exact ⟨rfl, _, candidate, listed, limited.candidate_le, beyond⟩

/-- If the library is closed on the first of February, the loan is due when the second one ends. -/
theorem not_always_le_limit : ¬ ∀ (policy : LoanPolicy) (loanDate : Moment)
    (days : Option AdjacentDays) (queue : Option RequestQueue) (zone : Zone) (limit due : Moment),
    policy.isFixed = false → policy.loanSchedule.isEmpty = false →
    (policy.loanSchedule.dueFor loanDate zone loanDateOutsideRanges).result = .ok (.ok limit) →
    (policy.checkoutDueDate loanDate days queue zone).result = .ok (.ok due) → due ≤ limit := by
  intro always
  let days : AdjacentDays :=
    ⟨.openAllDay januaryLast, .closed februaryFirst, .openAllDay februarySecond⟩
  have due : (thirtyDaysInJanuary.checkoutDueDate midJanuary (some days) none .utc).result =
      .ok (.ok (.endOf februarySecond .utc)) :=
    checkoutDueDate_eq_ok.mpr ⟨_, checkoutCandidate_thirtyDaysInJanuary, rfl, by decide⟩
  have byLimit := always thirtyDaysInJanuary midJanuary (some days) none .utc _ _ rfl rfl rfl due
  revert byLimit
  decide

end LoanPolicy

end Lending
