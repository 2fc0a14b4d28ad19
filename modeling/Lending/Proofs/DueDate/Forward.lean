import Lending.Proofs.ClosedDays.Rest
import Lending.Proofs.DueDate.Bounds
import Lending.Proofs.Period.Elapsed
import Lending.Proofs.Period.WallClock

/-!
# Due dates that are moved forward

A loan must not be due before it is made. Where clocks are never changed a period that can be lent
for is at least a minute long, and the strategies that move a due date on may take from it only the
last millisecond of an open day, which ends before midnight. So with one of these strategies, and
without a schedule that limits the period, no loan is refused because its due date would be before
the loan date. Nor is it refused for another reason than that no open day follows.

## Main definitions

* `ClosedDayStrategy.MovesForth` — the strategies that never move a due date back to another day
* `Period.afterOpening` — an opening, and a valid period later
* `MovedForth` — what becomes of a due date that is moved on

## Main results

* `Period.minute_le_of_addTo` — a valid period lasts at least a minute
* `ClosedDayStrategy.movedForth_of_move` — a due date is moved on, or no open day follows
* `LoanPolicy.checkoutDueDate_of_movesForth` — how a calculation ends that moves on
-/

namespace Lending

/-! ## Valid periods -/

namespace Period

variable {period : Period} {moment result : Moment} {zone : Zone}

/-- A valid period is a positive number of known units. -/
theorem exists_of_isValid (valid : period.isValid = true) :
    ∃ unit count, 0 < count ∧ period = .of unit (some count) := by
  obtain ⟨duration, interval⟩ := period
  simp only [isValid, Bool.and_eq_true] at valid
  obtain ⟨unit, named⟩ := Option.isSome_iff_exists.mp valid.1
  obtain ⟨count, given, positive⟩ := (Option.any_eq_true _ _).mp valid.2
  have sameName : unit.name = interval := by simpa using List.find?_some named
  exact ⟨unit, count, of_decide_eq_true positive, by rw [of, given, sameName]⟩

theorem toMinutes_pos_of_isValid (valid : period.isValid = true) : 0 < period.toMinutes := by
  obtain ⟨unit, count, positive, rfl⟩ := exists_of_isValid valid
  have minutes : 0 < unit.toMinutes := by cases unit <;> decide
  simpa [toMinutes, of, unit?] using Int.mul_pos positive minutes

/-- Where clocks are never changed a valid period leads at least a minute on. -/
theorem minute_le_of_addTo (valid : period.isValid = true) (neverMoment : moment.zone.NeverChanges)
    (never : zone.NeverChanges) (added : period.addTo moment zone = .ok result) :
    moment.instant + 60000000 ≤ result.instant := by
  have minutes := toMinutes_pos_of_isValid valid
  obtain ⟨unit, count, positive, rfl⟩ := exists_of_isValid valid
  by_cases long : unit.isLongTerm = true
  · -- by the clock of the zone the date is a later one, and the time of day the same
    obtain ⟨shown, there, last, spans, rfl⟩ := (addTo_eq_ok_iff long).mp added
    obtain rfl := Moment.zone_of_inZone? there
    have later := spans.lt positive
    have before := Moment.wallAt_instant never
    rw [Moment.instant_of_inZone? there] at before
    let after : Moment := { wall := .showing last shown.wall.time, zone := shown.zone,
                            secondPass := unit = .months && shown.secondPass }
    have shows : shown.zone.wallAt after.instant = after.wall.micros := Moment.wallAt_instant never
    change moment.instant + 60000000 ≤ after.instant
    simp only [after, WallClock.showing, WallClock.time, WallClock.date, Date.lt_def,
      Zone.wallAt] at *
    omega
  · -- minutes and hours are added to the time by the clock, which runs as time passes
    have clock : (of unit (some count)).unit? = some .minutes ∨
        (of unit (some count)).unit? = some .hours := by
      cases unit <;> simp [PeriodUnit.isLongTerm] at long ⊢
    rw [addTo_eq_addMinutes clock] at added
    have steady : moment.offsetAfter ((of unit (some count)).toMinutes * 60000000) =
        moment.offset := by
      simp only [Moment.offsetAfter, Moment.offset,
        neverMoment.interpretation_eq_standardOffset]
    rw [instant_addMinutes added, moment.movedInstant_eq_iff.mpr steady]
    omega

/-- An opening, or the moment that a valid offset leads to from there. -/
def afterOpening (offset : Option Period) (opening : Moment) (zone : Zone) : Except Fault Moment :=
  match offset.filter (·.isValid) with
  | none => .ok opening
  | some offset => offset.addTo opening zone

/-- An offset leads no further back. -/
theorem instant_le_of_afterOpening {offset : Option Period} {opening : Moment}
    (neverOpening : opening.zone.NeverChanges) (never : zone.NeverChanges)
    (added : afterOpening offset opening zone = .ok result) :
    opening.instant ≤ result.instant := by
  unfold afterOpening at added
  split at added
  · obtain rfl := Except.ok.inj added
    exact le_rfl
  · next offset kept =>
    have valid := (Option.filter_eq_some_iff.mp kept).2
    have minute := minute_le_of_addTo valid neverOpening never added
    omega

end Period

/-! ## Strategies that move on -/

/-- What becomes of a due date that is moved on: it loses less than a millisecond, or it fails for
want of a calendar, as no open day follows. -/
inductive MovedForth (requested : Moment) (days : AdjacentDays) : Outcome Moment → Prop
  | moved {due : Moment} (onward : requested.instant < due.instant + 1000) :
      MovedForth requested days (.ok due)
  | missing (closed : days.next.isOpen = false) :
      MovedForth requested days (.error (.timetableAbsent requested))

namespace ClosedDayStrategy

variable {requested due : Moment} {days : AdjacentDays} {zone : Zone} {offset : Option Period}
variable {outcome : Outcome Moment}

/-- The strategies that never move a due date back to another day. -/
def MovesForth : ClosedDayStrategy → Prop
  | keepCurrentDate | moveToEndOfNextOpenDay | endOfNextOpenDay
  | moveToBeginningOfNextOpenHours => True
  | moveToEndOfPreviousOpenDay | endOfPreviousDayTruncate | moveToEndOfCurrentHours => False

/-- On to the opening hours, with an offset: the due date itself, or what comes after the first
opening that is found. -/
theorem result_toBeginningOfNextOpenHours_offset {isOpen : Bool}
    (asked : days.requested.isOpenAt requested zone = .ok isOpen) :
    (toBeginningOfNextOpenHours requested days zone offset).result =
      if isOpen then .ok (.ok requested)
      else
        match (days.requested.firstOpeningFrom? requested zone).or
            (days.next.firstOpening? zone) with
        | none => .ok (.error (.timetableAbsent requested))
        | some opening => (Period.afterOpening offset opening zone).map .ok := by
  unfold toBeginningOfNextOpenHours Period.afterOpening
  rw [Calculation.result_bind, asked]
  cases isOpen with
  | true => rfl
  | false =>
    generalize (days.requested.firstOpeningFrom? requested zone).or _ = opening?
    cases opening? with
    | none => rfl
    | some opening => cases offset.filter (·.isValid) <;> rfl

/-- The opening that a due date is moved to is one of the zone, and not before the due date. -/
theorem instant_le_of_opening {opening : Moment} (never : zone.NeverChanges)
    (fallsOn : requested.dateIn zone = .ok days.requested.date)
    (ahead : days.requested.date < days.next.date)
    (found : (days.requested.firstOpeningFrom? requested zone).or (days.next.firstOpening? zone) =
      some opening) :
    opening.zone = zone ∧ requested.instant ≤ opening.instant := by
  rcases Option.or_eq_some_iff.mp found with today | ⟨-, next⟩
  · obtain ⟨inTime, hour, -, rfl⟩ := OpeningDay.exists_of_firstOpeningFrom? today
    exact ⟨rfl, (Moment.le_iff_instant_right never).mp inTime⟩
  · obtain ⟨hour, -, rfl⟩ := OpeningDay.exists_of_firstOpening? next
    exact ⟨rfl, (Moment.lt_showing_of_date_lt never fallsOn ahead _).le⟩

/-- The end of a moment's own date is less than a millisecond before the moment, if it is before
it. -/
theorem lt_instant_endOf (never : zone.NeverChanges) {date : Date}
    (fallsOn : requested.dateIn zone = .ok date) :
    requested.instant < (Moment.endOf date zone).instant + 1000 := by
  have onDate := Moment.ordinal_of_dateIn never fallsOn
  have ends := Moment.wallAt_showing never date endOfDay
  rw [← Moment.endOf] at ends
  simp only [endOfDay, Zone.wallAt] at onDate ends
  omega

/-- A strategy that moves forth leads on from the due date, or there is no open day to move to. -/
theorem movedForth_of_move {strategy : ClosedDayStrategy} (forth : strategy.MovesForth)
    (never : zone.NeverChanges) (fallsOn : requested.dateIn zone = .ok days.requested.date)
    (ahead : days.requested.date < days.next.date)
    (moved : (strategy.move requested days zone offset).result = .ok outcome) :
    MovedForth requested days outcome := by
  rw [move_of_dateIn strategy offset fallsOn] at moved
  cases strategy with
  | moveToEndOfPreviousOpenDay | endOfPreviousDayTruncate | moveToEndOfCurrentHours =>
    exact forth.elim
  | keepCurrentDate =>
    obtain rfl := Except.ok.inj moved
    exact .moved (by omega)
  | moveToEndOfNextOpenDay | endOfNextOpenDay =>
    obtain rfl := Except.ok.inj ((result_toEndOfNextOpenDay fallsOn).symm.trans moved)
    split
    · exact .moved (lt_instant_endOf never fallsOn)
    · unfold endOfOpenDay
      cases isOpen : days.next.isOpen with
      | true =>
        have later := Moment.lt_showing_of_date_lt never fallsOn ahead endOfDay
        rw [← Moment.endOf] at later
        exact .moved (by omega)
      | false => exact .missing isOpen
  | moveToBeginningOfNextOpenHours =>
    obtain ⟨isOpen, asked⟩ := days.requested.exists_isOpenAt fallsOn
    have moved := (result_toBeginningOfNextOpenHours_offset asked).symm.trans moved
    split at moved
    · obtain rfl := Except.ok.inj moved
      exact .moved (by omega)
    · split at moved
      · next none =>
        obtain rfl := Except.ok.inj moved
        exact .missing (OpeningDay.firstOpening?_eq_none_iff.mp (Option.or_eq_none_iff.mp none).2)
      · next opening found =>
        obtain ⟨inZone, notBefore⟩ := instant_le_of_opening never fallsOn ahead found
        obtain ⟨due, added, rfl⟩ := map_eq_ok.mp moved
        have onward := Period.instant_le_of_afterOpening (inZone ▸ never) never added
        exact .moved (by omega)

end ClosedDayStrategy

/-! ## Checkouts -/

namespace LoanPolicy

variable {policy : LoanPolicy} {loanDate candidate : Moment} {queue : Option RequestQueue}
variable {zone : Zone} {days : Option AdjacentDays} {outcome : Outcome Moment}

/-- The period of a checkout is valid if that of the policy is, and, while a hold is at the head of
the queue, the one for holds. -/
theorem exists_checkoutPeriod (valid : policy.period.any (·.isValid) = true)
    (validHolds : queue.any (·.holdAtHead) = true →
      ∀ period ∈ policy.holds.checkoutPeriod, period.isValid = true) :
    ∃ period, policy.checkoutPeriod queue = some period ∧ period.isValid = true := by
  unfold checkoutPeriod
  split
  · next atHead =>
    cases forHolds : policy.holds.checkoutPeriod with
    | none => exact (Option.any_eq_true _ _).mp valid
    | some period => exact ⟨period, rfl, validHolds atHead period forHolds⟩
  · exact (Option.any_eq_true _ _).mp valid

/-- Without a limit a valid period gives a candidate at least a minute after the loan date. -/
theorem minute_le_of_checkoutCandidate (never : zone.NeverChanges)
    (neverLoan : loanDate.zone.NeverChanges) (loanable : policy.loanable = true)
    (rolling : policy.isFixed = false) (unlimited : policy.loanSchedule.isEmpty = true)
    (valid : policy.period.any (·.isValid) = true)
    (validHolds : queue.any (·.holdAtHead) = true →
      ∀ period ∈ policy.holds.checkoutPeriod, period.isValid = true)
    (found : (policy.checkoutCandidate loanDate queue zone).result = .ok outcome) :
    ∃ candidate, outcome = .ok candidate ∧ loanDate.instant + 60000000 ≤ candidate.instant := by
  obtain ⟨period, used, valid⟩ := exists_checkoutPeriod valid validHolds
  simp only [checkoutCandidate, loanable, rolling, LoanPolicy.rolling, used,
    policy.usablePeriod_eq_ok_iff.mpr ⟨rfl, valid⟩, unlimited] at found
  obtain ⟨candidate, added, found⟩ := Calculation.result_lift_bind_eq_ok_iff.mp found
  obtain rfl := Except.ok.inj found
  exact ⟨candidate, rfl, Period.minute_le_of_addTo valid neverLoan never added⟩

/-- A candidate that is moved forth, or kept. -/
theorem onOpenDays_of_movesForth (never : zone.NeverChanges) (forth : policy.strategy.MovesForth)
    (describe : ∀ given ∈ days, given.Describe candidate zone)
    (ahead : ∀ given ∈ days, given.requested.date < given.next.date)
    (moved : (policy.onOpenDays candidate days zone).result = .ok outcome) :
    (∃ due, outcome = .ok due ∧ candidate.instant < due.instant + 1000) ∨
      ∃ given ∈ days, given.next.isOpen = false ∧
        outcome = .error (.timetableAbsent candidate) := by
  have kept (same : (.ok (.ok candidate) : Except Fault (Outcome Moment)) = .ok outcome) :
      ∃ due, outcome = .ok due ∧ candidate.instant < due.instant + 1000 :=
    ⟨candidate, (Except.ok.inj same).symm, by omega⟩
  unfold onOpenDays at moved
  split at moved
  · exact .inl (kept moved)
  · next given =>
    split at moved
    · exact .inl (kept moved)
    · -- a strategy that comes to an outcome has found the date of the candidate
      obtain ⟨date, fallsOn, -⟩ := Calculation.result_lift_bind_eq_ok_iff.mp moved
      have described : candidate.dateIn zone = .ok given.requested.date := by
        rw [fallsOn, describe given rfl date fallsOn]
      cases ClosedDayStrategy.movedForth_of_move forth never described (ahead given rfl) moved with
      | moved onward => exact .inl ⟨_, rfl, onward⟩
      | missing closed => exact .inr ⟨given, rfl, closed, rfl⟩

/-- **No due date before the loan date.** Let a policy lend for a valid period that no schedule
limits, and move due dates forth, and let the clocks of its zone and of the loan date never be
changed. On days that describe the candidate, the next one of which is later, the calculation is
stopped by nothing but the ends of the calendar. If it is not, the loan is due after the loan date,
or it is refused for want of a calendar as no open day follows; no other failure is possible. -/
theorem checkoutDueDate_of_movesForth (never : zone.NeverChanges)
    (neverLoan : loanDate.zone.NeverChanges) (loanable : policy.loanable = true)
    (rolling : policy.isFixed = false) (unlimited : policy.loanSchedule.isEmpty = true)
    (valid : policy.period.any (·.isValid) = true)
    (validHolds : queue.any (·.holdAtHead) = true →
      ∀ period ∈ policy.holds.checkoutPeriod, period.isValid = true)
    (forth : policy.strategy.MovesForth)
    (describe : ∀ given ∈ days, ∀ candidate,
      (policy.checkoutCandidate loanDate queue zone).result = .ok (.ok candidate) →
        given.Describe candidate zone)
    (ahead : ∀ given ∈ days, given.requested.date < given.next.date) :
    StopsAtEnds (policy.checkoutDueDate loanDate days queue zone).result ∧
      ∀ outcome, (policy.checkoutDueDate loanDate days queue zone).result = .ok outcome →
        (∃ due, outcome = .ok due ∧ loanDate.instant < due.instant) ∨
          ∃ candidate, ∃ given ∈ days, given.next.isOpen = false ∧
            outcome = .error (.timetableAbsent candidate) := by
  refine ⟨policy.stopsAtEnds_checkoutDueDate queue zone describe, fun outcome ended => ?_⟩
  have minute {ended : Outcome Moment}
      (found : (policy.checkoutCandidate loanDate queue zone).result = .ok ended) :=
    minute_le_of_checkoutCandidate never neverLoan loanable rolling unlimited valid validHolds found
  rcases Calculation.result_bind_eq_ok_iff.mp ended with
    ⟨failure, failed, -⟩ | ⟨candidate, found, ended⟩
  · obtain ⟨_, ⟨⟩, -⟩ := minute failed
  · obtain ⟨_, ⟨⟩, minute⟩ := minute found
    have moves {ended : Outcome Moment}
        (moved : (policy.onOpenDays candidate days zone).result = .ok ended) :=
      onOpenDays_of_movesForth never forth
        (fun given member => describe given member candidate found) ahead moved
    rcases Calculation.result_bind_eq_ok_iff.mp ended with
      ⟨failure, failed, rfl⟩ | ⟨due, moved, ended⟩
    · rcases moves failed with ⟨_, ⟨⟩, -⟩ | ⟨given, member, closed, same⟩
      exact .inr ⟨candidate, given, member, closed, same⟩
    · rcases moves moved with ⟨_, ⟨⟩, onward⟩ | ⟨_, -, -, ⟨⟩⟩
      -- the minute of the period is longer than what the end of a day may take from it
      have inTime : ¬ due < loanDate := by
        rw [Moment.not_lt, Moment.le_iff_instant neverLoan]
        omega
      obtain rfl := Except.ok.inj ended
      exact .inl ⟨due, if_neg inTime, by omega⟩

/-- A policy that lends for a minute, until the end of an open day. -/
def forAMinute : LoanPolicy where
  id := some "minute"
  period := some (.of .minutes (some 1))
  strategy := .endOfNextOpenDay

/-- Half a millisecond before the last minute of that Monday. -/
def lateMonday : Moment := .showing monday ⟨86339999500, by decide⟩ .utc

/-- That Monday, open all day between the closed days around it. -/
def aroundMonday : AdjacentDays :=
  ⟨.closed ⟨739003, by decide⟩, .openAllDay monday, .closed ⟨739005, by decide⟩⟩

/-- Lent then for a minute, an item is due when that Monday ends. This is half a millisecond less
than a minute later, but later. -/
theorem checkoutDueDate_forAMinute :
    (forAMinute.checkoutDueDate lateMonday (some aroundMonday) none .utc).result =
        .ok (.ok (.endOf monday .utc)) ∧
      lateMonday.instant < (Moment.endOf monday .utc).instant := by
  have due : (forAMinute.checkoutDueDate lateMonday (some aroundMonday) none .utc).result =
      .ok (.ok (.endOf monday .utc)) := rfl
  have describe : ∀ given ∈ some aroundMonday, ∀ candidate,
      (forAMinute.checkoutCandidate lateMonday none .utc).result = .ok (.ok candidate) →
        given.Describe candidate .utc := by
    rintro _ ⟨⟩ candidate found date fallsOn
    obtain rfl := Except.ok.inj (Except.ok.inj found)
    exact Except.ok.inj fallsOn
  obtain ⟨-, ends⟩ := @checkoutDueDate_of_movesForth forAMinute lateMonday none .utc
    (some aroundMonday) trivial trivial rfl rfl rfl rfl (fun atHead => by cases atHead) trivial
    describe (by rintro _ ⟨⟩; decide)
  rcases ends _ due with ⟨_, ⟨⟩, later⟩ | ⟨_, _, -, -, ⟨⟩⟩
  exact ⟨due, later⟩

end LoanPolicy

end Lending
