import Lending.Proofs.Desk.Additions
import Lending.Proofs.DueDate.Forward
import Lending.Proofs.Overdue.StoredDays
import Lending.Proofs.Renewal.Override

/-!
# Service points that never open

The records can say in three ways that a service point is never open: it has no calendar, its
calendar has no days, or all days of its calendar are closed, whatever opening hours they list. In
each way other steps lead to the days around a date: the first is answered without a search, the
other two search in vain, and the last one also comes upon records. Here it is shown that no due
date, no renewal and no overdue time tells the three apart, nor what is reported of a failure.

This is a comparison of two libraries that differ in their calendars only. Step by step both are
stopped by the same fault, or they go on with days from which the calculation that they are given to
makes the same.

## Main definitions

* `AdjacentDays.ShutOn` — the days around a moment, if none of them is open
* `NeverOpen` — the three ways to say that a service point is never open
* `StepsAlike` — two steps that are stopped alike, or give values that are related
* `Library.InReach` — moments around which the calendar can be searched

## Main results

* `ClosedDayStrategy.result_move_of_shutOn` — without open days no due date is moved
* `Library.daysAround_alike` — the days that are looked up
* `Library.result_checkoutDueDate_eq`, `Library.result_renew_eq`, `Library.overdueMinutes_eq` — the
  same due dates, renewals and overdue time
* `Library.same_without_open_days` — all of this for any two ways
-/

namespace Lending

/-! ## Days of which none is open -/

/-- Whether some days are those around the date of a moment, and none of them is open. -/
structure AdjacentDays.ShutOn (days : AdjacentDays) (moment : Moment) (zone : Zone) : Prop where
  fallsOn : moment.dateIn zone = .ok days.requested.date
  previous : days.previous.isOpen = false
  requested : days.requested.isOpen = false
  next : days.next.isOpen = false

section ShutOn

variable {days : AdjacentDays} {requested due expiration : Moment} {zone : Zone}

theorem OpeningDay.periods_eq_nil {day : OpeningDay} (closed : day.isOpen = false) (zone : Zone) :
    day.periods zone = [] := by
  rw [periods, intervals_eq_nil_iff.mpr closed, List.map_nil]

namespace AdjacentDays.ShutOn

theorem noClosing (shut : days.ShutOn requested zone) :
    days.requested.lastClosingBy? requested zone = none := by
  rw [OpeningDay.lastClosingBy?, OpeningDay.periods_eq_nil shut.requested]
  rfl

theorem noOpening (shut : days.ShutOn requested zone) :
    days.requested.firstOpeningFrom? requested zone = none := by
  rw [OpeningDay.firstOpeningFrom?, OpeningDay.periods_eq_nil shut.requested]
  rfl

/-- A closed day is not open at any moment of its date. -/
theorem isOpenAt (shut : days.ShutOn requested zone) :
    days.requested.isOpenAt requested zone = .ok false := by
  obtain ⟨isOpen, asked⟩ := days.requested.exists_isOpenAt shut.fallsOn
  cases isOpen with
  | false => exact asked
  | true => exact absurd (OpeningDay.isOpen_of_isOpenAt asked) (by simp [shut.requested])

end AdjacentDays.ShutOn

/-- Where no day is open, a strategy finds no day to move a due date to. -/
theorem ClosedDayStrategy.result_move_of_shutOn {strategy : ClosedDayStrategy}
    (moves : strategy ≠ .keepCurrentDate) (shut : days.ShutOn requested zone)
    (offset : Option Period) :
    (strategy.move requested days zone offset).result =
      .ok (.error (.timetableAbsent requested)) := by
  -- whole days fail as no neighbour is open, hours as neither the date nor a neighbour has any
  rw [move_of_dateIn strategy offset shut.fallsOn]
  cases strategy with
  | keepCurrentDate => exact absurd rfl moves
  | moveToEndOfPreviousOpenDay =>
    simp [toEndOfPreviousOpenDay, endOfOpenDay, shut.requested, shut.previous, fromTimetable]
  | moveToEndOfNextOpenDay | endOfNextOpenDay =>
    simp [toEndOfNextOpenDay, endOfOpenDay, shut.requested, shut.next, fromTimetable]
  | endOfPreviousDayTruncate => simp [endOfOpenDay, shut.previous, fromTimetable]
  | moveToEndOfCurrentHours =>
    simp [result_toEndOfCurrentHours shut.isOpenAt, shut.noClosing, fromTimetable,
      OpeningDay.lastClosing?_eq_none_iff.mpr shut.previous]
  | moveToBeginningOfNextOpenHours =>
    simp [result_toBeginningOfNextOpenHours_offset shut.isOpenAt, shut.noOpening,
      OpeningDay.firstOpening?_eq_none_iff.mpr shut.next]

namespace LoanPolicy

variable {policy : LoanPolicy}

theorem result_onOpenDays_of_shutOn (moves : policy.strategy ≠ .keepCurrentDate)
    (shut : days.ShutOn requested zone) :
    (policy.onOpenDays requested (some days) zone).result =
      .ok (.error (.timetableAbsent requested)) := by
  have moving : ¬ policy.strategy.isIdentity = true := by
    simpa [ClosedDayStrategy.isIdentity] using moves
  rw [onOpenDays, if_neg moving]
  exact ClosedDayStrategy.result_move_of_shutOn moves shut _

/-- A loan that would outlive the account is not cut back, whether it is due on a day or at an
hour. -/
theorem result_untilExpiration_of_shutOn (beyond : expiration < due)
    (shut : days.ShutOn expiration zone) :
    (policy.untilExpiration due (some expiration) (some days) zone).result =
      .ok (.error (.timetableAbsent expiration)) := by
  have moves : policy.expirationStrategy ≠ .keepCurrentDate := by
    unfold expirationStrategy
    split <;> decide
  simp only [untilExpiration]
  rw [if_neg (Moment.not_le.mpr beyond)]
  exact ClosedDayStrategy.result_move_of_shutOn moves shut none

end LoanPolicy

end ShutOn

/-! ## Three ways to be closed -/

/-- The ways in which calendars can say that a service point is never open: there is no calendar for
it, or no service point at all; its calendar has no days; or all days of its calendar are closed. -/
inductive NeverOpen (calendars : Store (Option String) Calendar) : Option String → Prop
  | noCalendar {servicePoint : Option String}
      (absent : ∀ id ∈ servicePoint, calendars.find? (some id) = none) :
      NeverOpen calendars servicePoint
  | noDays {id : String} {calendar : Calendar} (kept : calendars.find? (some id) = some calendar)
      (empty : calendar.days = []) : NeverOpen calendars (some id)
  | closedDays {id : String} {calendar : Calendar}
      (kept : calendars.find? (some id) = some calendar)
      (closed : ∀ day ∈ calendar.days, day.isOpen = false) : NeverOpen calendars (some id)

/-- No calendar of a service point that is never open has an open day. -/
theorem NeverOpen.isOpen_eq_false {calendars : Store (Option String) Calendar} {id : String}
    {calendar : Calendar} {day : OpeningDay} (shut : NeverOpen calendars (some id))
    (kept : calendars.find? (some id) = some calendar) (stored : day ∈ calendar.days) :
    day.isOpen = false := by
  cases shut with
  | noCalendar absent => cases kept.symm.trans (absent id rfl)
  | noDays keptToo empty =>
    obtain rfl := Option.some.inj (kept.symm.trans keptToo)
    simp [empty] at stored
  | closedDays keptToo closed =>
    obtain rfl := Option.some.inj (kept.symm.trans keptToo)
    exact closed day stored

/-- In a calendar without open days the day that stands for the nearest open one is closed. -/
theorem Calendar.Nearest.isOpen_eq_false {calendar : Calendar}
    {Closest : Set Date → Date → Prop} {dates : Set Date} {day : OpeningDay}
    (nearest : calendar.Nearest Closest dates day)
    (closed : ∀ day ∈ calendar.days, day.isOpen = false) : day.isOpen = false := by
  cases isOpen : day.isOpen with
  | false => rfl
  | true => rw [← isOpen, closed day (nearest.found isOpen).1]

theorem Calendar.shutOn_of_adjacent {calendar : Calendar} {date : Date} {limit : Int}
    {days : AdjacentDays} {moment : Moment} {zone : Zone}
    (closed : ∀ day ∈ calendar.days, day.isOpen = false)
    (found : calendar.adjacent date limit = .ok days) (fallsOn : moment.dateIn zone = .ok date) :
    days.ShutOn moment zone := by
  have around := around_of_adjacent found
  -- the record of the date itself is given as it is stored, be it flagged as open all day
  have notOpen : ¬ calendar.OpenOn date := by
    rintro ⟨day, stored, -, isOpen⟩
    simp [closed day stored] at isOpen
  exact {
    fallsOn := around.date_requested ▸ fallsOn
    previous := around.previous.isOpen_eq_false closed
    requested := Bool.eq_false_iff.mpr (mt around.isOpen_requested.mp notOpen)
    next := around.next.isOpen_eq_false closed }

theorem AdjacentDays.exists_closedAround {date : Date} {limit : Int}
    (far : date.FarFromEnds (max limit 1)) : ∃ days, closedAround date = .ok days := by
  obtain ⟨previous, back⟩ := far.exists_shift (n := -1) (by omega) (by omega)
  obtain ⟨next, forth⟩ := far.exists_shift (n := 1) (by omega) (by omega)
  exact ⟨_, bind_eq_ok.mpr ⟨previous, back, bind_eq_ok.mpr ⟨next, forth, rfl⟩⟩⟩

/-- Far enough from the ends of the calendar there are days around every date, with or without a
calendar. -/
theorem Records.exists_adjacentDays {records : Records} {date : Date}
    (far : date.FarFromEnds (max records.searchLimit 1)) (servicePoint : Option String) :
    ∃ days, records.adjacentDays servicePoint date = .ok days := by
  by_cases known : ∃ id ∈ servicePoint, ∃ calendar,
      records.calendars.find? (some id) = some calendar
  · obtain ⟨id, rfl, calendar, kept⟩ := known
    obtain ⟨days, found⟩ := calendar.exists_adjacent far
    exact ⟨days, adjacentDays_eq_ok_iff.mpr (.kept kept found)⟩
  · obtain ⟨days, found⟩ := AdjacentDays.exists_closedAround far
    refine ⟨days, adjacentDays_eq_ok_iff.mpr (.closed (fun id given => ?_) found)⟩
    exact Option.eq_none_iff_forall_ne_some.mpr fun calendar kept =>
      known ⟨id, given, calendar, kept⟩

/-- None of these days is open if the service point never is. -/
theorem Records.exists_shutOn (records : Records) {servicePoint : Option String} {date : Date}
    {moment : Moment} {zone : Zone} (shut : NeverOpen records.calendars servicePoint)
    (far : date.FarFromEnds (max records.searchLimit 1)) (fallsOn : moment.dateIn zone = .ok date) :
    ∃ days, records.adjacentDays servicePoint date = .ok days ∧ days.ShutOn moment zone := by
  obtain ⟨days, found⟩ := exists_adjacentDays far servicePoint
  refine ⟨days, found, ?_⟩
  cases adjacentDays_eq_ok_iff.mp found with
  | kept kept adjacent =>
    exact Calendar.shutOn_of_adjacent (fun day stored => shut.isOpen_eq_false kept stored)
      adjacent fallsOn
  | closed absent closed =>
    obtain ⟨previous, next, rfl⟩ := AdjacentDays.eq_of_closedAround closed
    exact ⟨fallsOn, rfl, rfl, rfl⟩

/-- None of the days that are looked up between two dates is open. -/
theorem Records.isOpen_of_mem_daysBetween {records : Records} {id : String}
    (shut : NeverOpen records.calendars (some id)) (first last : Date) :
    ∀ day ∈ records.daysBetween (some id) first last, day.isOpen = false := by
  intro day listed
  unfold daysBetween at listed
  split at listed
  · simp at listed
  · next calendar kept => exact shut.isOpen_eq_false kept (List.mem_of_mem_filter listed)

/-! ## Steps that end alike -/

section StepsAlike

variable {α β γ δ : Type}

/-- Two steps are stopped by the same fault, or they give values that are related. -/
inductive StepsAlike (R : α → β → Prop) : Except Fault α → Except Fault β → Prop
  | stopped (fault : Fault) : StepsAlike R (.error fault) (.error fault)
  | given {a : α} {b : β} (related : R a b) : StepsAlike R (.ok a) (.ok b)

namespace StepsAlike

variable {R : α → β → Prop} {first : Except Fault α} {second : Except Fault β}

theorem map {S : γ → δ → Prop} {f : α → γ} {g : β → δ} (alike : StepsAlike R first second)
    (related : ∀ a b, R a b → S (f a) (g b)) : StepsAlike S (f <$> first) (g <$> second) := by
  cases alike with
  | stopped fault => exact .stopped fault
  | given values => exact .given (related _ _ values)

theorem imp {S : α → β → Prop} (alike : StepsAlike R first second)
    (weaker : ∀ a b, R a b → S a b) : StepsAlike S first second := by
  cases alike with
  | stopped fault => exact .stopped fault
  | given values => exact .given (weaker _ _ values)

/-- Steps that go on from one first step are alike if they are from its value on. -/
theorem bind_left {start : Except Fault γ} {next : γ → Except Fault α} {other : γ → Except Fault β}
    (alike : ∀ c, start = .ok c → StepsAlike R (next c) (other c)) :
    StepsAlike R (start >>= next) (start >>= other) := by
  cases start with
  | error fault => exact .stopped fault
  | ok c => exact alike c rfl

/-- Steps that are alike end in the same if what follows makes the same of related values. -/
theorem bind_eq {next : α → Except Fault γ} {other : β → Except Fault γ}
    (alike : StepsAlike R first second) (same : ∀ a b, R a b → next a = other b) :
    first >>= next = second >>= other := by
  cases alike with
  | stopped fault => rfl
  | given values => exact same _ _ values

theorem result_bind_eq {next : α → Calculation γ} {other : β → Calculation γ}
    (alike : StepsAlike R first second)
    (same : ∀ a b, R a b → (next a).result = (other b).result) :
    ((monadLift first : Calculation α) >>= next).result =
      ((monadLift second : Calculation β) >>= other).result := by
  cases alike with
  | stopped fault => rfl
  | given values => exact same _ _ values

end StepsAlike

/-- Calculations with the same first part end in the same if they do so from its values on. -/
theorem Calculation.result_bind_congr {first second : Calculation α}
    {next other : α → Calculation β} (start : first.result = second.result)
    (same : ∀ a, first.result = .ok (.ok a) → (next a).result = (other a).result) :
    (first >>= next).result = (second >>= other).result := by
  rw [result_bind, result_bind, ← start]
  rcases found : first.result with fault | failure | a
  · rfl
  · rfl
  · exact same a found

end StepsAlike

/-- A decision sees calendar days only through the due date that is calculated on them. -/
theorem Renewal.decide_eq_of_calculatedDue_eq {renewal : Renewal} {now : Moment}
    {days other : Option AdjacentDays} {zone : Zone}
    (same : renewal.calculatedDue now days zone = renewal.calculatedDue now other zone) :
    renewal.decide now days zone = renewal.decide now other zone := by
  unfold calculatedDue at same
  simp only [decide, proposedDue, same]

/-- Closed days have no open time. -/
theorem openMinutes_of_closed {days : List OpeningDay}
    (closed : ∀ day ∈ days, day.isOpen = false) (start stop : Moment) (zone : Zone) :
    openMinutes start stop days zone = openMinutes start stop [] zone := by
  have none : days.flatMap (·.periods zone) = [] :=
    List.flatMap_eq_nil_iff.mpr fun day listed => OpeningDay.periods_eq_nil (closed day listed) zone
  simp only [openMinutes, openSeconds, none, List.flatMap_nil]

/-! ## Libraries with other calendars -/

/-- A library with other calendars and everything else as it is. -/
def Library.withCalendars (library : Library) (calendars : Store (Option String) Calendar) :
    Library :=
  { library with records := { library.records with calendars } }

/-- Whether a moment is so far from the ends of time that its neighbours can be searched. -/
def Library.InReach (library : Library) (moment : Moment) : Prop :=
  ∀ date, moment.dateIn library.zone = .ok date →
    date.FarFromEnds (max library.records.searchLimit 1)

namespace Library

variable {library : Library} {servicePoint : Option String} {moment : Moment} {policy : LoanPolicy}

section Alike

variable {calendars others : Store (Option String) Calendar}
variable (shut : NeverOpen calendars servicePoint) (shutToo : NeverOpen others servicePoint)

include shut shutToo

/-! ### The days that are looked up -/

/-- In two ways to be never open the days around a moment are none that are open, or the same fault
stops the search for them. -/
theorem daysAround_alike (reach : library.InReach moment) :
    StepsAlike
      (fun days other => days.ShutOn moment library.zone ∧ other.ShutOn moment library.zone)
      ((library.withCalendars calendars).daysAround servicePoint moment)
      ((library.withCalendars others).daysAround servicePoint moment) := by
  refine StepsAlike.bind_left fun date fallsOn => ?_
  obtain ⟨days, found, shutDays⟩ :=
    (library.withCalendars calendars).records.exists_shutOn shut (reach date fallsOn) fallsOn
  obtain ⟨other, foundToo, shutOther⟩ :=
    (library.withCalendars others).records.exists_shutOn shutToo (reach date fallsOn) fallsOn
  rw [found, foundToo]
  exact .given ⟨shutDays, shutOther⟩

/-- A policy makes the same of its candidate on the days that are looked up for it. -/
theorem daysForStrategy_alike {candidate : Moment} (reach : library.InReach candidate) :
    StepsAlike
      (fun days other => (policy.onOpenDays candidate days library.zone).result =
        (policy.onOpenDays candidate other library.zone).result)
      ((library.withCalendars calendars).daysForStrategy policy servicePoint candidate)
      ((library.withCalendars others).daysForStrategy policy servicePoint candidate) := by
  unfold daysForStrategy
  by_cases keeps : policy.strategy.isIdentity = true
  · rw [if_pos keeps, if_pos keeps]
    exact .given rfl
  · have moves : policy.strategy ≠ .keepCurrentDate := by
      simpa [ClosedDayStrategy.isIdentity] using keeps
    rw [if_neg keeps, if_neg keeps]
    refine (daysAround_alike shut shutToo reach).map ?_
    rintro days other ⟨shutDays, shutOther⟩
    rw [LoanPolicy.result_onOpenDays_of_shutOn moves shutDays,
      LoanPolicy.result_onOpenDays_of_shutOn moves shutOther]

/-! ### Checkouts -/

theorem result_untilExpiration_eq {due : Moment} {expiration : Option Moment}
    (reach : ∀ e ∈ expiration, library.InReach e) :
    ((library.withCalendars calendars).untilExpiration policy due servicePoint expiration).result =
      ((library.withCalendars others).untilExpiration policy due servicePoint
        expiration).result := by
  cases expiration with
  | none => rfl
  | some e =>
    by_cases beyond : e < due
    · simp only [untilExpiration, if_pos beyond]
      refine (daysAround_alike shut shutToo (reach e rfl)).result_bind_eq ?_
      rintro days other ⟨shutDays, shutOther⟩
      exact (LoanPolicy.result_untilExpiration_of_shutOn beyond shutDays).trans
        (LoanPolicy.result_untilExpiration_of_shutOn beyond shutOther).symm
    · simp only [untilExpiration, if_neg beyond]

/-- A checkout ends in the same, if its candidate and the expiration are in reach. -/
theorem result_checkoutDueDate_eq {request : Circumstances} {loanDate : Moment}
    {expiration : Option Moment} {waiting : Option RequestQueue}
    (reach : ∀ policy candidate, library.loanPolicyFor request = .ok policy →
      (policy.checkoutCandidate loanDate waiting library.zone).result = .ok (.ok candidate) →
      library.InReach candidate)
    (reachExpiration : ∀ e ∈ expiration, library.InReach e) :
    ((library.withCalendars calendars).checkoutDueDate request loanDate servicePoint expiration
        waiting).result =
      ((library.withCalendars others).checkoutDueDate request loanDate servicePoint expiration
        waiting).result := by
  refine Calculation.result_bind_congr rfl fun policy selected => ?_
  split
  · simp only [Calculation.result_bind, Calculation.result_throw]
  refine Calculation.result_bind_congr rfl fun candidate byPolicy => ?_
  have inReach := reach policy candidate (Except.ok.inj selected) byPolicy
  refine (daysForStrategy_alike shut shutToo inReach).result_bind_eq fun days other same => ?_
  have due : (policy.checkoutDueDate loanDate days waiting library.zone).result =
      (policy.checkoutDueDate loanDate other waiting library.zone).result := by
    refine Calculation.result_bind_congr rfl fun again byPolicyAgain => ?_
    -- the calculation finds the candidate for which the days were looked up
    obtain rfl := Except.ok.inj (Except.ok.inj (byPolicy.symm.trans byPolicyAgain))
    exact Calculation.result_bind_congr same fun _ _ => rfl
  refine Calculation.result_bind_congr due fun alone _ => ?_
  exact Calculation.result_bind_congr
    (result_untilExpiration_eq shut shutToo reachExpiration) fun _ _ => rfl

/-! ### Renewals -/

section Renewal

variable {loan : Loan} {now : Moment} {queue : RequestQueue}

/-- A policy gives a renewal the same due date on the days that are looked up for it. -/
theorem renewalDays_alike (atPoint : loan.servicePointId = servicePoint)
    (reach : ∀ candidate, (policy.renewalCandidate loan now (some queue) library.zone).result =
      .ok (.ok candidate) → library.InReach candidate) :
    StepsAlike
      (fun days other =>
        (policy.adjustedRenewal loan now days (some queue) library.zone).result =
          (policy.adjustedRenewal loan now other (some queue) library.zone).result)
      ((library.withCalendars calendars).renewalDays policy loan now queue)
      ((library.withCalendars others).renewalDays policy loan now queue) := by
  subst atPoint
  refine StepsAlike.bind_left fun candidate byPolicy => ?_
  cases candidate with
  | error failure => exact .given rfl
  | ok candidate =>
    refine (daysForStrategy_alike shut shutToo (reach candidate byPolicy)).imp ?_
    -- the calculation finds the candidate for which the days were looked up
    intro days other same
    refine Calculation.result_bind_congr rfl fun again byPolicyAgain => ?_
    obtain rfl := Except.ok.inj (Except.ok.inj (byPolicy.symm.trans byPolicyAgain))
    exact same

/-- A renewal is decided in the same way, if its candidate is in reach. -/
theorem result_renew_eq {request : Circumstances} {override : Bool}
    (atPoint : loan.servicePointId = servicePoint)
    (reach : ∀ policy candidate, library.loanPolicyFor request = .ok policy →
      (policy.renewalCandidate loan now (some queue) library.zone).result = .ok (.ok candidate) →
      library.InReach candidate) :
    ((library.withCalendars calendars).renew loan request now queue override).result =
      ((library.withCalendars others).renew loan request now queue override).result := by
  refine Calculation.result_bind_congr rfl fun policy selected => ?_
  have inReach := fun candidate => reach policy candidate (Except.ok.inj selected)
  refine (renewalDays_alike shut shutToo atPoint inReach).result_bind_eq fun days other same => ?_
  have decided : Renewal.decide { loan, policy, queue, override } now days library.zone =
      Renewal.decide { loan, policy, queue, override } now other library.zone :=
    Renewal.decide_eq_of_calculatedDue_eq same
  exact (Calculation.result_monadLift _).trans
    ((congrArg _ decided).trans (Calculation.result_monadLift _).symm)

end Renewal

/-! ### Overdue time -/

/-- The days that are looked up for the overdue time of a loan have no open time. -/
theorem overdueDays_alike {loan : Loan} {fine : FinePolicy} {now : Moment}
    (atPoint : loan.servicePointId = servicePoint) (lending : Option LoanPolicy) :
    StepsAlike
      (fun days other => loan.overdueMinutes lending fine now days library.zone =
        loan.overdueMinutes lending fine now other library.zone)
      ((library.withCalendars calendars).overdueDays loan fine now)
      ((library.withCalendars others).overdueDays loan fine now) := by
  subst atPoint
  unfold overdueDays
  split
  · cases atPoint : loan.servicePointId with
    | none => exact .given rfl
    | some id =>
      rw [atPoint] at shut shutToo
      -- the days that are found may differ, but they have no open time
      refine StepsAlike.bind_left fun first _ => StepsAlike.bind_left fun last _ => .given ?_
      apply Loan.overdueMinutes_congr
      rw [openMinutes_of_closed (Records.isOpen_of_mem_daysBetween shut first last),
        openMinutes_of_closed (Records.isOpen_of_mem_daysBetween shutToo first last)]
  · exact .given rfl

/-- The overdue minutes of a loan are the same, wherever its dates lie. -/
theorem overdueMinutes_eq {loan : Loan} {now : Moment}
    (atPoint : loan.servicePointId = servicePoint) :
    (library.withCalendars calendars).overdueMinutes loan now =
      (library.withCalendars others).overdueMinutes loan now :=
  (overdueDays_alike shut shutToo atPoint _).bind_eq fun _ _ same => same

end Alike

/-- **No calendar, no days, no open days.** Let a service point be never open, in one way by some
calendars and in the same or another way by others. Whatever else a library has, with the former it
gives checkouts there the same due dates as with the latter and fails with the same reports, as long
as the candidate and the expiration are far enough from the ends of the calendar for a search. So it
is with the decisions on renewals of loans from there, and wherever dates lie such loans have the
same overdue minutes. -/
theorem same_without_open_days (library : Library)
    (calendars others : Store (Option String) Calendar) (servicePoint : Option String)
    (shut : NeverOpen calendars servicePoint)
    (shutToo : NeverOpen others servicePoint) :
    (∀ request loanDate expiration waiting,
      (∀ policy candidate, library.loanPolicyFor request = .ok policy →
        (policy.checkoutCandidate loanDate waiting library.zone).result = .ok (.ok candidate) →
        library.InReach candidate) →
      (∀ e ∈ expiration, library.InReach e) →
      ((library.withCalendars calendars).checkoutDueDate request loanDate servicePoint expiration
          waiting).result =
        ((library.withCalendars others).checkoutDueDate request loanDate servicePoint expiration
          waiting).result) ∧
    (∀ loan request now queue override, loan.servicePointId = servicePoint →
      (∀ policy candidate, library.loanPolicyFor request = .ok policy →
        (policy.renewalCandidate loan now (some queue) library.zone).result = .ok (.ok candidate) →
        library.InReach candidate) →
      ((library.withCalendars calendars).renew loan request now queue override).result =
        ((library.withCalendars others).renew loan request now queue override).result) ∧
    ∀ loan now, loan.servicePointId = servicePoint →
      (library.withCalendars calendars).overdueMinutes loan now =
        (library.withCalendars others).overdueMinutes loan now := by
  refine ⟨?_, ?_, ?_⟩
  · intro request loanDate expiration waiting reach reachExpiration
    exact result_checkoutDueDate_eq shut shutToo reach reachExpiration
  · intro loan request now queue override atPoint reach
    exact result_renew_eq shut shutToo atPoint reach
  · intro loan now atPoint
    exact overdueMinutes_eq shut shutToo atPoint

end Library

/-! ### A desk that is shut -/

/-- A Thursday that is said to be open all day and lists opening hours, but is closed. -/
def shutThursday : OpeningDay where
  date := .ofDay 739007
  isOpen := false
  allDay := true
  stored := [morning]

/-- The desk without a calendar. -/
def noDesk : Store (Option String) Calendar := {}

/-- The desk after no days were stored for it, and after the closed Thursday was. -/
def emptyDesk : Store (Option String) Calendar :=
  (({} : Records).addDays (some "desk") []).calendars

def shutDesk : Store (Option String) Calendar :=
  (({} : Records).addDays (some "desk") [shutThursday]).calendars

/-- The policy of the weekend library, with due dates within opening hours. -/
def threeDaysWithinHours : LoanPolicy := { threeDays with strategy := .moveToEndOfCurrentHours }

/-- The weekend library with this policy. Overdue time counts while it is open. -/
def hourlyLibrary : Library where
  records := {
    rules := weekendLibrary.records.rules
    policies := ⟨[((.loan, some "three days"), .loan threeDaysWithinHours),
      ((.overdueFine, some "open time"), .fine { id := some "open time", countClosed := false })]⟩
    searchLimit := 7 }

theorem loanPolicyFor_hourlyLibrary (request : Circumstances) :
    hourlyLibrary.loanPolicyFor request = .ok threeDaysWithinHours :=
  congrArg (Except.map fun id => hourlyLibrary.records.loanPolicy (some id))
    (policyIdFor_weekendLibrary request)

/-- A loan that is due at noon on that Monday, of which open time counts. -/
def mondayLoanWithinHours : Loan := { mondayLoan with finePolicyId := some "open time" }

theorem inReach_hourlyLibrary {date : Date} (far : date.FarFromEnds 7) (time : TimeOfDay) :
    hourlyLibrary.InReach (.showing date time .utc) := by
  intro other fallsOn
  obtain rfl := Except.ok.inj (fallsOn.symm.trans (Moment.dateIn_showing _ _ _))
  exact far

/-- A due date on the Thursday cannot be moved to open hours, in whatever way the desk is shut. -/
theorem shutDesk_alike :
    ((hourlyLibrary.withCalendars emptyDesk).checkoutDueDate (fun _ => none) mondayAtTen
        (some "desk") none none).result = .ok (.error (.timetableAbsent thursdayAtTen)) ∧
      ((hourlyLibrary.withCalendars shutDesk).checkoutDueDate (fun _ => none) mondayAtTen
        (some "desk") none none).result = .ok (.error (.timetableAbsent thursdayAtTen)) ∧
      ((hourlyLibrary.withCalendars shutDesk).renew mondayLoanWithinHours (fun _ => none)
          mondayAtTen .empty false).result =
        ((hourlyLibrary.withCalendars noDesk).renew mondayLoanWithinHours (fun _ => none)
          mondayAtTen .empty false).result ∧
      (hourlyLibrary.withCalendars shutDesk).overdueMinutes mondayLoanWithinHours thursdayAtTen =
        .ok 0 := by
  have noDeskShut : NeverOpen noDesk (some "desk") := .noCalendar (by rintro id ⟨⟩; rfl)
  have candidate : (threeDaysWithinHours.checkoutCandidate mondayAtTen none .utc).result =
      .ok (.ok thursdayAtTen) := rfl
  have reach : ∀ policy candidate, hourlyLibrary.loanPolicyFor (fun _ => none) = .ok policy →
      (policy.checkoutCandidate mondayAtTen none hourlyLibrary.zone).result = .ok (.ok candidate) →
      hourlyLibrary.InReach candidate := by
    intro policy found selected byPolicy
    obtain rfl := Except.ok.inj ((loanPolicyFor_hourlyLibrary _).symm.trans selected)
    obtain rfl := Except.ok.inj (Except.ok.inj (candidate.symm.trans byPolicy))
    exact inReach_hourlyLibrary (by decide) _
  have renewed : (threeDaysWithinHours.renewalCandidate mondayLoanWithinHours mondayAtTen
      (some .empty) .utc).result =
      .ok (.ok (.showing ⟨739007, by decide⟩ morning.stop .utc)) := rfl
  obtain ⟨checkout, -, -⟩ := hourlyLibrary.same_without_open_days emptyDesk noDesk (some "desk")
    (.noDays rfl rfl) noDeskShut
  obtain ⟨checkoutToo, renewal, overdue⟩ := hourlyLibrary.same_without_open_days shutDesk noDesk
    (some "desk") (.closedDays rfl (by decide)) noDeskShut
  have missed : ((hourlyLibrary.withCalendars noDesk).checkoutDueDate (fun _ => none) mondayAtTen
      (some "desk") none none).result = .ok (.error (.timetableAbsent thursdayAtTen)) := by
    have daysFor : (hourlyLibrary.withCalendars noDesk).DaysFor threeDaysWithinHours (some "desk")
        (.ok thursdayAtTen) (some ⟨.closed ⟨739006, by decide⟩, .closed ⟨739007, by decide⟩,
          .closed ⟨739008, by decide⟩⟩) :=
      .around (by decide) (Moment.dateIn_showing _ _ _) (.closed (by rintro id ⟨⟩; rfl) rfl)
    exact Library.result_checkoutDueDate_eq_ok_iff.mpr
      (.undue (loanPolicyFor_hourlyLibrary _) rfl ⟨_, _, candidate, daysFor, rfl⟩)
  refine ⟨?_, ?_, ?_, ?_⟩
  · exact (checkout _ _ none none reach (by simp)).trans missed
  · exact (checkoutToo _ _ none none reach (by simp)).trans missed
  · refine renewal _ _ _ _ _ rfl ?_
    intro policy candidate selected byPolicy
    obtain rfl := Except.ok.inj ((loanPolicyFor_hourlyLibrary _).symm.trans selected)
    obtain rfl := Except.ok.inj (Except.ok.inj (renewed.symm.trans byPolicy))
    exact inReach_hourlyLibrary (by decide) _
  · exact (overdue _ _ rfl).trans (by decide)

end Lending
