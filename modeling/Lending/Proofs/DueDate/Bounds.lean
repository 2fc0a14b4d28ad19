import Lending.Desk.Terms
import Lending.Proofs.ClosedDays.Hours

/-!
# How early and how late loans are due

A loan is due no earlier than it is made, and no later than the account of the patron expires. The
two bounds can exclude each other: a due date beyond the expiration is moved back to open time
before it, and that open time may lie before the loan. Where clocks are never changed nothing else
makes a due date precede the loan, whatever the records of the library are.

## Main definitions

* `AdjacentDays.LookBack` — days of which the previous one is before the requested one
* `ClosedDayStrategy.MovesBack` — the strategies that never move a due date on

## Main results

* `ClosedDayStrategy.instant_le_of_move` — such a strategy leads to the due date or before it
* `Library.untilExpiration_cases` — what cutting a loan back comes to
* `Library.checkoutDueDate_bounded` — the bounds of every due date that is given
-/

namespace Lending

variable {requested due : Moment} {zone : Zone} {days : AdjacentDays}

/-! ## Days before a date -/

/-- Whether the previous one of some days, if it is open, is before the requested one. -/
def AdjacentDays.LookBack (days : AdjacentDays) : Prop :=
  days.previous.isOpen = true → days.previous.date < days.requested.date

theorem AdjacentDays.Around.lookBack {calendar : Calendar} {date : Date} {limit : Int}
    (around : days.Around calendar date limit) : days.LookBack := by
  intro isOpen
  obtain ⟨-, ⟨⟨-, -, before⟩, -⟩⟩ := around.previous.found isOpen
  rw [around.date_requested, Date.lt_def]
  omega

/-- The days that the records have around a date look back from it. -/
theorem Records.lookBack_of_adjacentDays {records : Records} {servicePoint : Option String}
    {date : Date} (found : records.adjacentDays servicePoint date = .ok days) : days.LookBack := by
  cases adjacentDays_eq_ok_iff.mp found with
  | kept kept adjacent => exact (Calendar.around_of_adjacent adjacent).lookBack
  | closed absent closed =>
    obtain ⟨previous, next, rfl⟩ := AdjacentDays.eq_of_closedAround closed
    intro isOpen
    cases isOpen

theorem Library.lookBack_of_daysAround {library : Library} {servicePoint : Option String}
    {moment : Moment} (found : library.daysAround servicePoint moment = .ok days) :
    days.LookBack := by
  obtain ⟨date, -, found⟩ := bind_eq_ok.mp found
  exact Records.lookBack_of_adjacentDays found

/-! ## Strategies that look back -/

namespace ClosedDayStrategy

variable {offset : Option Period}

/-- The strategies that never move a due date on. -/
def MovesBack : ClosedDayStrategy → Prop
  | keepCurrentDate | moveToEndOfPreviousOpenDay | endOfPreviousDayTruncate
  | moveToEndOfCurrentHours => True
  | moveToEndOfNextOpenDay | endOfNextOpenDay | moveToBeginningOfNextOpenHours => False

/-- A due date is moved only on the days around its date. -/
theorem dateIn_of_move {strategy : ClosedDayStrategy}
    (moved : (strategy.move requested days zone offset).result = .ok (.ok due)) :
    requested.dateIn zone = .ok days.requested.date := by
  obtain ⟨date, fallsOn, moved⟩ := Calculation.result_bind_eq_ok.mp moved
  rw [Calculation.result_monadLift_eq_ok.mp fallsOn]
  by_contra different
  have mismatch : days.requested.date ≠ date := fun same => different (same ▸ rfl)
  rw [if_pos mismatch] at moved
  cases moved

/-- The end of the open day before is before the due date. -/
theorem instant_lt_of_endOfOpenDay (never : zone.NeverChanges)
    (fallsOn : requested.dateIn zone = .ok days.requested.date) (lookBack : days.LookBack)
    (moved : endOfOpenDay requested zone days.previous = .ok due) :
    due.instant < requested.instant := by
  unfold endOfOpenDay at moved
  split at moved
  · next isOpen =>
    obtain rfl := Except.ok.inj moved
    exact Moment.showing_lt_of_date_lt never fallsOn (lookBack isOpen) _
  · cases moved

/-- The end of the current hours is not after the due date. -/
theorem instant_le_of_toEndOfCurrentHours (never : zone.NeverChanges)
    (fallsOn : requested.dateIn zone = .ok days.requested.date) (lookBack : days.LookBack)
    (moved : (toEndOfCurrentHours requested days zone).result = .ok (.ok due)) :
    due.instant ≤ requested.instant := by
  obtain ⟨isOpen, asked⟩ := days.requested.exists_isOpenAt fallsOn
  rw [result_toEndOfCurrentHours asked] at moved
  split at moved
  · obtain rfl := Except.ok.inj (Except.ok.inj moved)
    exact le_rfl
  · next closed =>
    have outside := mt (OpeningDay.isOpenAt_iff never asked).mpr closed
    generalize found : (days.requested.lastClosingBy? requested zone).or _ = closing? at moved
    cases closing? with
    | none => cases moved
    | some closing =>
      obtain rfl := Except.ok.inj (Except.ok.inj moved)
      rcases Option.or_eq_some_iff.mp found with today | ⟨-, before⟩
      · exact (OpeningDay.isGreatest_lastClosingBy? never outside today).1.2
      · have member := (OpeningDay.isGreatest_lastClosing? never before).1
        have earlier := lookBack (OpeningDay.isOpen_of_mem_openInstants member)
        exact (OpeningDay.lt_instant_of_date_lt never fallsOn earlier member).le

/-- A strategy that moves back leads to the due date itself or to an earlier instant. -/
theorem instant_le_of_move {strategy : ClosedDayStrategy} (back : strategy.MovesBack)
    (never : zone.NeverChanges) (lookBack : days.LookBack)
    (moved : (strategy.move requested days zone offset).result = .ok (.ok due)) :
    due.instant ≤ requested.instant := by
  -- a result shows that the days were the right ones, and these look back from the due date itself
  have fallsOn := dateIn_of_move moved
  rw [move_of_dateIn strategy offset fallsOn] at moved
  cases strategy with
  | keepCurrentDate =>
    obtain rfl := Except.ok.inj (Except.ok.inj moved)
    exact le_rfl
  | moveToEndOfPreviousOpenDay =>
    have moved := Except.ok.inj moved
    unfold toEndOfPreviousOpenDay at moved
    split at moved
    · obtain rfl := Except.ok.inj moved
      exact le_rfl
    · exact (instant_lt_of_endOfOpenDay never fallsOn lookBack moved).le
  | endOfPreviousDayTruncate =>
    exact (instant_lt_of_endOfOpenDay never fallsOn lookBack (Except.ok.inj moved)).le
  | moveToEndOfCurrentHours =>
    exact instant_le_of_toEndOfCurrentHours never fallsOn lookBack moved
  | moveToEndOfNextOpenDay | endOfNextOpenDay | moveToBeginningOfNextOpenHours => exact back.elim

end ClosedDayStrategy

/-! ## Expiration -/

theorem LoanPolicy.movesBack_expirationStrategy (policy : LoanPolicy) :
    policy.expirationStrategy.MovesBack := by
  unfold expirationStrategy
  split <;> trivial

/-- A loan that would outlive the account of the patron is due by its expiration. -/
theorem LoanPolicy.instant_le_of_untilExpiration {policy : LoanPolicy} {expiration cut : Moment}
    (never : zone.NeverChanges) (lookBack : days.LookBack) (beyond : expiration < due)
    (found : (policy.untilExpiration due (some expiration) (some days) zone).result =
      .ok (.ok cut)) : cut.instant ≤ expiration.instant := by
  simp only [untilExpiration, if_neg (Moment.not_le.mpr beyond)] at found
  obtain ⟨given, described, found⟩ := Calculation.result_bind_eq_ok.mp found
  obtain rfl := Except.ok.inj (Calculation.result_monadLift_eq_ok.mp described)
  have back := policy.movesBack_expirationStrategy
  exact ClosedDayStrategy.instant_le_of_move back never lookBack found

/-! ## Loan dates -/

/-- A policy makes a due date of the candidate that it moves, and none before the loan date. -/
theorem LoanPolicy.checkoutDueDate_eq_ok {policy : LoanPolicy} {loanDate : Moment}
    {given : Option AdjacentDays} {queue : Option RequestQueue} :
    (policy.checkoutDueDate loanDate given queue zone).result = .ok (.ok due) ↔
      ∃ candidate, (policy.checkoutCandidate loanDate queue zone).result = .ok (.ok candidate) ∧
        (policy.onOpenDays candidate given zone).result = .ok (.ok due) ∧ loanDate ≤ due := by
  have compared (moved : Moment) :
      (notBefore loanDate moved).calculation.result = .ok (.ok due) ↔
        moved = due ∧ loanDate ≤ due := by
    rw [Calculation.result_calculation, Except.ok.injEq, notBefore]
    by_cases before : moved < loanDate
    · rw [if_pos before]
      simp only [reduceCtorEq, false_iff, not_and]
      rintro rfl
      exact fun inTime => Moment.not_lt.mpr inTime before
    · rw [if_neg before, Except.ok.injEq]
      refine (and_iff_left_of_imp ?_).symm
      rintro rfl
      exact Moment.not_lt.mp before
  simp only [checkoutDueDate, Calculation.result_bind_eq_ok, compared]
  constructor
  · rintro ⟨candidate, found, moved, onOpenDays, rfl, inTime⟩
    exact ⟨candidate, found, onOpenDays, inTime⟩
  · rintro ⟨candidate, found, onOpenDays, inTime⟩
    exact ⟨candidate, found, due, onOpenDays, rfl, inTime⟩

/-- A policy gives no due date before the loan date. -/
theorem LoanPolicy.le_of_checkoutDueDate {policy : LoanPolicy} {loanDate : Moment}
    {given : Option AdjacentDays} {queue : Option RequestQueue} (never : loanDate.zone.NeverChanges)
    (found : (policy.checkoutDueDate loanDate given queue zone).result = .ok (.ok due)) :
    loanDate.instant ≤ due.instant := by
  obtain ⟨-, -, -, inTime⟩ := checkoutDueDate_eq_ok.mp found
  exact (Moment.le_iff_instant never).mp inTime

namespace Library

variable {library : Library} {policy : LoanPolicy} {servicePoint : Option String}
variable {expiration : Option Moment} {cut : Moment}

/-- A due date by which the account of the patron has not expired stays as it is; any other one is
cut back to the expiration or further. -/
theorem untilExpiration_cases (never : library.zone.NeverChanges)
    (neverExpiration : ∀ e ∈ expiration, e.zone.NeverChanges)
    (found : (library.untilExpiration policy due servicePoint expiration).result =
      .ok (.ok cut)) :
    (cut = due ∧ ∀ e ∈ expiration, due.instant ≤ e.instant) ∨
      ∃ e ∈ expiration, e.instant < due.instant ∧ cut.instant ≤ e.instant := by
  cases expiration with
  | none =>
    obtain rfl := Except.ok.inj (Except.ok.inj found)
    exact .inl ⟨rfl, by simp⟩
  | some e =>
    have order := Moment.lt_iff_instant (b := due) (neverExpiration e rfl)
    simp only [untilExpiration] at found
    split at found
    · next beyond =>
      obtain ⟨given, described, found⟩ := Calculation.result_bind_eq_ok.mp found
      have lookBack := lookBack_of_daysAround (Calculation.result_monadLift_eq_ok.mp described)
      have inTime := LoanPolicy.instant_le_of_untilExpiration never lookBack beyond found
      exact .inr ⟨e, rfl, order.mp beyond, inTime⟩
    · next notBeyond =>
      obtain rfl := Except.ok.inj (Except.ok.inj found)
      refine .inl ⟨rfl, ?_⟩
      rintro _ ⟨⟩
      exact not_lt.mp (mt order.mpr notBeyond)

/-! ## Complete due dates -/

variable {request : Circumstances} {loanDate alone : Moment} {queue : Option RequestQueue}

/-- Whether the policy that the rules select gives a loan a due date on the days of the calendar,
without regard to an expiration. -/
def DueAlone (library : Library) (request : Circumstances) (loanDate : Moment)
    (servicePoint : Option String) (queue : Option RequestQueue) (policy : LoanPolicy)
    (alone : Moment) : Prop :=
  library.loanPolicyFor request = .ok policy ∧ policy.isUnknown = false ∧
    ∃ candidate days,
      (policy.checkoutCandidate loanDate queue library.zone).result = .ok (.ok candidate) ∧
      library.daysForStrategy policy servicePoint candidate = .ok days ∧
      (policy.checkoutDueDate loanDate days queue library.zone).result = .ok (.ok alone)

/-- Without regard to an expiration no loan is due before it is made. -/
theorem DueAlone.le (never : loanDate.zone.NeverChanges)
    (dueAlone : library.DueAlone request loanDate servicePoint queue policy alone) :
    loanDate.instant ≤ alone.instant := by
  obtain ⟨-, -, candidate, days, -, -, inTime⟩ := dueAlone
  exact LoanPolicy.le_of_checkoutDueDate never inTime

/-- A loan is due when its policy and the calendar say, cut back to the expiration. -/
theorem result_checkoutDueDate_eq_ok :
    (library.checkoutDueDate request loanDate servicePoint expiration queue).result =
        .ok (.ok (policy, due)) ↔
      ∃ alone, library.DueAlone request loanDate servicePoint queue policy alone ∧
        (library.untilExpiration policy alone servicePoint expiration).result = .ok (.ok due) := by
  simp only [checkoutDueDate, DueAlone, Calculation.result_bind_eq_ok,
    Calculation.result_guard_eq_ok, Calculation.result_calculation,
    Calculation.result_monadLift_eq_ok, Calculation.result_pure]
  constructor
  · rintro ⟨_, selected, known, candidate, byPolicy, days, around, alone, inTime, _, cut, ⟨⟩⟩
    exact ⟨alone, ⟨Except.ok.inj selected, Bool.eq_false_iff.mpr known, candidate, days, byPolicy,
      around, inTime⟩, cut⟩
  · rintro ⟨alone, ⟨selected, known, candidate, days, byPolicy, around, inTime⟩, cut⟩
    exact ⟨policy, congrArg _ selected, Bool.eq_false_iff.mp known, candidate, byPolicy, days,
      around, alone, inTime, due, cut, rfl⟩

/-- Without an expiration a loan is due when its policy and the calendar say. -/
theorem result_checkoutDueDate_none_eq_ok :
    (library.checkoutDueDate request loanDate servicePoint none queue).result =
        .ok (.ok (policy, alone)) ↔
      library.DueAlone request loanDate servicePoint queue policy alone := by
  rw [result_checkoutDueDate_eq_ok]
  constructor
  · rintro ⟨_, dueAlone, ⟨⟩⟩
    exact dueAlone
  · intro dueAlone
    exact ⟨alone, dueAlone, rfl⟩

end Library

/-- **Bounds of due dates.** Let the clocks that the due date of a loan depends on, that of the
library and those of the loan date and of the expiration, never be changed. Then no due date is
later than the expiration. It is before the loan date only if the account of the patron expires
before the due date that there would be without an expiration. -/
theorem Library.checkoutDueDate_bounded (library : Library) (request : Circumstances)
    (loanDate : Moment) (servicePoint : Option String) (expiration : Option Moment)
    (queue : Option RequestQueue) (policy : LoanPolicy) (due : Moment)
    (never : library.zone.NeverChanges) (neverLoan : loanDate.zone.NeverChanges)
    (neverExpiration : ∀ e ∈ expiration, e.zone.NeverChanges)
    (found : (library.checkoutDueDate request loanDate servicePoint expiration queue).result =
      .ok (.ok (policy, due))) :
    (∀ e ∈ expiration, due.instant ≤ e.instant) ∧
      ∃ alone, (library.checkoutDueDate request loanDate servicePoint none queue).result =
          .ok (.ok (policy, alone)) ∧
        (due.instant < loanDate.instant → ∃ e ∈ expiration, e.instant < alone.instant) := by
  obtain ⟨alone, dueAlone, cut⟩ := result_checkoutDueDate_eq_ok.mp found
  have withoutExpiration := result_checkoutDueDate_none_eq_ok.mpr dueAlone
  -- if nothing is cut back the policy has kept to the loan date; else the expiration is the cause
  rcases untilExpiration_cases never neverExpiration cut with
    ⟨rfl, byThen⟩ | ⟨e, given, beyond, byThen⟩
  · refine ⟨byThen, due, withoutExpiration, ?_⟩
    intro early
    exact absurd early (dueAlone.le neverLoan).not_gt
  · refine ⟨?_, alone, withoutExpiration, fun _ => ⟨e, given, beyond⟩⟩
    intro other givenOther
    obtain rfl := Option.some.inj (given.symm.trans givenOther)
    exact byThen

def mondayAtTen : Moment := .showing monday ⟨36000000000, by decide⟩ .utc

def mondayAtNoon : Moment := .showing monday morning.stop .utc

def thursdayAtTen : Moment := .showing ⟨739007, by decide⟩ ⟨36000000000, by decide⟩ .utc

def threeDays : LoanPolicy := { id := some "three days", period := some (.of .days (some 3)) }

theorem checkoutCandidate_threeDays :
    (threeDays.checkoutCandidate mondayAtTen none .utc).result = .ok (.ok thursdayAtTen) :=
  rfl

/-- A library that is open on the Friday and the Monday of the long weekend and lends everything for
three days. -/
def weekendLibrary : Library where
  records := {
    weekendRecords with
    rules := { set := { fallback := some {
      criteria := fun _ => none
      policies := fun type => if type = .loan then some "three days" else none
      line := 1 } } }
    policies := ⟨[((.loan, some "three days"), .loan threeDays)]⟩ }

theorem policyIdFor_weekendLibrary (request : Circumstances) :
    weekendLibrary.policyIdFor request .loan = .ok "three days" := by
  simp [Library.policyIdFor, Rulebook.select, Rulebook.matching, Rule.answer?, weekendLibrary,
    Except.map]

theorem loanPolicyFor_weekendLibrary (request : Circumstances) :
    weekendLibrary.loanPolicyFor request = .ok threeDays := by
  rw [Library.loanPolicyFor, policyIdFor_weekendLibrary]
  rfl

/-- A loan of that Monday is due three days later. Cut back to an expiration at noon it is due at
the end of the Friday before. -/
theorem weekendLibrary_bounded :
    (Moment.endOf friday .utc).instant < mondayAtTen.instant ∧
      (Moment.endOf friday .utc).instant ≤ mondayAtNoon.instant ∧
      ∃ alone, (weekendLibrary.checkoutDueDate (fun _ => none) mondayAtTen (some "desk") none
          none).result = .ok (.ok (threeDays, alone)) ∧
        mondayAtNoon.instant < alone.instant := by
  have inTime : (threeDays.checkoutDueDate mondayAtTen none none .utc).result =
      .ok (.ok thursdayAtTen) :=
    Calculation.result_bind_eq_ok.mpr ⟨_, checkoutCandidate_threeDays, rfl⟩
  have dueAlone : weekendLibrary.DueAlone (fun _ => none) mondayAtTen (some "desk") none threeDays
      thursdayAtTen :=
    ⟨loanPolicyFor_weekendLibrary _, rfl, _, none, checkoutCandidate_threeDays, rfl, inTime⟩
  have found : (weekendLibrary.checkoutDueDate (fun _ => none) mondayAtTen (some "desk")
      (some mondayAtNoon) none).result = .ok (.ok (threeDays, .endOf friday .utc)) :=
    Library.result_checkoutDueDate_eq_ok.mpr ⟨_, dueAlone, rfl⟩
  obtain ⟨inTime, alone, withoutExpiration, cause⟩ := weekendLibrary.checkoutDueDate_bounded
    (fun _ => none) mondayAtTen (some "desk") (some mondayAtNoon) none threeDays _ trivial trivial
    (by rintro _ ⟨⟩; trivial) found
  have early : (Moment.endOf friday .utc).instant < mondayAtTen.instant := by decide
  obtain ⟨_, ⟨⟩, beyond⟩ := cause early
  exact ⟨early, inTime _ rfl, alone, withoutExpiration, beyond⟩

end Lending
