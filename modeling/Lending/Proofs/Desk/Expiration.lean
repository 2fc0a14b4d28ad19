import Lending.Proofs.ClosedDays.Rest
import Lending.Proofs.Desk.Terms
import Lending.Proofs.DueDate.Bounds

/-!
# Cut back to an expiration

A loan that would outlive the account of its patron is cut back to the expiration: a long one, made
for days or longer units, to the end of the open day before, and a short one to the end of the open
hours. Whether it is long is read from the period of the policy, but while a hold is at the head of
the queue the loan is made for another period. If one of the two is long and the other is not, the
loan is cut back in a way that does not go with it.

## Main definitions

* `PeriodUnit.expirationStrategy` — the way to cut back a loan made for a period of a unit
* `LoanPolicy.HoldChangesTerm` — holds that make a long loan short or a short loan long
* `AdjacentDays.EndsAlike` — days on which both ways lead to the same end
* `Library.cutBackBy` — the terms of a loan that is cut back in a given way

## Main results

* `LoanPolicy.expirationStrategy_eq_iff` — the policy chooses the way that goes with the period
  unless a hold changes the term
* `AdjacentDays.result_move_eq_iff` — when both ways come to the same
* `Library.cutBack_follows_period_iff` — when a loan is cut back as its period asks
-/

namespace Lending

/-! ## The way that goes with a period -/

/-- The way to cut back a loan made for a period of a unit: loans for days and longer are due on a
day, others at an hour. -/
def PeriodUnit.expirationStrategy : PeriodUnit → ClosedDayStrategy
  | minutes | hours => .moveToEndOfCurrentHours
  | days | weeks | months => .endOfPreviousDayTruncate

theorem PeriodUnit.expirationStrategy_eq (unit : PeriodUnit) :
    unit.expirationStrategy =
      if unit.isLongTerm then .endOfPreviousDayTruncate else .moveToEndOfCurrentHours := by
  cases unit <;> rfl

namespace LoanPolicy

variable {policy : LoanPolicy} {queue : Option RequestQueue} {unit : PeriodUnit}

/-- Whether a hold at the head of the queue makes a long loan short or a short loan long. -/
def HoldChangesTerm (policy : LoanPolicy) (queue : Option RequestQueue) : Prop :=
  queue.any (·.holdAtHead) = true ∧
    ∃ period ∈ policy.holds.checkoutPeriod,
      period.isLongTerm ≠ policy.period.any (·.isLongTerm)

/-- The period of a checkout is as long as that of the policy, unless a hold changes it. -/
theorem isLongTerm_checkoutPeriod_iff :
    (policy.checkoutPeriod queue).any (·.isLongTerm) = policy.period.any (·.isLongTerm) ↔
      ¬ policy.HoldChangesTerm queue := by
  unfold checkoutPeriod HoldChangesTerm
  by_cases held : queue.any (·.holdAtHead) = true
  · rw [if_pos held]
    cases policy.holds.checkoutPeriod <;> simp [held]
  · rw [if_neg held]
    simp [held]

theorem isLongTerm_of_rolling (rolling : policy.isFixed = false) :
    policy.isLongTerm = policy.period.any (·.isLongTerm) := by
  rw [isLongTerm, rolling, Bool.false_or]

/-- A rolling policy chooses the way to cut back that goes with the period of a checkout, unless a
hold changes the term of the loan. -/
theorem expirationStrategy_eq_iff (rolling : policy.isFixed = false)
    (named : (policy.checkoutPeriod queue).bind (·.unit?) = some unit) :
    policy.expirationStrategy = unit.expirationStrategy ↔ ¬ policy.HoldChangesTerm queue := by
  obtain ⟨period, chosen, known⟩ := Option.bind_eq_some_iff.mp named
  have long : (policy.checkoutPeriod queue).any (·.isLongTerm) = unit.isLongTerm := by
    rw [chosen, Option.any_some, Period.isLongTerm, known, Option.any_some]
  rw [← isLongTerm_checkoutPeriod_iff, long, ← isLongTerm_of_rolling rolling,
    expirationStrategy, unit.expirationStrategy_eq]
  cases policy.isLongTerm <;> cases unit.isLongTerm <;> simp

/-- The candidate of a rolling policy ends a period of a known unit. -/
theorem exists_unit_of_checkoutCandidate {loanDate candidate : Moment} {zone : Zone}
    (rolling : policy.isFixed = false)
    (found : (policy.checkoutCandidate loanDate queue zone).result = .ok (.ok candidate)) :
    ∃ unit, (policy.checkoutPeriod queue).bind (·.unit?) = some unit := by
  unfold checkoutCandidate at found
  split at found
  · cases found
  rw [if_neg (Bool.eq_false_iff.mp rolling)] at found
  obtain ⟨period, usable, -⟩ := Calculation.result_bind_eq_ok.mp found
  have usable := Except.ok.inj usable
  obtain ⟨unit, known⟩ := Option.isSome_iff_exists.mp (policy.unit?_isSome_of_usablePeriod usable)
  obtain ⟨used, -⟩ := policy.usablePeriod_eq_ok_iff.mp usable
  exact ⟨unit, Option.bind_eq_some_iff.mpr ⟨period, used, known⟩⟩

end LoanPolicy

/-! ## Days on which both ways come to the same -/

theorem ClosedDayStrategy.fromTimetable_inj {requested : Moment} {choice? other? : Option Moment} :
    fromTimetable requested choice? = fromTimetable requested other? ↔ choice? = other? := by
  cases choice? <;> cases other? <;> simp [fromTimetable]

/-- A day that closes last when it ends, if it is open at all. -/
theorem OpeningDay.lastClosing?_eq_end_iff {day : OpeningDay} {zone : Zone} :
    (if day.isOpen then some (.endOf day.date zone) else none) = day.lastClosing? zone ↔
      ∀ closing, day.lastClosing? zone = some closing → closing = .endOf day.date zone := by
  cases isOpen : day.isOpen with
  | false =>
    rw [lastClosing?_eq_none_iff.mpr isOpen]
    simp
  | true =>
    have closes : day.lastClosing? zone ≠ none := by
      simp [lastClosing?_eq_none_iff, isOpen]
    obtain ⟨closing, closes⟩ := Option.ne_none_iff_exists'.mp closes
    simp [closes, eq_comm]

namespace AdjacentDays

variable {days : AdjacentDays} {expiration : Moment} {zone : Zone}

/-- Days on which open time before an expiration ends at the end of the open day before: the date of
the expiration has not been open by then, and the open day before closes when it ends. -/
structure EndsAlike (days : AdjacentDays) (expiration : Moment) (zone : Zone) : Prop where
  shut : days.requested.isOpenAt expiration zone = .ok false
  notYet : days.requested.lastClosingBy? expiration zone = none
  untilEnd : ∀ closing, days.previous.lastClosing? zone = some closing →
    closing = .endOf days.previous.date zone

/-- The end of the open day before an expiration is not a moment of its date. -/
theorem LookBack.not_endOfOpenDay (lookBack : days.LookBack) {requested moment : Moment}
    (fallsOn : moment.dateIn zone = .ok days.requested.date) :
    ClosedDayStrategy.endOfOpenDay requested zone days.previous ≠ .ok moment := by
  intro ended
  obtain ⟨isOpen, rfl⟩ := ClosedDayStrategy.endOfOpenDay_eq_ok.mp ended
  have same := Except.ok.inj ((Moment.dateIn_showing _ _ _).symm.trans fallsOn)
  have before := Date.lt_def.mp (lookBack isOpen)
  rw [same] at before
  exact before.false

/-- The end of open time before an expiration is that of the open day before exactly on days of this
kind. -/
theorem result_move_eq_iff (fallsOn : expiration.dateIn zone = .ok days.requested.date)
    (lookBack : days.LookBack) :
    (ClosedDayStrategy.endOfPreviousDayTruncate.move expiration days zone none).result =
        (ClosedDayStrategy.moveToEndOfCurrentHours.move expiration days zone none).result ↔
      days.EndsAlike expiration zone := by
  obtain ⟨isOpen, asked⟩ := days.requested.exists_isOpenAt fallsOn
  rw [ClosedDayStrategy.move_of_dateIn _ none fallsOn,
    ClosedDayStrategy.move_of_dateIn _ none fallsOn]
  simp only [Calculation.result_calculation, ClosedDayStrategy.result_toEndOfCurrentHours asked]
  cases isOpen with
  | true =>
    refine iff_of_false (fun same => ?_) (fun alike => ?_)
    · exact lookBack.not_endOfOpenDay fallsOn (Except.ok.inj same)
    · cases asked.symm.trans alike.shut
  | false =>
    cases found : days.requested.lastClosingBy? expiration zone with
    | some closing =>
      -- this closing is on the date of the expiration
      have today : closing.dateIn zone = .ok days.requested.date := by
        obtain ⟨-, hour, -, rfl⟩ := OpeningDay.exists_of_lastClosingBy? found
        exact Moment.dateIn_showing _ _ _
      refine iff_of_false (fun same => ?_) (fun alike => ?_)
      · exact lookBack.not_endOfOpenDay today (Except.ok.inj same)
      · cases found.symm.trans alike.notYet
    | none =>
      rw [Option.none_or, if_neg Bool.false_ne_true, Except.ok.injEq,
        ClosedDayStrategy.endOfOpenDay, ClosedDayStrategy.fromTimetable_inj,
        days.previous.lastClosing?_eq_end_iff]
      exact ⟨fun untilEnd => ⟨asked, found, untilEnd⟩, fun alike => alike.untilEnd⟩

end AdjacentDays

/-! ## The terms of a loan that is cut back -/

namespace Library

variable {library : Library} {request : Circumstances} {loanDate expiration alone : Moment}
variable {servicePoint : Option String} {queue : Option RequestQueue} {policy : LoanPolicy}

/-- The terms of a loan that is cut back in a given way: its policy, and what the strategy makes of
the expiration on the days around it. -/
def cutBackBy (library : Library) (policy : LoanPolicy) (strategy : ClosedDayStrategy)
    (servicePoint : Option String) (expiration : Moment) : Calculation (LoanPolicy × Moment) := do
  let days ← library.daysAround servicePoint expiration
  let due ← strategy.move expiration days library.zone none
  return (policy, due)

/-- Two ways to cut a loan back come to the same if they do on the days around the expiration. -/
theorem result_cutBackBy_eq_iff {strategy other : ClosedDayStrategy} :
    (library.cutBackBy policy strategy servicePoint expiration).result =
        (library.cutBackBy policy other servicePoint expiration).result ↔
      ∀ days, library.daysAround servicePoint expiration = .ok days →
        (strategy.move expiration days library.zone none).result =
          (other.move expiration days library.zone none).result := by
  simp only [cutBackBy, Calculation.result_bind, Calculation.result_monadLift,
    Calculation.result_pure]
  cases found : library.daysAround servicePoint expiration with
  | error fault => simp [Except.map]
  | ok days =>
    simp only [Except.map, Except.ok.injEq, forall_eq']
    -- the policy is added to a due date, and so every result can be told from the terms
    generalize (strategy.move expiration days library.zone none).result = moved
    generalize (other.move expiration days library.zone none).result = moved'
    rcases moved with fault | failure | due <;> rcases moved' with fault' | failure' | due' <;> simp

/-- The two ways to cut a loan back come to the same if open time ends alike on the days around the
expiration. -/
theorem result_cutBackBy_eq_iff_endsAlike :
    (library.cutBackBy policy .endOfPreviousDayTruncate servicePoint expiration).result =
        (library.cutBackBy policy .moveToEndOfCurrentHours servicePoint expiration).result ↔
      ∀ days, library.daysAround servicePoint expiration = .ok days →
        days.EndsAlike expiration library.zone := by
  rw [result_cutBackBy_eq_iff]
  refine forall₂_congr fun days found => ?_
  obtain ⟨date, fallsOn, around⟩ := daysAround_eq_ok_iff.mp found
  rw [← around.date_requested] at fallsOn
  exact AdjacentDays.result_move_eq_iff fallsOn (lookBack_of_daysAround found)

/-- A loan that would outlive the account of its patron is cut back in the way that the policy
chooses. -/
theorem result_checkoutDueDate_of_beyond
    (dueAlone : library.DueAlone request loanDate servicePoint queue policy alone)
    (beyond : expiration < alone) :
    (library.checkoutDueDate request loanDate servicePoint (some expiration) queue).result =
      (library.cutBackBy policy policy.expirationStrategy servicePoint expiration).result := by
  obtain ⟨selected, known, candidate, days, byPolicy, found, due⟩ := dueAlone
  have due : library.DueOnDays policy loanDate servicePoint queue (.ok alone) :=
    ⟨_, days, byPolicy, daysForStrategy_eq_ok_iff.mp found, due⟩
  rw [due.result_checkoutDueDate selected known]
  refine (Calculation.result_bind_of_ok (a := alone) rfl).trans ?_
  simp only [untilExpiration, if_pos beyond, LoanPolicy.untilExpiration,
    if_neg (Moment.not_le.mpr beyond), AdjacentDays.orClosed, cutBackBy, Calculation.result_bind,
    Calculation.result_monadLift]
  cases library.daysAround servicePoint expiration <;> rfl

/-- **Expirations under holds.** Let the account of a patron expire before the loan would be due
under a rolling policy. The loan is made for a period of a known unit, and it is cut back in the way
that the policy chooses by its own period. This comes to the same as the way that goes with the
period of the loan exactly in two cases: no hold makes a long loan short or a short loan long, or
open time ends alike on the days around the expiration. -/
theorem cutBack_follows_period_iff (library : Library) (request : Circumstances)
    (loanDate expiration alone : Moment) (servicePoint : Option String)
    (queue : Option RequestQueue) (policy : LoanPolicy) (rolling : policy.isFixed = false)
    (withoutExpiration :
      (library.checkoutDueDate request loanDate servicePoint none queue).result =
        .ok (.ok (policy, alone)))
    (beyond : expiration < alone) :
    let given :=
      (library.checkoutDueDate request loanDate servicePoint (some expiration) queue).result
    given = (library.cutBackBy policy policy.expirationStrategy servicePoint expiration).result ∧
      ∃ unit, (policy.checkoutPeriod queue).bind (·.unit?) = some unit ∧
        (given =
            (library.cutBackBy policy unit.expirationStrategy servicePoint expiration).result ↔
          ¬ policy.HoldChangesTerm queue ∨
            ∀ days, library.daysAround servicePoint expiration = .ok days →
              days.EndsAlike expiration library.zone) := by
  intro given
  have dueAlone := result_checkoutDueDate_none_eq_ok.mp withoutExpiration
  have cutBack : given = _ := result_checkoutDueDate_of_beyond dueAlone beyond
  obtain ⟨-, -, candidate, -, byPolicy, -⟩ := dueAlone
  obtain ⟨unit, named⟩ := LoanPolicy.exists_unit_of_checkoutCandidate rolling byPolicy
  refine ⟨cutBack, unit, named, ?_⟩
  rw [cutBack, ← LoanPolicy.expirationStrategy_eq_iff rolling named]
  by_cases same : policy.expirationStrategy = unit.expirationStrategy
  · rw [same]
    exact iff_of_true rfl (.inl rfl)
  rw [or_iff_right same]
  -- there are two ways only, and the policy has chosen the other one
  rw [LoanPolicy.expirationStrategy, unit.expirationStrategy_eq] at same ⊢
  generalize policy.isLongTerm = long, unit.isLongTerm = lentLong at same ⊢
  cases long <;> cases lentLong
  · exact absurd rfl same
  · exact eq_comm.trans result_cutBackBy_eq_iff_endsAlike
  · exact result_cutBackBy_eq_iff_endsAlike
  · exact absurd rfl same

end Library

/-! ## Held items -/

def mondayAtEleven : Moment := .showing monday ⟨39600000000, by decide⟩ .utc

def nextMondayAtTen : Moment := .showing ⟨739011, by decide⟩ mondayAtTen.wall.time .utc

/-- A queue with a hold at its head. -/
def oneHold : RequestQueue := ⟨[{ id := "hold-1", kind := .hold }], by simp⟩

/-- Three days, but another period while a hold waits. -/
def threeDaysOr (held : Period) : LoanPolicy :=
  { threeDays with holds := { checkoutPeriod := some held } }

/-- The weekend library with other terms for every loan. -/
def weekendLibraryUnder (terms : LoanPolicy) : Library where
  records := { weekendLibrary.records with
    policies := ⟨[((.loan, some "three days"), .loan terms)]⟩ }

theorem loanPolicyFor_weekendLibraryUnder (held : Period) (request : Circumstances) :
    (weekendLibraryUnder (threeDaysOr held)).loanPolicyFor request = .ok (threeDaysOr held) := by
  have selected : (weekendLibraryUnder (threeDaysOr held)).policyIdFor request .loan =
      .ok "three days" := policyIdFor_weekendLibrary request
  rw [Library.loanPolicyFor, selected]
  rfl

/-- Without an expiration a loan of that Monday is due at the end of the period for holds. -/
theorem dueAlone_weekendLibraryUnder (held : Period) (due : Moment)
    (candidate : ((threeDaysOr held).checkoutCandidate mondayAtTen (some oneHold) .utc).result =
      .ok (.ok due)) (onward : mondayAtTen ≤ due) :
    (weekendLibraryUnder (threeDaysOr held)).DueAlone (fun _ => none) mondayAtTen (some "desk")
      (some oneHold) (threeDaysOr held) due :=
  ⟨loanPolicyFor_weekendLibraryUnder held _, rfl, due, none, candidate, rfl,
    LoanPolicy.checkoutDueDate_eq_ok.mpr ⟨due, candidate, rfl, onward⟩⟩

/-- Held items are lent for a week in place of three days. A loan of the Monday is cut back to the
end of the Friday before, as its period asks. -/
theorem cutBack_oneWeek_follows :
    let library := weekendLibraryUnder (threeDaysOr (.of .weeks (some 1)))
    let policy := threeDaysOr (.of .weeks (some 1))
    policy.isFixed = false ∧ mondayAtNoon < nextMondayAtTen ∧
      (library.checkoutDueDate (fun _ => none) mondayAtTen (some "desk") none
        (some oneHold)).result = .ok (.ok (policy, nextMondayAtTen)) ∧
      (library.checkoutDueDate (fun _ => none) mondayAtTen (some "desk") (some mondayAtNoon)
        (some oneHold)).result = .ok (.ok (policy, .endOf friday .utc)) := by
  intro library policy
  have withoutExpiration : (library.checkoutDueDate (fun _ => none) mondayAtTen (some "desk") none
      (some oneHold)).result = .ok (.ok (policy, nextMondayAtTen)) :=
    Library.result_checkoutDueDate_none_eq_ok.mpr
      (dueAlone_weekendLibraryUnder _ nextMondayAtTen rfl (by decide))
  have beyond : mondayAtNoon < nextMondayAtTen := by decide
  obtain ⟨-, unit, named, follows⟩ := library.cutBack_follows_period_iff (fun _ => none) mondayAtTen
    mondayAtNoon nextMondayAtTen (some "desk") (some oneHold) policy rfl withoutExpiration beyond
  obtain rfl : .weeks = unit := Option.some.inj named
  have sameTerm : ¬ policy.HoldChangesTerm (some oneHold) := by
    rintro ⟨-, _, ⟨⟩, changed⟩
    exact changed rfl
  exact ⟨rfl, beyond, withoutExpiration, (follows.mpr (.inl sameTerm)).trans rfl⟩

/-- Held items are lent for two hours. A loan of the Monday at ten, cut back to an expiration at
eleven, in open hours, is due at the end of the Friday before. -/
theorem not_always_follows_period : ¬ ∀ (library : Library) (request : Circumstances)
    (loanDate expiration alone : Moment) (servicePoint : Option String)
    (queue : Option RequestQueue) (policy : LoanPolicy) (unit : PeriodUnit),
    policy.isFixed = false →
    (library.checkoutDueDate request loanDate servicePoint none queue).result =
      .ok (.ok (policy, alone)) →
    expiration < alone →
    (policy.checkoutPeriod queue).bind (·.unit?) = some unit →
    (library.checkoutDueDate request loanDate servicePoint (some expiration) queue).result =
      (library.cutBackBy policy unit.expirationStrategy servicePoint expiration).result := by
  intro always
  let twoHours : Period := .of .hours (some 2)
  have dueAlone := dueAlone_weekendLibraryUnder twoHours mondayAtNoon rfl (by decide)
  have beyond : mondayAtEleven < mondayAtNoon := by decide
  have byPeriod := always _ _ _ _ _ _ _ _ .hours rfl
    (Library.result_checkoutDueDate_none_eq_ok.mpr dueAlone) beyond rfl
  have given := (Library.result_checkoutDueDate_of_beyond dueAlone beyond).symm.trans byPeriod
  have same : Moment.endOf friday .utc = mondayAtEleven :=
    congrArg Prod.snd (Except.ok.inj (Except.ok.inj given))
  exact absurd same (by decide)

end Lending
