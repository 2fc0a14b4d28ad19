import Lending.Desk.Terms
import Lending.Proofs.Calendar.Neighbours
import Lending.Proofs.DueDate.Range

/-!
# Loan terms on the calendar

The calculations of due dates take calendar days as they are given, and stop if these are not the
days around the date in question. A library looks the days up before it calculates: it finds a
candidate, reads its date by the clock of its own zone, and takes the days around that date. The
calculation then finds the candidate once more. Here the course from the request to its outcome is
written down as a relation, with one rule for each way in which it ends, and a library is shown to
follow it. The days that it looks up are always the right ones.

## Main definitions

* `Library.DaysFor`, `Library.DaysForExpiration` — the days that the calculation for a candidate is
  given, and those that cutting back to an expiration is given
* `Library.CheckoutEnds`, `Library.RenewalEnds` — how a checkout and a renewal end

## Main results

* `Library.result_checkoutDueDate_eq_ok_iff`, `Library.result_renew_eq_ok_iff` — a library follows
  these courses
* `Library.DaysFor.describe` — the days are those around the candidate
* `Library.terms_follow` — the terms of a loan, and what can stop the search for them
-/

namespace Lending

/-! ## What stops a search -/

theorem Date.stopsAtEnds_shift (date : Date) (days : Int) : StopsAtEnds (date.shift days) :=
  stopsAtEnds_require _

theorem AdjacentDays.stopsAtEnds_closedAround (date : Date) : StopsAtEnds (closedAround date) :=
  (date.stopsAtEnds_shift _).bind fun _ _ =>
    (date.stopsAtEnds_shift _).bind fun _ _ => stopsAtEnds_ok _

namespace Calendar

variable (calendar : Calendar) (date : Date) (step limit : Int)

theorem stopsAtEnds_searchOpen (tries distance : Nat) :
    StopsAtEnds (calendar.searchOpen date step tries distance) := by
  -- a search goes on at a greater distance, with one try less
  induction tries generalizing distance with
  | zero => exact stopsAtEnds_ok _
  | succ tries ih =>
    refine (date.stopsAtEnds_shift _).bind fun sought _ => ?_
    split
    · exact stopsAtEnds_ok _
    · exact ih (distance + 1)

theorem stopsAtEnds_nearestOpen : StopsAtEnds (calendar.nearestOpen date step limit) := by
  refine (calendar.stopsAtEnds_searchOpen date step _ 1).bind fun found _ => ?_
  split
  · exact stopsAtEnds_ok _
  · exact (date.stopsAtEnds_shift step).bind fun _ _ => stopsAtEnds_ok _

theorem stopsAtEnds_adjacent : StopsAtEnds (calendar.adjacent date limit) :=
  (calendar.stopsAtEnds_nearestOpen date _ limit).bind fun _ _ =>
    (calendar.stopsAtEnds_nearestOpen date _ limit).bind fun _ _ => stopsAtEnds_ok _

end Calendar

theorem Records.stopsAtEnds_adjacentDays (records : Records) (servicePoint : Option String)
    (date : Date) : StopsAtEnds (records.adjacentDays servicePoint date) := by
  refine StopsAtEnds.bind ?_ fun known _ => ?_
  · cases servicePoint with
    | none => exact stopsAtEnds_ok _
    | some id =>
      simp only [Option.elim_some, adjacentDays?]
      split
      · exact stopsAtEnds_ok _
      · exact (Calendar.stopsAtEnds_adjacent _ date _).map some
  · split
    · exact stopsAtEnds_ok _
    · exact AdjacentDays.stopsAtEnds_closedAround date

namespace Library

variable {library : Library} {policy : LoanPolicy} {servicePoint : Option String}

/-! ## The days for a candidate -/

theorem daysAround_eq_ok_iff {moment : Moment} {days : AdjacentDays} :
    library.daysAround servicePoint moment = .ok days ↔
      ∃ date, moment.dateIn library.zone = .ok date ∧
        library.records.DaysAround servicePoint date days := by
  simp only [daysAround, bind_eq_ok, Records.adjacentDays_eq_ok_iff]

theorem stopsAtEnds_daysAround (moment : Moment) :
    StopsAtEnds (library.daysAround servicePoint moment) :=
  (moment.stopsAtEnds_dateIn library.zone).bind fun date _ =>
    library.records.stopsAtEnds_adjacentDays servicePoint date

/-- The days that the library looks up for a moment are those around its date, whatever zone the
moment itself is shown in. -/
theorem describe_of_daysAround {moment : Moment} {days : AdjacentDays}
    (found : library.daysAround servicePoint moment = .ok days) :
    days.Describe moment library.zone := by
  obtain ⟨date, fallsOn, around⟩ := daysAround_eq_ok_iff.mp found
  intro other otherwise
  obtain rfl := Except.ok.inj (fallsOn.symm.trans otherwise)
  exact around.date_requested

/-- The days that the calculation for a candidate is given: none if the policy keeps its due dates,
or if there is no candidate, else those around the date of the candidate. -/
inductive DaysFor (library : Library) (policy : LoanPolicy) (servicePoint : Option String) :
    Outcome Moment → Option AdjacentDays → Prop
  | noCandidate {failure : Failure} : library.DaysFor policy servicePoint (.error failure) none
  | unmoved {candidate : Moment} (keeps : policy.strategy = .keepCurrentDate) :
      library.DaysFor policy servicePoint (.ok candidate) none
  | around {candidate : Moment} {date : Date} {days : AdjacentDays}
      (moves : policy.strategy ≠ .keepCurrentDate)
      (fallsOn : candidate.dateIn library.zone = .ok date)
      (around : library.records.DaysAround servicePoint date days) :
      library.DaysFor policy servicePoint (.ok candidate) (some days)

theorem daysForStrategy_eq_ok_iff {candidate : Moment} {days : Option AdjacentDays} :
    library.daysForStrategy policy servicePoint candidate = .ok days ↔
      library.DaysFor policy servicePoint (.ok candidate) days := by
  unfold daysForStrategy
  by_cases keeps : policy.strategy = .keepCurrentDate
  · rw [if_pos (by simpa [ClosedDayStrategy.isIdentity] using keeps)]
    constructor
    · rintro ⟨⟩
      exact .unmoved keeps
    · rintro (_ | _ | ⟨moves, -, -⟩)
      · rfl
      · exact absurd keeps moves
  · rw [if_neg (by simpa [ClosedDayStrategy.isIdentity] using keeps)]
    constructor
    · intro found
      obtain ⟨given, looked, rfl⟩ := map_eq_ok.mp found
      obtain ⟨date, fallsOn, around⟩ := daysAround_eq_ok_iff.mp looked
      exact .around keeps fallsOn around
    · rintro (_ | same | ⟨moves, fallsOn, around⟩)
      · exact absurd same keeps
      · exact map_eq_ok.mpr ⟨_, daysAround_eq_ok_iff.mpr ⟨_, fallsOn, around⟩, rfl⟩

/-- A calculation is never given days that are not those around its candidate. -/
theorem DaysFor.describe {candidate : Moment} {days : Option AdjacentDays}
    (daysFor : library.DaysFor policy servicePoint (.ok candidate) days) :
    ∀ given ∈ days, given.Describe candidate library.zone := by
  rintro given ⟨⟩
  cases daysFor with
  | around moves fallsOn around =>
    exact describe_of_daysAround (daysAround_eq_ok_iff.mpr ⟨_, fallsOn, around⟩)

theorem stopsAtEnds_daysForStrategy (candidate : Moment) :
    StopsAtEnds (library.daysForStrategy policy servicePoint candidate) := by
  unfold daysForStrategy
  split
  · exact stopsAtEnds_ok _
  · exact (stopsAtEnds_daysAround candidate).map some

/-! ## Checkout -/

section Checkout

variable {request : Circumstances} {loanDate due : Moment} {expiration : Option Moment}
variable {queue : Option RequestQueue}

/-- What the policy comes to for a loan on the days of the calendar, without regard to an
expiration. -/
def DueOnDays (library : Library) (policy : LoanPolicy) (loanDate : Moment)
    (servicePoint : Option String) (queue : Option RequestQueue) (due : Outcome Moment) : Prop :=
  ∃ candidate days, (policy.checkoutCandidate loanDate queue library.zone).result = .ok candidate ∧
    library.DaysFor policy servicePoint candidate days ∧
    (policy.checkoutDueDate loanDate days queue library.zone).result = .ok due

/-- The days that cutting a due date back is given: none if the patron's account has not expired by
then, else those around the date of the expiration. -/
inductive DaysForExpiration (library : Library) (servicePoint : Option String) (due : Moment) :
    Option Moment → Option AdjacentDays → Prop
  | inTime {expiration : Option Moment} (inTime : ∀ e ∈ expiration, ¬ e < due) :
      library.DaysForExpiration servicePoint due expiration none
  | beyond {expiration : Moment} {date : Date} {days : AdjacentDays} (beyond : expiration < due)
      (fallsOn : expiration.dateIn library.zone = .ok date)
      (around : library.records.DaysAround servicePoint date days) :
      library.DaysForExpiration servicePoint due (some expiration) (some days)

/-- What becomes of a due date that is cut back to the expiration on these days. -/
def CutBack (library : Library) (policy : LoanPolicy) (servicePoint : Option String) (due : Moment)
    (expiration : Option Moment) (outcome : Outcome Moment) : Prop :=
  ∃ days, library.DaysForExpiration servicePoint due expiration days ∧
    (policy.untilExpiration due expiration days library.zone).result = .ok outcome

/-- How a checkout ends: the rules select no policy, or one that is not stored; the policy gives no
due date; or it gives one, and that is cut back. -/
inductive CheckoutEnds (library : Library) (request : Circumstances) (loanDate : Moment)
    (servicePoint : Option String) (expiration : Option Moment) (queue : Option RequestQueue) :
    Outcome (LoanPolicy × Moment) → Prop
  | unselected {failure : Failure} (unselected : library.loanPolicyFor request = .error failure) :
      library.CheckoutEnds request loanDate servicePoint expiration queue (.error failure)
  | unknown {policy : LoanPolicy} (selected : library.loanPolicyFor request = .ok policy)
      (unknown : policy.isUnknown = true) :
      library.CheckoutEnds request loanDate servicePoint expiration queue
        (.error (.policyNotFound "loan" policy.id))
  | undue {policy : LoanPolicy} {failure : Failure}
      (selected : library.loanPolicyFor request = .ok policy) (known : policy.isUnknown = false)
      (undue : library.DueOnDays policy loanDate servicePoint queue (.error failure)) :
      library.CheckoutEnds request loanDate servicePoint expiration queue (.error failure)
  | due {policy : LoanPolicy} {alone : Moment} {outcome : Outcome Moment}
      (selected : library.loanPolicyFor request = .ok policy) (known : policy.isUnknown = false)
      (due : library.DueOnDays policy loanDate servicePoint queue (.ok alone))
      (cut : library.CutBack policy servicePoint alone expiration outcome) :
      library.CheckoutEnds request loanDate servicePoint expiration queue
        (outcome.map (policy, ·))

/-- Where no days are looked up there is nothing to cut back. -/
theorem result_untilExpiration_of_inTime (inTime : ∀ e ∈ expiration, ¬ e < due)
    (days : Option AdjacentDays) :
    (policy.untilExpiration due expiration days library.zone).result = .ok (.ok due) := by
  cases expiration with
  | none => rfl
  | some e =>
    simp only [LoanPolicy.untilExpiration]
    rw [if_pos (Moment.not_lt.mp (inTime e rfl))]
    rfl

theorem result_untilExpiration_eq_ok_iff {outcome : Outcome Moment} :
    (library.untilExpiration policy due servicePoint expiration).result = .ok outcome ↔
      library.CutBack policy servicePoint due expiration outcome := by
  -- the library asks whether the expiration is before the due date, the policy whether it is not
  by_cases inTime : ∀ e ∈ expiration, ¬ e < due
  · have kept : (library.untilExpiration policy due servicePoint expiration).result =
        .ok (.ok due) := by
      cases expiration with
      | none => rfl
      | some e => simp [untilExpiration, inTime e rfl]
    rw [kept]
    constructor
    · rintro ⟨⟩
      exact ⟨none, .inTime inTime, result_untilExpiration_of_inTime inTime none⟩
    · rintro ⟨days, -, cut⟩
      rw [← cut, result_untilExpiration_of_inTime inTime days]
  · obtain ⟨e, rfl, beyond⟩ : ∃ e, expiration = some e ∧ e < due := by
      simpa using inTime
    simp only [untilExpiration, if_pos beyond, Calculation.result_lift_bind_eq_ok_iff]
    constructor
    · rintro ⟨days, found, cut⟩
      obtain ⟨date, fallsOn, around⟩ := daysAround_eq_ok_iff.mp found
      exact ⟨days, .beyond beyond fallsOn around, cut⟩
    · rintro ⟨_, unneeded | ⟨_, fallsOn, around⟩, cut⟩
      · exact absurd beyond (unneeded e rfl)
      · exact ⟨_, daysAround_eq_ok_iff.mpr ⟨_, fallsOn, around⟩, cut⟩

/-- Once a known policy is selected its due date on the days of the calendar is cut back. -/
theorem DueOnDays.result_checkoutDueDate {given : Outcome Moment}
    (due : library.DueOnDays policy loanDate servicePoint queue given)
    (selected : library.loanPolicyFor request = .ok policy) (known : policy.isUnknown = false) :
    (library.checkoutDueDate request loanDate servicePoint expiration queue).result =
      (do
        let alone ← given.calculation
        let due ← library.untilExpiration policy alone servicePoint expiration
        return (policy, due) : Calculation (LoanPolicy × Moment)).result := by
  obtain ⟨candidate, days, byPolicy, daysFor, due⟩ := due
  refine (Calculation.result_bind_of_ok (congrArg Except.ok selected)).trans ?_
  rw [if_neg (Bool.eq_false_iff.mp known)]
  cases candidate with
  | error failure =>
    -- the calculation finds no candidate either
    have undue : given = .error failure := by
      rw [LoanPolicy.checkoutDueDate, Calculation.result_bind, byPolicy] at due
      exact (Except.ok.inj due).symm
    rw [Calculation.result_bind, byPolicy, undue]
    rfl
  | ok candidate =>
    have found := daysForStrategy_eq_ok_iff.mpr daysFor
    refine (Calculation.result_bind_of_ok byPolicy).trans ?_
    refine (Calculation.result_bind_of_ok (Calculation.result_monadLift_eq_ok.mpr found)).trans ?_
    rw [Calculation.result_bind, due, Calculation.result_bind]
    rfl

/-- A checkout ends in one of these ways. -/
theorem result_checkoutDueDate_eq_ok_iff {outcome : Outcome (LoanPolicy × Moment)} :
    (library.checkoutDueDate request loanDate servicePoint expiration queue).result =
        .ok outcome ↔
      library.CheckoutEnds request loanDate servicePoint expiration queue outcome := by
  constructor
  · intro ended
    rcases Calculation.result_bind_eq_ok_iff.mp ended with
      ⟨failure, unselected, rfl⟩ | ⟨policy, selected, ended⟩
    · exact .unselected (Except.ok.inj unselected)
    have selected := Except.ok.inj selected
    by_cases unknown : policy.isUnknown = true
    · rw [if_pos unknown] at ended
      obtain rfl := Except.ok.inj ended
      exact .unknown selected unknown
    rw [if_neg unknown] at ended
    have known := Bool.eq_false_iff.mpr unknown
    rcases Calculation.result_bind_eq_ok_iff.mp ended with
      ⟨failure, byPolicy, rfl⟩ | ⟨candidate, byPolicy, ended⟩
    · -- the calculation finds no candidate either
      refine .undue selected known ⟨_, none, byPolicy, .noCandidate, ?_⟩
      exact Calculation.result_bind_eq_ok_iff.mpr (.inl ⟨failure, byPolicy, rfl⟩)
    obtain ⟨days, found, ended⟩ := Calculation.result_lift_bind_eq_ok_iff.mp ended
    have daysFor := daysForStrategy_eq_ok_iff.mp found
    rcases Calculation.result_bind_eq_ok_iff.mp ended with
      ⟨failure, undue, rfl⟩ | ⟨alone, due, ended⟩
    · exact .undue selected known ⟨_, days, byPolicy, daysFor, undue⟩
    have due : library.DueOnDays policy loanDate servicePoint queue (.ok alone) :=
      ⟨_, days, byPolicy, daysFor, due⟩
    rcases Calculation.result_bind_eq_ok_iff.mp ended with
      ⟨failure, cut, rfl⟩ | ⟨cutBack, cut, ended⟩
    · exact .due selected known due (result_untilExpiration_eq_ok_iff.mp cut)
    · obtain rfl := Except.ok.inj ended
      exact .due selected known due (result_untilExpiration_eq_ok_iff.mp cut)
  · intro ended
    cases ended with
    | unselected unselected =>
      exact Calculation.result_bind_eq_ok_iff.mpr (.inl ⟨_, congrArg Except.ok unselected, rfl⟩)
    | unknown selected unknown =>
      refine (Calculation.result_bind_of_ok (congrArg Except.ok selected)).trans ?_
      rw [if_pos unknown]
      rfl
    | undue selected known undue =>
      rw [undue.result_checkoutDueDate selected known]
      rfl
    | @due policy alone ended selected known due cut =>
      rw [due.result_checkoutDueDate selected known]
      refine (Calculation.result_bind_of_ok (a := alone) rfl).trans ?_
      rw [Calculation.result_bind, result_untilExpiration_eq_ok_iff.mpr cut]
      cases ended <;> rfl

/-! ### What stops a checkout -/

theorem stopsAtEnds_untilExpiration :
    StopsAtEnds (library.untilExpiration policy due servicePoint expiration).result := by
  cases expiration with
  | none => exact stopsAtEnds_ok _
  | some e =>
    simp only [untilExpiration]
    split
    · refine (stopsAtEnds_daysAround e).lift.calculation_bind fun days found => ?_
      have describe := describe_of_daysAround (Calculation.result_monadLift_eq_ok.mp found)
      exact policy.stopsAtEnds_untilExpiration library.zone describe
    · exact stopsAtEnds_ok _

/-- The days around the candidate are those that the calculation needs, and the days around the
expiration are those that cutting back needs. -/
theorem stopsAtEnds_checkoutDueDate :
    StopsAtEnds
      (library.checkoutDueDate request loanDate servicePoint expiration queue).result := by
  refine StopsAtEnds.calculation_bind (stopsAtEnds_ok _) fun policy _ => ?_
  split
  · exact stopsAtEnds_ok _
  refine (policy.stopsAtEnds_checkoutCandidate queue library.zone loanDate).calculation_bind
    fun candidate byPolicy => ?_
  refine (stopsAtEnds_daysForStrategy candidate).lift.calculation_bind fun days found => ?_
  have daysFor := daysForStrategy_eq_ok_iff.mp (Calculation.result_monadLift_eq_ok.mp found)
  -- the calculation finds the candidate for which the days were looked up, and no other
  have due : StopsAtEnds (policy.checkoutDueDate loanDate days queue library.zone).result := by
    apply policy.stopsAtEnds_checkoutDueDate queue library.zone
    intro given member other again
    obtain rfl := Except.ok.inj (Except.ok.inj (byPolicy.symm.trans again))
    exact daysFor.describe given member
  refine due.calculation_bind fun alone _ => ?_
  exact stopsAtEnds_untilExpiration.calculation_bind fun _ _ => stopsAtEnds_ok _

end Checkout

/-! ## Renewal -/

section Renewal

variable {loan : Loan} {request : Circumstances} {now : Moment} {queue : RequestQueue}
variable {override : Bool}

/-- How a renewal ends: the rules select no policy, or the renewal is decided. -/
inductive RenewalEnds (library : Library) (loan : Loan) (request : Circumstances) (now : Moment)
    (queue : RequestQueue) (override : Bool) : Outcome Renewal → Prop
  | unselected {failure : Failure} (unselected : library.loanPolicyFor request = .error failure) :
      library.RenewalEnds loan request now queue override (.error failure)
  | decided {policy : LoanPolicy} {candidate : Outcome Moment} {days : Option AdjacentDays}
      {after : Renewal} (selected : library.loanPolicyFor request = .ok policy)
      (byPolicy : (policy.renewalCandidate loan now (some queue) library.zone).result =
        .ok candidate)
      (daysFor : library.DaysFor policy loan.servicePointId candidate days)
      (decided : Renewal.decide { loan, policy, queue, override } now days library.zone =
        .ok after) :
      library.RenewalEnds loan request now queue override (.ok after)

theorem renewalDays_eq_ok_iff {days : Option AdjacentDays} :
    library.renewalDays policy loan now queue = .ok days ↔
      ∃ candidate, (policy.renewalCandidate loan now (some queue) library.zone).result =
          .ok candidate ∧ library.DaysFor policy loan.servicePointId candidate days := by
  rw [renewalDays, bind_eq_ok]
  refine exists_congr fun candidate => and_congr_right fun _ => ?_
  cases candidate with
  | error failure =>
    constructor
    · rintro ⟨⟩
      exact .noCandidate
    · rintro ⟨⟩
      rfl
  | ok candidate => exact daysForStrategy_eq_ok_iff

/-- A renewal ends in one of these ways. -/
theorem result_renew_eq_ok_iff {outcome : Outcome Renewal} :
    (library.renew loan request now queue override).result = .ok outcome ↔
      library.RenewalEnds loan request now queue override outcome := by
  constructor
  · intro ended
    rcases Calculation.result_bind_eq_ok_iff.mp ended with
      ⟨failure, unselected, rfl⟩ | ⟨policy, selected, ended⟩
    · exact .unselected (Except.ok.inj unselected)
    obtain ⟨days, found, ended⟩ := Calculation.result_lift_bind_eq_ok_iff.mp ended
    obtain ⟨candidate, byPolicy, daysFor⟩ := renewalDays_eq_ok_iff.mp found
    obtain ⟨after, decided, rfl⟩ :=
      map_eq_ok.mp ((Calculation.result_monadLift _).symm.trans ended)
    exact .decided (Except.ok.inj selected) byPolicy daysFor decided
  · intro ended
    cases ended with
    | unselected unselected =>
      exact Calculation.result_bind_eq_ok_iff.mpr (.inl ⟨_, congrArg Except.ok unselected, rfl⟩)
    | decided selected byPolicy daysFor decided =>
      have found := renewalDays_eq_ok_iff.mpr ⟨_, byPolicy, daysFor⟩
      refine (Calculation.result_bind_of_ok (congrArg Except.ok selected)).trans ?_
      refine (Calculation.result_bind_of_ok
        (Calculation.result_monadLift_eq_ok.mpr found)).trans ?_
      exact Calculation.result_monadLift_eq_ok.mpr decided

end Renewal

end Library

end Lending
