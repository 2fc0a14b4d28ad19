import Lending.Desk.Terms
import Lending.Proofs.Overdue.ClosedTime

/-!
# Overdue time from the records

Overdue time without closed time is counted on the days that are stored for the service point of the
loan. A library does not read all of them: it looks up those from the date of the due date to the
current date, by the clock of its own zone, and it looks up none if the loan is not overdue or if
closed time counts. In a zone whose clocks are never changed nothing is lost by this: the opening
hours of any other date end before the due date or begin after the current time.

## Main definitions

* `Records.storedDays` — all days that are stored for a service point

## Main results

* `openSeconds_filter` — days that share no time with a span may be left out
* `Calendar.openMinutes_between` — the open minutes of a calendar are those of the dates in question
* `Library.overdueMinutes_eq_storedDays` — the overdue minutes of a loan are those on all stored
  days
-/

namespace Lending

variable {start stop first last : Moment} {days : List OpeningDay} {day : OpeningDay} {zone : Zone}

/-! ## Days that share no time -/

/-- A span that ends by the start, or begins at the end or later, shares no time. -/
theorem overlapSeconds_eq_none (neverFirst : first.zone.NeverChanges)
    (neverLast : last.zone.NeverChanges) (inStep : stop.InStep start)
    (apart : last.instant ≤ start.instant ∨ stop.instant ≤ first.instant) :
    overlapSeconds start stop (first, last) = none := by
  have shares : ¬ 0 < sharedMicros start.instant stop.instant (first.instant, last.instant) := by
    rw [sharedMicros_pos_iff]
    omega
  rw [overlapSeconds_eq neverFirst neverLast inStep, if_neg shares]

/-- The opening hours of a date on which neither of two moments falls, and which is not between
theirs, share no time with the span of the two. -/
theorem overlapSeconds_of_not_between {dueDate today : Date} (never : zone.NeverChanges)
    (inStep : stop.InStep start) (startsOn : start.dateIn zone = .ok dueDate)
    (stopsOn : stop.dateIn zone = .ok today) (outside : day.date < dueDate ∨ today < day.date) :
    ∀ period ∈ day.periods zone, overlapSeconds start stop period = none := by
  intro period listed
  obtain ⟨hour, -, rfl⟩ := List.mem_map.mp listed
  apply overlapSeconds_eq_none never never inStep
  rcases outside with before | after
  · exact .inl (Moment.showing_lt_of_date_lt never startsOn before hour.stop).le
  · exact .inr (Moment.lt_showing_of_date_lt never stopsOn after hour.start).le

/-- Days that share no time with a span may be left out when its open time is added up. -/
theorem openSeconds_filter {keeps : OpeningDay → Bool}
    (shareNone : ∀ day ∈ days, keeps day = false →
      ∀ period ∈ day.periods zone, overlapSeconds start stop period = none) :
    openSeconds start stop (days.filter keeps) zone = openSeconds start stop days zone := by
  unfold openSeconds
  congr 1
  induction days with
  | nil => rfl
  | cons day days ih =>
    have rest := ih fun other listed => shareNone other (List.mem_cons_of_mem day listed)
    by_cases kept : keeps day = true
    · rw [List.filter_cons_of_pos kept, List.flatMap_cons, List.flatMap_cons,
        List.filterMap_append, List.filterMap_append, rest]
    · have none : (day.periods zone).filterMap (overlapSeconds start stop) = [] :=
        List.filterMap_eq_nil_iff.mpr
          (shareNone day List.mem_cons_self (Bool.eq_false_iff.mpr kept))
      rw [List.filter_cons_of_neg kept, List.flatMap_cons, List.filterMap_append, none, rest,
        List.nil_append]

/-- Between two moments only the dates of these and those between them count. -/
theorem openMinutes_between {dueDate today : Date} (never : zone.NeverChanges)
    (inStep : stop.InStep start) (startsOn : start.dateIn zone = .ok dueDate)
    (stopsOn : stop.dateIn zone = .ok today) (days : List OpeningDay) :
    openMinutes start stop
        (days.filter fun day => decide (dueDate ≤ day.date) && decide (day.date ≤ today)) zone =
      openMinutes start stop days zone := by
  unfold openMinutes
  rw [openSeconds_filter]
  intro day _ leftOut
  apply overlapSeconds_of_not_between never inStep startsOn stopsOn
  rw [Bool.and_eq_false_iff, decide_eq_false_iff_not, decide_eq_false_iff_not, Date.le_def,
    Date.le_def] at leftOut
  rw [Date.lt_def, Date.lt_def]
  omega

/-- Between two moments a service point is open on the dates of these and those between them. -/
theorem Calendar.openMinutes_between (calendar : Calendar) {dueDate today : Date}
    (never : zone.NeverChanges) (inStep : stop.InStep start)
    (startsOn : start.dateIn zone = .ok dueDate) (stopsOn : stop.dateIn zone = .ok today) :
    openMinutes start stop (calendar.between dueDate today) zone =
      openMinutes start stop calendar.days zone :=
  Lending.openMinutes_between never inStep startsOn stopsOn calendar.days

/-! ## Stored days -/

/-- All days that are stored for a service point, in the order of their dates. Without a service
point, or without a calendar for it, there are none. -/
def Records.storedDays (records : Records) (servicePoint : Option String) : List OpeningDay :=
  match servicePoint.bind fun id => records.calendars.find? (some id) with
  | none => []
  | some calendar => calendar.days

/-- The days that are looked up between the dates of two moments have all the open minutes of the
stored ones. -/
theorem Records.openMinutes_daysBetween (records : Records) (id : String) {dueDate today : Date}
    (never : zone.NeverChanges) (inStep : stop.InStep start)
    (startsOn : start.dateIn zone = .ok dueDate) (stopsOn : stop.dateIn zone = .ok today) :
    openMinutes start stop (records.daysBetween (some id) dueDate today) zone =
      openMinutes start stop (records.storedDays (some id)) zone := by
  unfold daysBetween storedDays
  rw [Option.bind_some]
  cases records.calendars.find? (some id) with
  | none => rfl
  | some calendar => exact calendar.openMinutes_between never inStep startsOn stopsOn

/-! ## Overdue minutes -/

namespace Loan

variable {loan : Loan} {policy : Option LoanPolicy} {fine : FinePolicy} {now : Moment}

/-- On given days overdue minutes can always be counted. -/
theorem exists_overdueMinutes (days : List OpeningDay) :
    ∃ minutes, loan.overdueMinutes policy fine now (some days) zone = .ok minutes := by
  have counted : ∃ elapsed, loan.elapsedMinutes fine now (some days) zone = .ok elapsed := by
    unfold elapsedMinutes
    split <;> exact ⟨_, rfl⟩
  obtain ⟨elapsed, counted⟩ := counted
  exact ⟨_, overdueMinutes_of_elapsedMinutes counted⟩

/-- Days count by their open minutes only. -/
theorem overdueMinutes_congr {days others : List OpeningDay}
    (same : openMinutes loan.due now days zone = openMinutes loan.due now others zone) :
    loan.overdueMinutes policy fine now (some days) zone =
      loan.overdueMinutes policy fine now (some others) zone := by
  simp only [overdueMinutes, elapsedMinutes, same]

/-- If a loan is not overdue, or closed time counts, no days are looked at. -/
theorem overdueMinutes_of_idle (idle : ¬ (loan.due < now ∧ fine.countClosed = false))
    (days others : Option (List OpeningDay)) :
    loan.overdueMinutes policy fine now days zone =
      loan.overdueMinutes policy fine now others zone := by
  unfold overdueMinutes
  by_cases due : now ≤ loan.due
  · rw [if_pos due, if_pos due]
  · have counts : fine.countClosed = true :=
      Bool.eq_true_of_not_eq_false fun leftOut => idle ⟨Moment.not_le.mp due, leftOut⟩
    simp only [elapsedMinutes, counts, if_true]

end Loan

/-- **No open time is lost.** Let the clocks of a library never be changed, and let them show the
due date of a loan and the current time, which are in step. Then the overdue minutes that the
library finds are those that are counted on all days stored for the service point of the loan, and
there always are such. -/
theorem Library.overdueMinutes_eq_storedDays (library : Library) (loan : Loan) (now : Moment)
    (dueDate today : Date) (never : library.zone.NeverChanges) (inStep : now.InStep loan.due)
    (dueOn : loan.due.dateIn library.zone = .ok dueDate)
    (nowOn : now.dateIn library.zone = .ok today) :
    ∃ minutes, library.overdueMinutes loan now = .ok minutes ∧
      loan.overdueMinutes (some (library.records.loanPolicy loan.policyId))
          (library.records.finePolicy loan.finePolicyId) now
          (some (library.records.storedDays loan.servicePointId)) library.zone = .ok minutes := by
  obtain ⟨minutes, counted⟩ : ∃ minutes,
      loan.overdueMinutes (some (library.records.loanPolicy loan.policyId))
        (library.records.finePolicy loan.finePolicyId) now
        (some (library.records.storedDays loan.servicePointId)) library.zone = .ok minutes :=
    Loan.exists_overdueMinutes (library.records.storedDays loan.servicePointId)
  refine ⟨minutes, ?_, counted⟩
  unfold overdueMinutes overdueDays
  by_cases asks : loan.due < now ∧
      (library.records.finePolicy loan.finePolicyId).countClosed = false
  · simp only [if_pos asks]
    cases atPoint : loan.servicePointId with
    | none =>
      rw [atPoint] at counted
      exact counted
    | some id =>
      rw [atPoint] at counted
      simp only [dueOn, nowOn]
      have all := library.records.openMinutes_daysBetween id never inStep dueOn nowOn
      exact (Loan.overdueMinutes_congr all).trans counted
  · simp only [if_neg asks]
    exact (Loan.overdueMinutes_of_idle asks _ _).trans counted

/-- The office days at a desk in Kolkata, where clocks are five and a half hours ahead of universal
time and closed time does not count. -/
def kolkataLibrary : Library where
  settings := { zone := .fixed 19800 }
  records :=
    { calendars := ⟨[(some "desk", { days := officeDays.reverse, ordered := by decide })]⟩
      policies :=
        ⟨[((.overdueFine, some "open time"),
          .fine { id := some "open time", countClosed := false })]⟩ }

/-- A loan due at eight in the evening in universal time, when the next day has begun there. -/
def kolkataLoan : Loan where
  id := "loan-1"
  due := .showing (.ofDay 738885) (.ofHour 20) .utc
  finePolicyId := some "open time"
  servicePointId := some "desk"

/-- Six in the morning, which is half past eleven in Kolkata. -/
def kolkataMorning : Moment := .showing (.ofDay 738886) (.ofHour 6) .utc

/-- Until then the desk is open for two and a half hours. The first of the office days is not looked
up, although the due date falls on it in universal time. -/
theorem overdueMinutes_kolkataLoan :
    kolkataLibrary.overdueMinutes kolkataLoan kolkataMorning = .ok 150 ∧
      kolkataLoan.overdueMinutes (some (.unknown none))
        { id := some "open time", countClosed := false } kolkataMorning (some officeDays.reverse)
        (.fixed 19800) = .ok 150 := by
  obtain ⟨minutes, found, counted⟩ := kolkataLibrary.overdueMinutes_eq_storedDays kolkataLoan
    kolkataMorning (.ofDay 738886) (.ofDay 738886) (by decide) (by decide) (by decide) (by decide)
  have total : kolkataLibrary.overdueMinutes kolkataLoan kolkataMorning = .ok 150 := by decide
  obtain rfl := Except.ok.inj (total.symm.trans found)
  exact ⟨found, counted⟩

end Lending
