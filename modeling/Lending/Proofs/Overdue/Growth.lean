import Lending.Proofs.Overdue.ClosedTime
import Lending.Proofs.Time.Sums

/-!
# Overdue time grows

A loan that is overdue does not get less so by waiting. The later it is, and the earlier a loan was
due, the more each opening hour shares with the time in between. What they share is rounded to
seconds, added up with a rounding at every step, cut down to minutes and lessened by the grace, and
none of this reverses the order of two counts, whatever days are given and however their hours
overlap.

## Main results

* `minutesBetween_le`, `openMinutes_le` — a span within another one has no more minutes
* `Loan.overdueMinutes_le_of_later` — overdue minutes do not decrease
-/

namespace Lending

variable {start stop start' stop' : Moment} {zone : Zone}

/-! ## Spans within others -/

/-- A span shares no less with a longer time. -/
theorem sharedMicros_le {first last first' last' : Int} (begins : first' ≤ first)
    (ends : last ≤ last') (span : Int × Int) :
    sharedMicros first last span ≤ sharedMicros first' last' span := by
  unfold sharedMicros
  omega

/-- The open seconds are also the rounded sum of what each open span shares with the time, if only
nothing. -/
theorem openSeconds_eq_sum (days : List OpeningDay) (never : zone.NeverChanges)
    (inStep : stop.InStep start) :
    openSeconds start stop days zone =
      (((openSpans days zone).map (sharedMicros start.instant stop.instant)).map .ofMicros).foldl
        .add .zero := by
  rw [openSeconds_eq never inStep, overlaps, Seconds.foldl_add_filter_pos _ Seconds.rounded_zero]

section Within

variable (neverStop : stop.zone.NeverChanges) (neverStop' : stop'.zone.NeverChanges)
  (begins : start'.instant ≤ start.instant) (ends : stop.instant ≤ stop'.instant)

include neverStop neverStop' begins ends

theorem openSeconds_le (days : List OpeningDay) (never : zone.NeverChanges) :
    (openSeconds start stop days zone).units ≤ (openSeconds start' stop' days zone).units := by
  rw [openSeconds_eq_sum days never (Moment.inStep_of_neverChanges neverStop),
    openSeconds_eq_sum days never (Moment.inStep_of_neverChanges neverStop')]
  apply Seconds.foldl_add_mono
  -- both sums have a term for every open span, so that they are compared term by term
  rw [List.forall₂_map_left_iff, List.forall₂_map_right_iff, List.forall₂_same]
  exact fun span _ => sharedMicros_le begins ends span

/-- A span within another one has no more open minutes. -/
theorem openMinutes_le (days : List OpeningDay) (never : zone.NeverChanges) :
    openMinutes start stop days zone ≤ openMinutes start' stop' days zone := by
  unfold openMinutes
  by_cases backwards : stop ≤ start
  · rw [if_pos backwards]
    exact Nat.zero_le _
  · have forwards : ¬ stop' ≤ start' := by
      rw [Moment.le_iff_instant neverStop] at backwards
      rw [Moment.le_iff_instant neverStop']
      omega
    rw [if_neg backwards, if_neg forwards]
    exact Nat.div_le_div_right (openSeconds_le neverStop neverStop' begins ends days never)

/-- A span within another one has no more minutes. -/
theorem minutesBetween_le : minutesBetween start stop ≤ minutesBetween start' stop' := by
  apply Seconds.wholeMinutes_ofMicros_mono
  rw [Moment.since_eq_sub neverStop, Moment.since_eq_sub neverStop']
  omega

end Within

/-! ## Overdue minutes -/

namespace Loan

variable {loan : Loan} {policy : Option LoanPolicy} {fine : FinePolicy} {now later : Moment}
variable {days : Option (List OpeningDay)}

/-- The minutes since an earlier due date, at a later time, are no fewer. -/
theorem exists_elapsedMinutes_le (earlier : Moment) (never : zone.NeverChanges)
    (neverNow : now.zone.NeverChanges) (neverLater : later.zone.NeverChanges)
    (sooner : earlier.instant ≤ loan.due.instant) (passes : now.instant ≤ later.instant)
    (given : fine.countClosed = true ∨ days.isSome = true) :
    ∃ fewer more : Nat,
      loan.elapsedMinutes fine now days zone = .ok fewer ∧
        { loan with due := earlier }.elapsedMinutes fine later days zone = .ok more ∧
        fewer ≤ more := by
  unfold elapsedMinutes
  by_cases counts : fine.countClosed = true
  · simp only [counts, if_true]
    exact ⟨_, _, rfl, rfl, minutesBetween_le neverNow neverLater sooner passes⟩
  · obtain ⟨days, rfl⟩ := Option.isSome_iff_exists.mp (given.resolve_left counts)
    simp only [counts]
    exact ⟨_, _, rfl, rfl, openMinutes_le neverNow neverLater sooner passes days never⟩

/-- **Overdue time never shrinks.** Let the clocks of the zone in which opening hours are read never
be changed, nor those of two current times. Then overdue minutes can be counted at both, unless only
open time counts and no days are given, and at the later time there are no fewer of them, also for
the same loan with a due date that is earlier in time. -/
theorem overdueMinutes_le_of_later (earlier : Moment) (never : zone.NeverChanges)
    (neverNow : now.zone.NeverChanges) (neverLater : later.zone.NeverChanges)
    (sooner : earlier.instant ≤ loan.due.instant) (passes : now ≤ later)
    (given : fine.countClosed = true ∨ days.isSome = true) :
    ∃ fewer more : Int,
      loan.overdueMinutes policy fine now days zone = .ok fewer ∧
        { loan with due := earlier }.overdueMinutes policy fine later days zone = .ok more ∧
        fewer ≤ more := by
  rw [Moment.le_iff_instant neverNow] at passes
  obtain ⟨fewer, more, counted, countedLater, le⟩ :=
    exists_elapsedMinutes_le earlier never neverNow neverLater sooner passes given
  refine ⟨_, _, overdueMinutes_of_elapsedMinutes counted,
    overdueMinutes_of_elapsedMinutes countedLater, ?_⟩
  -- the grace is a matter of the policies, and the same for both due dates
  have grace : { loan with due := earlier }.graceMinutes policy fine =
      loan.graceMinutes policy fine := rfl
  unfold countedMinutes
  rw [grace]
  by_cases due : now ≤ loan.due
  · -- nothing is counted before the due date, and nothing less later on
    rw [if_pos due]
    split
    · exact le_rfl
    · exact le_max_right _ _
  · have overdue : ¬ later ≤ earlier := by
      rw [Moment.le_iff_instant neverNow] at due
      rw [Moment.le_iff_instant neverLater]
      omega
    rw [if_neg due, if_neg overdue]
    omega

/-- Of a loan due at four in the afternoon two open hours have passed by ten in the morning. If it
was due an hour before, no fewer have passed by eleven. -/
theorem overdueMinutes_officeLoan_later :
    officeLoan.overdueMinutes none { countClosed := false } officeMorning (some officeDays) .utc =
        .ok 120 ∧
      ∃ more : Int, 120 ≤ more ∧
        { officeLoan with due := .showing (.ofDay 738885) (.ofHour 15) .utc }.overdueMinutes none
          { countClosed := false } (.showing (.ofDay 738886) (.ofHour 11) .utc) (some officeDays)
          .utc = .ok more := by
  have openOnly : officeLoan.overdueMinutes none { countClosed := false } officeMorning
      (some officeDays) .utc = .ok 120 := by decide
  obtain ⟨fewer, more, counted, countedLater, le⟩ := @overdueMinutes_le_of_later .utc officeLoan
    none { countClosed := false } officeMorning (.showing (.ofDay 738886) (.ofHour 11) .utc)
    (some officeDays) (.showing (.ofDay 738885) (.ofHour 15) .utc) (by decide) (by decide)
    (by decide) (by decide) (by decide) (.inr rfl)
  obtain rfl := Except.ok.inj (openOnly.symm.trans counted)
  exact ⟨counted, more, le, countedLater⟩

end Loan

end Lending
