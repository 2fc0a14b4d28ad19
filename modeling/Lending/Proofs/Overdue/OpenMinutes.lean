import Lending.Proofs.Calendar.OpenTime
import Lending.Proofs.Overdue.Elapsed
import Mathlib.Data.Int.ConditionallyCompleteOrder
import Mathlib.Data.Int.Interval
import Mathlib.Data.List.Perm.Basic

/-!
# Open time

Open minutes are counted by adding up what each opening hour shares with the time in question. The
sum is the open time itself, each microsecond of it counted once, if no two opening hours of a day
overlap and no date is listed twice. Then the order in which days and hours are listed does not
matter, and open time is a part of all time. Rounding does not show if everything begins and ends on
whole seconds.

## Main definitions

* `OpenDuring`, `openMicros` — the open time of some days, by its microseconds
* `OpeningHour.Apart`, `Timetable` — days and hours that do not overlap
* `SameHours` — the same days and hours in another order

## Main results

* `sum_overlaps` — opening hours that are apart share the open time with a span
* `openSeconds_eq` — the open seconds are the rounded sum of the overlaps
* `openMinutes_of_timetable` — the open minutes of whole seconds
-/

namespace Lending

/-! ## Spans of instants -/

/-- Spans of instants are apart if they have no time in common; they may touch. -/
def ApartSpans (a b : Int × Int) : Prop := min a.2 b.2 ≤ max a.1 b.1

theorem ApartSpans.symm {a b : Int × Int} (apart : ApartSpans a b) : ApartSpans b a := by
  unfold ApartSpans at *
  omega

/-- The microseconds that a span has in common with the time from `start` to `stop`. -/
def sharedMicros (start stop : Int) (span : Int × Int) : Nat :=
  (min span.2 stop - max span.1 start).toNat

theorem sharedMicros_pos_iff {start stop : Int} {span : Int × Int} :
    0 < sharedMicros start stop span ↔ max span.1 start < min span.2 stop := by
  unfold sharedMicros
  omega

theorem card_within (start stop : Int) (span : Int × Int) :
    ((Finset.Ico start stop).filter fun t => span.1 ≤ t ∧ t < span.2).card =
      sharedMicros start stop span := by
  have within : (Finset.Ico start stop).filter (fun t => span.1 ≤ t ∧ t < span.2) =
      Finset.Ico (max span.1 start) (min span.2 stop) := by
    ext t
    simp only [Finset.mem_filter, Finset.mem_Ico]
    omega
  rw [within, Int.card_Ico, sharedMicros]

/-- Spans that are apart from each other share as much time as they cover. -/
theorem sum_sharedMicros (start stop : Int) {spans : List (Int × Int)}
    (apart : spans.Pairwise ApartSpans) :
    (spans.map (sharedMicros start stop)).sum =
      ((Finset.Ico start stop).filter fun t => ∃ span ∈ spans, span.1 ≤ t ∧ t < span.2).card := by
  induction spans with
  | nil => simp
  | cons span spans ih =>
    obtain ⟨apartFirst, apartRest⟩ := List.pairwise_cons.mp apart
    -- no instant is in the first span and in another one, so that the two counts add up
    have disjoint : Disjoint
        ((Finset.Ico start stop).filter fun t => span.1 ≤ t ∧ t < span.2)
        ((Finset.Ico start stop).filter fun t => ∃ span ∈ spans, span.1 ≤ t ∧ t < span.2) := by
      rw [Finset.disjoint_filter]
      rintro t - ⟨after, before⟩ ⟨other, listed, afterOther, beforeOther⟩
      have apart := apartFirst other listed
      unfold ApartSpans at apart
      omega
    rw [List.map_cons, List.sum_cons, ih apartRest, ← card_within,
      ← Finset.card_union_of_disjoint disjoint, ← Finset.filter_or]
    simp only [List.mem_cons, exists_eq_or_imp]

/-! ## The open time of some days -/

variable {start stop : Moment} {days others : List OpeningDay} {zone : Zone}

/-- The spans of instants at which days are open. -/
def openSpans (days : List OpeningDay) (zone : Zone) : List (Int × Int) :=
  (days.flatMap (·.periods zone)).map fun period => (period.1.instant, period.2.instant)

/-- Whether days are open for the microsecond that begins with an instant. -/
def OpenDuring (days : List OpeningDay) (zone : Zone) (t : Int) : Prop :=
  ∃ span ∈ openSpans days zone, span.1 ≤ t ∧ t < span.2

instance (days : List OpeningDay) (zone : Zone) (t : Int) : Decidable (OpenDuring days zone t) :=
  inferInstanceAs (Decidable (∃ span ∈ openSpans days zone, _))

/-- The microseconds between two moments for which days are open. -/
noncomputable def openMicros (start stop : Moment) (days : List OpeningDay) (zone : Zone) : Nat :=
  ((Finset.Ico start.instant stop.instant).filter (OpenDuring days zone)).card

/-- Open time is a part of all time. -/
theorem openMicros_le (start stop : Moment) (days : List OpeningDay) (zone : Zone) :
    openMicros start stop days zone ≤ (stop.instant - start.instant).toNat := by
  rw [← Int.card_Ico]
  exact Finset.card_filter_le _ _

/-- The parts of the open spans that lie between two moments, in microseconds. -/
def overlaps (start stop : Moment) (days : List OpeningDay) (zone : Zone) : List Nat :=
  ((openSpans days zone).map (sharedMicros start.instant stop.instant)).filter (0 < ·)

theorem sum_filter_pos (ns : List Nat) : (ns.filter (0 < ·)).sum = ns.sum := by
  induction ns with
  | nil => rfl
  | cons n ns ih =>
    rcases Nat.eq_zero_or_pos n with rfl | pos
    · simpa using ih
    · simp [pos, ih]

/-- Open spans that are apart have as much in common with a time as days are open for then. -/
theorem sum_overlaps (start stop : Moment) (apart : (openSpans days zone).Pairwise ApartSpans) :
    (overlaps start stop days zone).sum = openMicros start stop days zone := by
  rw [overlaps, sum_filter_pos, sum_sharedMicros _ _ apart]
  rfl

/-! ## What is added up -/

namespace Moment

variable {a b : Moment}

theorem lt_iff_instant_of_inStep (inStep : a.InStep b) : a < b ↔ a.instant < b.instant := by
  rw [lt_def, since_eq_sub_iff.mpr inStep]
  omega

theorem instant_later (inStep : a.InStep b) :
    (later a b).instant = max a.instant b.instant := by
  simp only [later, lt_iff_instant_of_inStep inStep]
  split <;> omega

theorem instant_earlier (inStep : b.InStep a) :
    (earlier a b).instant = min a.instant b.instant := by
  simp only [earlier, lt_iff_instant_of_inStep inStep]
  split <;> omega

end Moment

/-- A span in a zone whose clocks are never changed overlaps with the time between two moments in
step by what the instants have in common. -/
theorem overlapSeconds_eq {first last : Moment} (neverFirst : first.zone.NeverChanges)
    (neverLast : last.zone.NeverChanges) (inStep : stop.InStep start) :
    overlapSeconds start stop (first, last) =
      if 0 < sharedMicros start.instant stop.instant (first.instant, last.instant) then
        some (.ofMicros (sharedMicros start.instant stop.instant (first.instant, last.instant)))
      else none := by
  have begins := Moment.instant_later (b := start) (Moment.inStep_of_neverChanges neverFirst)
  have ends := Moment.instant_earlier (b := stop) (Moment.inStep_of_neverChanges neverLast).symm
  -- whichever moments the overlap runs between, they are in step
  have bothInStep : (last.earlier stop).InStep (first.later start) := by
    rcases last.earlier_eq_or stop with e | e <;> rcases first.later_eq_or start with l | l <;>
      rw [e, l]
    · exact Moment.inStep_of_neverChanges neverLast
    · exact Moment.inStep_of_neverChanges neverLast
    · exact (Moment.inStep_of_neverChanges neverFirst).symm
    · exact inStep
  simp only [overlapSeconds, Moment.lt_iff_instant_of_inStep bothInStep.symm,
    Moment.since_eq_sub_iff.mpr bothInStep, begins, ends, sharedMicros_pos_iff]
  rfl

theorem filterMap_overlapSeconds {periods : List (Moment × Moment)}
    (never : ∀ period ∈ periods, period.1.zone.NeverChanges ∧ period.2.zone.NeverChanges)
    (inStep : stop.InStep start) :
    periods.filterMap (overlapSeconds start stop) =
      (((periods.map fun period => (period.1.instant, period.2.instant)).map
        (sharedMicros start.instant stop.instant)).filter (0 < ·)).map .ofMicros := by
  induction periods with
  | nil => rfl
  | cons period periods ih =>
    obtain ⟨first, last⟩ := period
    obtain ⟨neverFirst, neverLast⟩ := never (first, last) (by simp)
    rw [List.filterMap_cons, overlapSeconds_eq neverFirst neverLast inStep,
      ih fun period listed => never period (by simp [listed])]
    split_ifs with shares <;> simp [shares]

/-- The open seconds are the rounded sum of the overlaps. -/
theorem openSeconds_eq (never : zone.NeverChanges) (inStep : stop.InStep start) :
    openSeconds start stop days zone =
      ((overlaps start stop days zone).map .ofMicros).foldl .add .zero := by
  rw [openSeconds, filterMap_overlapSeconds ?_ inStep]
  · rfl
  · intro period listed
    obtain ⟨day, -, inPeriods⟩ := List.mem_flatMap.mp listed
    obtain ⟨zoneFirst, zoneLast, -⟩ := OpeningDay.span_of_mem_periods never inPeriods
    exact ⟨zoneFirst ▸ never, zoneLast ▸ never⟩

/-! ## Days and hours that are apart -/

namespace OpeningHour

/-- Opening hours are apart if they have no time in common; they may touch. -/
def Apart (a b : OpeningHour) : Prop :=
  min a.stop.micros b.stop.micros ≤ max a.start.micros b.start.micros

instance : DecidableRel Apart := fun _ _ => inferInstanceAs (Decidable (_ ≤ _))

/-- Whether opening hours begin and end on whole seconds. -/
def OnSeconds (hour : OpeningHour) : Prop :=
  hour.start.microsecond = 0 ∧ hour.stop.microsecond = 0

instance : DecidablePred OnSeconds := fun _ => inferInstanceAs (Decidable (_ ∧ _))

end OpeningHour

/-- Days of different dates, the opening hours of each of which are apart. -/
structure Timetable (days : List OpeningDay) : Prop where
  distinct : (days.map (·.date)).Nodup
  apart : ∀ day ∈ days, day.intervals.Pairwise OpeningHour.Apart

/-- The instant at which the clocks of a zone that are never changed show a time. -/
theorem Moment.instant_showing (never : zone.NeverChanges) (date : Date) (time : TimeOfDay) :
    (showing date time zone).instant =
      date.ordinal * 86400000000 + time.micros - zone.standardOffset * 1000000 := by
  have shows := wallAt_showing never date time
  rw [Zone.wallAt] at shows
  omega

/-- The open spans are the opening hours of the days. -/
theorem mem_openSpans_iff {span : Int × Int} : span ∈ openSpans days zone ↔
    ∃ day ∈ days, ∃ hour ∈ day.intervals,
      ((Moment.showing day.date hour.start zone).instant,
        (Moment.showing day.date hour.stop zone).instant) = span := by
  simp [openSpans, OpeningDay.periods, and_assoc]

/-- Days are open by the clock. -/
theorem openDuring_iff (never : zone.NeverChanges) {t : Int} : OpenDuring days zone t ↔
    ∃ day ∈ days, ∃ hour ∈ day.intervals,
      (day.date.ordinal : Int) * 86400000000 + hour.start.micros ≤ zone.wallAt t ∧
        zone.wallAt t < day.date.ordinal * 86400000000 + hour.stop.micros := by
  constructor
  · rintro ⟨span, listed, after, before⟩
    obtain ⟨day, inDays, hour, inHours, rfl⟩ := mem_openSpans_iff.mp listed
    simp only [Moment.instant_showing never] at after before
    refine ⟨day, inDays, hour, inHours, ?_, ?_⟩ <;> rw [Zone.wallAt] <;> omega
  · rintro ⟨day, inDays, hour, inHours, after, before⟩
    refine ⟨_, mem_openSpans_iff.mpr ⟨day, inDays, hour, inHours, rfl⟩, ?_, ?_⟩ <;>
      simp only [Moment.instant_showing never] <;> rw [Zone.wallAt] at after before <;> omega

/-- The spans of a timetable are apart: those of a day because its hours are, those of two days
because no opening hours reach beyond midnight. -/
theorem Timetable.pairwise_openSpans (timetable : Timetable days) (never : zone.NeverChanges) :
    (openSpans days zone).Pairwise ApartSpans := by
  rw [openSpans, List.pairwise_map, List.pairwise_flatMap]
  constructor
  · intro day listed
    rw [OpeningDay.periods, List.pairwise_map]
    refine (timetable.apart day listed).imp fun {a b} apart => ?_
    unfold OpeningHour.Apart at apart
    simp only [ApartSpans, Moment.instant_showing never]
    omega
  · refine (List.pairwise_map.mp timetable.distinct).imp fun {a b} differ => ?_
    intro period listed other listedOther
    obtain ⟨hour, -, rfl⟩ := List.mem_map.mp listed
    obtain ⟨hour', -, rfl⟩ := List.mem_map.mp listedOther
    have inDay := hour.stop.inRange
    have inDay' := hour'.stop.inRange
    have apart : a.date.ordinal ≠ b.date.ordinal := fun same => differ (Date.eq_of_ordinal_eq same)
    simp only [ApartSpans, Moment.instant_showing never]
    omega

/-- Spans in the calendar are open for no longer than the calendar lasts. -/
theorem openMicros_le_calendar (start stop : Moment) (days : List OpeningDay)
    (never : zone.NeverChanges) :
    openMicros start stop days zone ≤ 315537897600000000 := by
  -- moments of other zones may be far out, but days are open only on dates of the calendar
  have within : (Finset.Ico start.instant stop.instant).filter (OpenDuring days zone) ⊆
      Finset.Ico (-zone.standardOffset * 1000000)
        (315537897600000000 - zone.standardOffset * 1000000) := by
    intro t member
    obtain ⟨day, -, hour, -, after, before⟩ :=
      (openDuring_iff never).mp (Finset.mem_filter.mp member).2
    have inCalendar := day.date.inRange
    have inDay := hour.stop.inRange
    rw [Zone.wallAt] at after before
    rw [Finset.mem_Ico]
    omega
  have count := Finset.card_le_card within
  rw [Int.card_Ico] at count
  unfold openMicros
  omega

/-! ## Whole seconds -/

theorem Moment.dvd_instant {m : Moment} (whole : m.wall.time.microsecond = 0) :
    1000000 ∣ m.instant := by
  simp only [TimeOfDay.microsecond, WallClock.time] at whole
  unfold instant
  omega

theorem dvd_sharedMicros {first last : Int} {span : Int × Int} (divFirst : 1000000 ∣ first)
    (divLast : 1000000 ∣ last) (divSpan : 1000000 ∣ span.1 ∧ 1000000 ∣ span.2) :
    1000000 ∣ sharedMicros first last span := by
  unfold sharedMicros
  omega

theorem dvd_openSpans (never : zone.NeverChanges)
    (onSeconds : ∀ day ∈ days, ∀ hour ∈ day.intervals, hour.OnSeconds) :
    ∀ span ∈ openSpans days zone, (1000000 ∣ span.1) ∧ 1000000 ∣ span.2 := by
  intro span listed
  obtain ⟨day, inDays, hour, inHours, rfl⟩ := mem_openSpans_iff.mp listed
  obtain ⟨starts, stops⟩ := onSeconds day inDays hour inHours
  unfold TimeOfDay.microsecond at starts stops
  simp only [Moment.instant_showing never]
  omega

/-- If all begins and ends on whole seconds, and the open spans are apart, then the open minutes are
those of the open time. -/
theorem openMinutes_eq_of_openSpans (never : zone.NeverChanges) (inStep : stop.InStep start)
    (startWhole : start.wall.time.microsecond = 0) (stopWhole : stop.wall.time.microsecond = 0)
    (apart : (openSpans days zone).Pairwise ApartSpans)
    (divides : ∀ span ∈ openSpans days zone, (1000000 ∣ span.1) ∧ 1000000 ∣ span.2) :
    openMinutes start stop days zone = openMicros start stop days zone / 60000000 := by
  have bounded := openMicros_le_calendar start stop days never
  have total := sum_overlaps start stop apart
  unfold openMinutes
  split
  · next backwards =>
    rw [Moment.le_def, Moment.since_eq_sub_iff.mpr inStep] at backwards
    have none := openMicros_le start stop days zone
    omega
  · -- an overlap ends where a span or the time in question does, which is on a whole second
    have wholeSpans : ∀ overlap ∈ overlaps start stop days zone, 1000000 ∣ overlap := by
      intro overlap listed
      obtain ⟨span, inSpans, rfl⟩ := List.mem_map.mp (List.mem_filter.mp listed).1
      exact dvd_sharedMicros (Moment.dvd_instant startWhole) (Moment.dvd_instant stopWhole)
        (divides span inSpans)
    rw [openSeconds_eq never inStep, ← Seconds.whole_zero,
      Seconds.foldl_add_ofMicros 0 wholeSpans (by omega), Seconds.wholeMinutes_whole, total]
    omega

/-! ## Open minutes -/

/-- The same days in another order, each with the same opening hours in another order. -/
def SameHours (days others : List OpeningDay) : Prop :=
  ∃ reordered, days.Perm reordered ∧
    List.Forall₂ (fun day other => day.date = other.date ∧ day.intervals.Perm other.intervals)
      reordered others

theorem SameHours.perm_openSpans (same : SameHours days others) :
    (openSpans days zone).Perm (openSpans others zone) := by
  obtain ⟨reordered, perm, pairs⟩ := same
  -- first the days are put in order, and then the hours of each of them
  refine ((perm.flatMap_right _).trans ?_).map _
  clear perm
  induction pairs with
  | nil => rfl
  | cons pair _ ih =>
    obtain ⟨date, hours⟩ := pair
    rw [List.flatMap_cons, List.flatMap_cons, OpeningDay.periods, OpeningDay.periods, date]
    exact (hours.map _).append ih

/-- The same hours make the same open time. -/
theorem SameHours.openMicros_eq (same : SameHours days others) :
    openMicros start stop others zone = openMicros start stop days zone := by
  have alike : ∀ t, OpenDuring others zone t ↔ OpenDuring days zone t := by
    intro t
    simp only [OpenDuring, same.perm_openSpans.mem_iff]
  unfold openMicros
  simp only [alike]

/-- The minutes of open time are no more than those of all time. -/
theorem openMicros_div_le (never : zone.NeverChanges) (inStep : stop.InStep start) :
    openMicros start stop days zone / 60000000 ≤ minutesBetween start stop := by
  have bounded := openMicros_le_calendar start stop days never
  have part := openMicros_le start stop days zone
  rw [← Moment.since_eq_sub_iff.mpr inStep] at part
  exact (Seconds.div_le_wholeMinutes (by omega)).trans (Seconds.wholeMinutes_ofMicros_mono part)

/-- **Open minutes.** Between two whole seconds in step, and on days of different dates with opening
hours that are on whole seconds and apart, the open minutes are those of the open time, each moment
of it counted once. So the order of the days and of their hours does not matter, and there are no
more open minutes than minutes. -/
theorem openMinutes_of_timetable (never : zone.NeverChanges) (inStep : stop.InStep start)
    (startWhole : start.wall.time.microsecond = 0) (stopWhole : stop.wall.time.microsecond = 0)
    (timetable : Timetable days)
    (onSeconds : ∀ day ∈ days, ∀ hour ∈ day.intervals, hour.OnSeconds) :
    openMinutes start stop days zone = openMicros start stop days zone / 60000000 ∧
      (∀ others, SameHours days others →
        openMinutes start stop others zone = openMinutes start stop days zone) ∧
      openMinutes start stop days zone ≤ minutesBetween start stop := by
  have apart := timetable.pairwise_openSpans never
  have divides := dvd_openSpans never onSeconds
  have total := openMinutes_eq_of_openSpans never inStep startWhole stopWhole apart divides
  refine ⟨total, fun others same => ?_, total ▸ openMicros_div_le never inStep⟩
  have perm : (openSpans days zone).Perm (openSpans others zone) := same.perm_openSpans
  -- the other list is no timetable by its order, but its spans are the same ones
  rw [total, ← same.openMicros_eq]
  apply openMinutes_eq_of_openSpans never inStep startWhole stopWhole
  · exact (perm.pairwise_iff ApartSpans.symm).mp apart
  · exact fun span listed => divides span (perm.mem_iff.mpr listed)

/-- Office hours on two days, the second one listed first: from nine to twelve and from one to five,
and on the day before from nine to five. -/
def officeDays : List OpeningDay :=
  [{ date := .ofDay 738886
     isOpen := true
     stored := [⟨.ofHour 9, .ofHour 12, by decide⟩, ⟨.ofHour 13, .ofHour 17, by decide⟩] },
    { date := .ofDay 738885
      isOpen := true
      stored := [⟨.ofHour 9, .ofHour 17, by decide⟩] }]

/-- An hour before closing on the first of the two days. -/
def officeAfternoon : Moment := .showing (.ofDay 738885) (.ofHour 16) .utc

/-- An hour after opening on the second. -/
def officeMorning : Moment := .showing (.ofDay 738886) (.ofHour 10) .utc

theorem timetable_officeDays : Timetable officeDays := ⟨by decide, by decide⟩

/-- From the afternoon to the morning the office is open for two hours. -/
theorem officeDays_open :
    openMinutes officeAfternoon officeMorning officeDays .utc = 120 ∧
      openMicros officeAfternoon officeMorning officeDays .utc / 60000000 = 120 := by
  have counted : openMinutes officeAfternoon officeMorning officeDays .utc = 120 := by decide
  obtain ⟨total, -, -⟩ := @openMinutes_of_timetable officeAfternoon officeMorning officeDays .utc
    (by decide) (by decide) (by decide) (by decide) timetable_officeDays (by decide)
  exact ⟨counted, total.symm.trans counted⟩

/-- A morning that is open for the whole of the night in which clocks are advanced in New York. -/
def openNight : OpeningDay where
  date := .ofDay 738954
  isOpen := true
  stored := [⟨.ofHour 0, .ofHour 12, by decide⟩]

/-- Open minutes are not always those of the open time. -/
theorem not_always_openMicros : ¬ ∀ (start stop : Moment) (days : List OpeningDay) (zone : Zone),
    zone.NeverChanges → start.wall.time.microsecond = 0 → stop.wall.time.microsecond = 0 →
    Timetable days → (∀ day ∈ days, ∀ hour ∈ day.intervals, hour.OnSeconds) →
      openMinutes start stop days zone = openMicros start stop days zone / 60000000 := by
  intro always
  have equal := always Loan.springNight.due Loan.springDawn [openNight] .utc (by decide) (by decide)
    (by decide) ⟨by decide, by decide⟩ (by decide)
  have counted : openMinutes Loan.springNight.due Loan.springDawn [openNight] .utc = 120 := by
    decide
  have passed : (Loan.springDawn.instant - Loan.springNight.due.instant).toNat = 3600000000 := by
    decide
  have part := openMicros_le Loan.springNight.due Loan.springDawn [openNight] .utc
  omega

end Lending
