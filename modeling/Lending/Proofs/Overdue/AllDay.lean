import Lending.Proofs.Overdue.StoredDays
import Lending.Proofs.Time.Sums
import Mathlib.Order.Interval.Finset.Nat

/-!
# Service points that are always open

A day that is open all day is meant to be open for the whole of its date, but its opening hours end
with the last millisecond, and this millisecond is not open time. A loan that is overdue over many
nights at a service point that is never closed loses a millisecond in each of them. Its overdue
minutes are the same with and without closed time as long as the seconds beyond the last full minute
are enough for what is lost.

## Main definitions

* `lostMicros` — the time between two moments that falls into the last millisecond of a date
* `OpenThroughout` — every date between two dates is given once, and open all day
* `DailyOverlaps` — what days that are open throughout share with a span of time
* `ClearOfRounding` — rounding does not decide whether what is lost makes a minute

## Main results

* `OpenThroughout.openMicros_add_lostMicros` — all of the time is open, but for what is lost
* `DailyOverlaps.wholeMinutes_eq_iff` — when what is lost does not show in the whole minutes
* `Loan.overdueMinutes_openThroughout_eq_iff` — when closed time makes no difference
-/

namespace Lending

variable {start stop : Moment} {days : List OpeningDay} {day : OpeningDay} {zone : Zone} {t : Int}
variable {first last : Date}

/-! ## The last milliseconds of dates -/

/-- The microseconds of the last milliseconds of all dates that a clock has shown by a reading. -/
def lastMillis (wall : Int) : Int :=
  wall / 86400000000 * 1000 + max (wall % 86400000000 - 86399999000) 0

/-- The microseconds between two moments that fall into the last millisecond of a date. -/
def lostMicros (start stop : Moment) (zone : Zone) : Nat :=
  (lastMillis (zone.wallAt stop.instant) - lastMillis (zone.wallAt start.instant)).toNat

theorem lastMillis_add_one (wall : Int) :
    lastMillis (wall + 1) =
      lastMillis wall + if wall % 86400000000 < 86399999000 then 0 else 1 := by
  unfold lastMillis
  split <;> omega

theorem lastMillis_mono {wall wall' : Int} (h : wall ≤ wall') :
    lastMillis wall ≤ lastMillis wall' := by
  unfold lastMillis
  omega

/-- Nothing is lost until a moment that is not later. -/
theorem lostMicros_eq_zero (zone : Zone) (inStep : stop.InStep start) (backwards : stop ≤ start) :
    lostMicros start stop zone = 0 := by
  rw [Moment.le_def, Moment.since_eq_sub_iff.mpr inStep] at backwards
  have ordered :
      lastMillis (zone.wallAt stop.instant) ≤ lastMillis (zone.wallAt start.instant) := by
    apply lastMillis_mono
    unfold Zone.wallAt
    omega
  unfold lostMicros
  omega

/-- Every microsecond is one of the last milliseconds, or it is not. -/
theorem card_filter_add_lastMillis (zone : Zone) (begins : Int) (micros : Nat) :
    (((Finset.Ico begins (begins + micros)).filter
        fun t => zone.wallAt t % 86400000000 < 86399999000).card : Int) +
      (lastMillis (zone.wallAt (begins + micros)) - lastMillis (zone.wallAt begins)) = micros := by
  induction micros with
  | zero => simp
  | succ micros ih =>
    -- one more microsecond is open or it is lost
    have next : Finset.Ico begins (begins + (micros + 1 : ℕ)) =
        insert (begins + micros) (Finset.Ico begins (begins + micros)) := by
      ext t
      simp only [Finset.mem_insert, Finset.mem_Ico]
      omega
    have wall : zone.wallAt (begins + (micros + 1 : ℕ)) = zone.wallAt (begins + micros) + 1 := by
      simp only [Zone.wallAt]
      omega
    rw [next, Finset.filter_insert, wall, lastMillis_add_one]
    by_cases isOpen : zone.wallAt (begins + micros) % 86400000000 < 86399999000
    · rw [if_pos isOpen, if_pos isOpen, Finset.card_insert_of_notMem (by simp)]
      omega
    · rw [if_neg isOpen, if_neg isOpen]
      omega

/-! ## Days that are open throughout -/

/-- Whether a day is one of the dates between two, these included. -/
def OpeningDay.isBetween (first last : Date) (day : OpeningDay) : Bool :=
  decide (first ≤ day.date) && decide (day.date ≤ last)

theorem OpeningDay.isBetween_iff :
    day.isBetween first last = true ↔ first ≤ day.date ∧ day.date ≤ last := by
  simp [isBetween]

/-- Every date between two dates is given once, and it is open all day. -/
structure OpenThroughout (days : List OpeningDay) (first last : Date) : Prop where
  once : ∀ date, first ≤ date → date ≤ last → days.countP (·.date = date) = 1
  allDay : ∀ day ∈ days, first ≤ day.date → day.date ≤ last → day.intervals = [.allDay]

namespace OpenThroughout

variable (throughout : OpenThroughout days first last)

include throughout

theorem intervals_eq (listed : day ∈ days.filter (·.isBetween first last)) :
    day.intervals = [.allDay] := by
  obtain ⟨listed, between⟩ := List.mem_filter.mp listed
  obtain ⟨after, before⟩ := OpeningDay.isBetween_iff.mp between
  exact throughout.allDay day listed after before

theorem exists_day {date : Date} (after : first ≤ date) (before : date ≤ last) :
    ∃ day ∈ days.filter (·.isBetween first last), day.date = date := by
  have some : 0 < days.countP (·.date = date) := by
    rw [throughout.once date after before]
    exact Nat.one_pos
  obtain ⟨day, listed, same⟩ := List.countP_pos_iff.mp some
  obtain rfl := of_decide_eq_true same
  exact ⟨day, List.mem_filter.mpr ⟨listed, OpeningDay.isBetween_iff.mpr ⟨after, before⟩⟩, rfl⟩

/-- The days between two dates are a timetable. -/
theorem timetable : Timetable (days.filter (·.isBetween first last)) := by
  refine ⟨List.nodup_iff_count_le_one.mpr fun date => ?_, fun day listed => ?_⟩
  · by_cases listed : date ∈ (days.filter (·.isBetween first last)).map (·.date)
    · obtain ⟨day, member, rfl⟩ := List.mem_map.mp listed
      obtain ⟨after, before⟩ := OpeningDay.isBetween_iff.mp (List.mem_filter.mp member).2
      rw [List.count, List.countP_map, ← throughout.once day.date after before]
      exact List.filter_sublist.countP_le
    · rw [List.count_eq_zero.mpr listed]
      exact Nat.zero_le _
  · rw [throughout.intervals_eq listed]
    exact List.pairwise_singleton _ _

/-- There are no more of them than dates. -/
theorem length_filter_le :
    (days.filter (·.isBetween first last)).length ≤ last.ordinal + 1 - first.ordinal := by
  have ordinals : ((days.filter (·.isBetween first last)).map (·.date.ordinal)).Nodup := by
    refine List.pairwise_map.mpr ((List.pairwise_map.mp throughout.timetable.distinct).imp ?_)
    exact fun differ same => differ (Date.eq_of_ordinal_eq same)
  have within : ((days.filter (·.isBetween first last)).map (·.date.ordinal)).toFinset ⊆
      Finset.Icc first.ordinal last.ordinal := by
    intro ordinal listed
    obtain ⟨day, member, rfl⟩ := List.mem_map.mp (List.mem_toFinset.mp listed)
    obtain ⟨after, before⟩ := OpeningDay.isBetween_iff.mp (List.mem_filter.mp member).2
    exact Finset.mem_Icc.mpr ⟨after, before⟩
  have count := Finset.card_le_card within
  rwa [List.toFinset_card_of_nodup ordinals, List.length_map, Nat.card_Icc] at count

variable (never : zone.NeverChanges) (startsOn : start.dateIn zone = .ok first)
  (stopsOn : stop.dateIn zone = .ok last)

include never startsOn stopsOn

/-- Between two moments the service point is open except for the last milliseconds. -/
theorem openDuring_iff (after : start.instant ≤ t) (before : t < stop.instant) :
    OpenDuring (days.filter (·.isBetween first last)) zone t ↔
      zone.wallAt t % 86400000000 < 86399999000 := by
  have starts := Moment.ordinal_of_dateIn never startsOn
  have stops := Moment.ordinal_of_dateIn never stopsOn
  have allDay : OpeningHour.allDay.start.micros = 0 ∧
      OpeningHour.allDay.stop.micros = 86399999000 := ⟨rfl, rfl⟩
  rw [Lending.openDuring_iff never]
  constructor
  · rintro ⟨day, listed, hour, inHours, opened, closes⟩
    rw [throughout.intervals_eq listed, List.mem_singleton] at inHours
    rw [inHours] at opened closes
    omega
  · intro isOpen
    have inCalendar := last.inRange
    unfold Zone.wallAt at *
    let date : Date := ⟨((t + zone.standardOffset * 1000000) / 86400000000).toNat, by omega⟩
    have ordinal : (date.ordinal : Int) = (t + zone.standardOffset * 1000000) / 86400000000 :=
      Int.toNat_of_nonneg (by omega)
    have within : first ≤ date ∧ date ≤ last := by
      rw [Date.le_def, Date.le_def]
      omega
    obtain ⟨day, listed, same⟩ := throughout.exists_day within.1 within.2
    refine ⟨day, listed, .allDay, ?_, ?_, ?_⟩
    · rw [throughout.intervals_eq listed]
      exact List.mem_singleton_self _
    · rw [same]
      omega
    · rw [same]
      omega

/-- All of the time between two moments is open, but for what is lost. -/
theorem openMicros_add_lostMicros (forwards : start.instant ≤ stop.instant) :
    openMicros start stop (days.filter (·.isBetween first last)) zone +
      lostMicros start stop zone = (stop.instant - start.instant).toNat := by
  obtain ⟨micros, length⟩ := Int.eq_ofNat_of_zero_le (Int.sub_nonneg_of_le forwards)
  have ends : stop.instant = start.instant + micros := by omega
  have count := card_filter_add_lastMillis zone start.instant micros
  rw [← ends] at count
  have same : openMicros start stop (days.filter (·.isBetween first last)) zone =
      ((Finset.Ico start.instant stop.instant).filter
        fun t => zone.wallAt t % 86400000000 < 86399999000).card := by
    unfold openMicros
    refine congrArg Finset.card (Finset.filter_congr fun t member => ?_)
    obtain ⟨after, before⟩ := Finset.mem_Ico.mp member
    exact throughout.openDuring_iff never startsOn stopsOn after before
  have ordered :
      lastMillis (zone.wallAt start.instant) ≤ lastMillis (zone.wallAt stop.instant) := by
    apply lastMillis_mono
    unfold Zone.wallAt
    omega
  unfold lostMicros
  omega

end OpenThroughout

/-! ## Dates and microseconds -/

section Dates

variable (never : zone.NeverChanges) (startsOn : start.dateIn zone = .ok first)
  (stopsOn : stop.dateIn zone = .ok last)

include never startsOn stopsOn

/-- Between two moments no more time passes than their dates have. -/
theorem toNat_le_of_dateIn :
    (stop.instant - start.instant).toNat ≤ (last.ordinal + 1 - first.ordinal) * 86400000000 := by
  have starts := Moment.ordinal_of_dateIn never startsOn
  have stops := Moment.ordinal_of_dateIn never stopsOn
  unfold Zone.wallAt at starts stops
  omega

/-- A millisecond is lost in every night, and each of them in whole unless it is the first one. -/
theorem le_lostMicros :
    1000 * (last.ordinal - first.ordinal) ≤ lostMicros start stop zone + 999 := by
  have starts := Moment.ordinal_of_dateIn never startsOn
  have stops := Moment.ordinal_of_dateIn never stopsOn
  unfold lostMicros lastMillis
  omega

end Dates

/-! ## Rounded sums of daily overlaps -/

/-- At most one overlap for every date, which add up to all time but for what is lost: a millisecond
in every night, each of them in whole unless it is the first one. -/
structure DailyOverlaps (spans : List Nat) (dates micros lost : Nat) : Prop where
  count : spans.length ≤ dates
  total : spans.sum + lost = micros
  fits : micros ≤ dates * 86400000000
  inCalendar : dates ≤ 3652059
  nights : 1000 * dates ≤ lost + 1999

namespace DailyOverlaps

variable {spans : List Nat} {dates micros lost : Nat}
variable (daily : DailyOverlaps spans dates micros lost)

include daily

/-- If nothing is lost there is no night, and a single span is not rounded again. -/
theorem foldl_add_of_nothing_lost (nothing : lost = 0) :
    (spans.map Seconds.ofMicros).foldl Seconds.add .zero = .ofMicros micros := by
  have nights := daily.nights
  have count := daily.count
  rw [Seconds.foldl_add_of_length_le_one (by omega), ← daily.total, nothing, Nat.add_zero]

/-- What a sum gains or loses by rounding is no more than what is lost. -/
theorem length_mul_sum_le (some : 0 < lost) : spans.length * spans.sum ≤ 2 ^ 52 * lost := by
  obtain ⟨count, total, fits, inCalendar, nights⟩ := daily
  have allDates : spans.length * spans.sum ≤ dates * (dates * 86400000000) :=
    Nat.mul_le_mul count (by omega)
  rcases Nat.lt_or_ge dates 3 with short | long
  · have bound : dates * (dates * 86400000000) ≤ 2 * (2 * 86400000000) :=
      Nat.mul_le_mul (by omega) (by omega)
    omega
  · -- no more dates than the calendar has, so that what they gain is in proportion to the nights
    have bound : dates * (dates * 86400000000) ≤ dates * 315537897600000000 :=
      Nat.mul_le_mul_left _ (by omega)
    omega

/-- A sum has no more whole minutes than all time. -/
theorem wholeMinutes_le :
    ((spans.map Seconds.ofMicros).foldl Seconds.add .zero).wholeMinutes ≤
      (Seconds.ofMicros micros).wholeMinutes := by
  rcases Nat.eq_zero_or_pos lost with nothing | some
  · rw [daily.foldl_add_of_nothing_lost nothing]
  · have short := daily.length_mul_sum_le some
    obtain ⟨count, total, fits, inCalendar, -⟩ := daily
    have below : ((spans.map Seconds.ofMicros).foldl Seconds.add .zero).wholeMinutes <
        micros / 60000000 + 1 :=
      Seconds.wholeMinutes_foldl_add_lt (by omega) (by omega) (by omega) short
    exact (Nat.lt_succ_iff.mp below).trans (Seconds.div_le_wholeMinutes (by omega))

/-- It has as many exactly if what is lost is spare, where rounding does not decide this. -/
theorem wholeMinutes_eq_iff
    (clear : lost = 0 ∨
      dates * micros ≤ 2 ^ 52 * ((lost : Int) - (micros % 60000000 : Nat)).natAbs) :
    ((spans.map Seconds.ofMicros).foldl Seconds.add .zero).wholeMinutes =
        (Seconds.ofMicros micros).wholeMinutes ↔
      lost ≤ micros % 60000000 := by
  rcases clear with nothing | clear
  · rw [daily.foldl_add_of_nothing_lost nothing, nothing]
    exact iff_of_true rfl (Nat.zero_le _)
  · have less := daily.wholeMinutes_le
    obtain ⟨count, total, fits, inCalendar, nights⟩ := daily
    have rounds : spans.length * spans.sum ≤ dates * micros := Nat.mul_le_mul count (by omega)
    constructor
    · -- what is not spare is missing from the last full minute
      intro equal
      by_contra notSpare
      have short : spans.length * spans.sum ≤ 2 ^ 52 * (lost - micros % 60000000) := by omega
      have below : ((spans.map Seconds.ofMicros).foldl Seconds.add .zero).wholeMinutes <
          micros / 60000000 :=
        Seconds.wholeMinutes_foldl_add_lt (by omega) (by omega) (by omega) short
      have full : micros / 60000000 ≤ (Seconds.ofMicros micros).wholeMinutes :=
        Seconds.div_le_wholeMinutes (by omega)
      omega
    · intro isSpare
      have short : spans.length * spans.sum ≤ 2 ^ 53 * (micros % 60000000 - lost) := by omega
      have reached : micros / 60000000 ≤
          ((spans.map Seconds.ofMicros).foldl Seconds.add .zero).wholeMinutes :=
        Seconds.le_wholeMinutes_foldl_add (by omega) short
      -- less than a minute is lost, in so few nights that the minutes of all time are right
      have full : (Seconds.ofMicros micros).wholeMinutes = micros / 60000000 :=
        Seconds.wholeMinutes_ofMicros (by omega)
      omega

end DailyOverlaps

/-! ## Open minutes -/

/-- The microseconds between two moments beyond the last full minute. -/
def spareMicros (start stop : Moment) : Nat := (stop.since start).toNat % 60000000

/-- Whether rounding does not decide if what is lost makes a minute: nothing is lost, or what is
lost differs enough from what is spare. -/
def ClearOfRounding (start stop : Moment) (first last : Date) (zone : Zone) : Prop :=
  lostMicros start stop zone = 0 ∨
    (last.ordinal + 1 - first.ordinal) * (stop.since start).toNat ≤
      2 ^ 52 * ((lostMicros start stop zone : Int) - spareMicros start stop).natAbs

instance : Decidable (ClearOfRounding start stop first last zone) :=
  inferInstanceAs (Decidable (_ ∨ _))

/-- On no more than 228 dates, which have 227 nights between them, rounding decides only if exactly
what is lost is spare. -/
theorem clearOfRounding_of_few_dates (never : zone.NeverChanges) (inStep : stop.InStep start)
    (startsOn : start.dateIn zone = .ok first) (stopsOn : stop.dateIn zone = .ok last)
    (few : last.ordinal + 1 - first.ordinal ≤ 228)
    (differ : lostMicros start stop zone ≠ spareMicros start stop) :
    ClearOfRounding start stop first last zone := by
  have fits := toNat_le_of_dateIn never startsOn stopsOn
  rw [← Moment.since_eq_sub_iff.mpr inStep] at fits
  have short : (stop.since start).toNat ≤ 228 * 86400000000 :=
    fits.trans (Nat.mul_le_mul_right _ few)
  have bound := Nat.mul_le_mul few short
  right
  omega

namespace OpenThroughout

variable (throughout : OpenThroughout days first last) (never : zone.NeverChanges)
  (inStep : stop.InStep start) (startsOn : start.dateIn zone = .ok first)
  (stopsOn : stop.dateIn zone = .ok last)

include throughout never inStep startsOn stopsOn

/-- Between two moments every date has at most one overlap. -/
theorem dailyOverlaps (forwards : start.instant ≤ stop.instant) :
    DailyOverlaps (overlaps start stop (days.filter (·.isBetween first last)) zone)
      (last.ordinal + 1 - first.ordinal) (stop.since start).toNat
      (lostMicros start stop zone) where
  count := by
    have single : ∀ day ∈ days.filter (·.isBetween first last),
        day.intervals.length * 1 ≤ 1 := by
      intro day listed
      rw [throughout.intervals_eq listed]
      exact le_rfl
    have overlaps : (overlaps start stop (days.filter (·.isBetween first last)) zone).length * 1 ≤
        1 * _ := length_overlaps_mul_le single
    rw [Nat.mul_one, Nat.one_mul] at overlaps
    exact (overlaps.trans (List.length_filter_le _ _)).trans throughout.length_filter_le
  total := by
    have apart := throughout.timetable.pairwise_openSpans never
    rw [sum_overlaps start stop apart, Moment.since_eq_sub_iff.mpr inStep]
    exact throughout.openMicros_add_lostMicros never startsOn stopsOn forwards
  fits := by
    rw [Moment.since_eq_sub_iff.mpr inStep]
    exact toNat_le_of_dateIn never startsOn stopsOn
  inCalendar := by
    have inCalendar := last.inRange
    omega
  nights := by
    have nights := le_lostMicros never startsOn stopsOn
    omega

/-- The open minutes are no more than all minutes. They are as many exactly if the time that is lost
is spare, where rounding does not decide this. -/
theorem openMinutes_eq_iff :
    openMinutes start stop days zone ≤ minutesBetween start stop ∧
      (ClearOfRounding start stop first last zone →
        (openMinutes start stop days zone = minutesBetween start stop ↔
          lostMicros start stop zone ≤ spareMicros start stop)) := by
  rw [← openMinutes_between never inStep startsOn stopsOn days]
  unfold openMinutes
  by_cases backwards : stop ≤ start
  · rw [if_pos backwards]
    have none : (stop.since start).toNat = 0 := Int.toNat_of_nonpos backwards
    rw [minutesBetween, wholeMinutes, none, Seconds.ofMicros_zero,
      lostMicros_eq_zero zone inStep backwards]
    exact ⟨Nat.zero_le _, fun _ => iff_of_true rfl (Nat.zero_le _)⟩
  · rw [if_neg backwards, openSeconds_eq never inStep]
    have forwards : start.instant ≤ stop.instant := by
      rw [Moment.le_def, Moment.since_eq_sub_iff.mpr inStep] at backwards
      omega
    have daily := throughout.dailyOverlaps never inStep startsOn stopsOn forwards
    exact ⟨daily.wholeMinutes_le, daily.wholeMinutes_eq_iff⟩

end OpenThroughout

/-! ## Overdue minutes -/

namespace Loan

variable {loan : Loan} {policy : Option LoanPolicy} {fine : FinePolicy} {now : Moment}
variable {dueDate today : Date}

/-- **Always open.** Where clocks are never changed, let every date from that of the due date to
that of the current time be given once and be open all day. Then overdue minutes are counted both
with and without closed time, and without it there are no more of them. Every night loses a
millisecond of open time. So, where rounding does not decide this, the two counts are equal exactly
if the time that is lost is no more than what there is beyond the last full minute, or the grace
covers all minutes. -/
theorem overdueMinutes_openThroughout_eq_iff (never : zone.NeverChanges)
    (inStep : now.InStep loan.due) (dueOn : loan.due.dateIn zone = .ok dueDate)
    (nowOn : now.dateIn zone = .ok today) (throughout : OpenThroughout days dueDate today) :
    ∃ withoutClosed withClosed : Int,
      loan.overdueMinutes policy { fine with countClosed := false } now (some days) zone =
          .ok withoutClosed ∧
        loan.overdueMinutes policy { fine with countClosed := true } now (some days) zone =
          .ok withClosed ∧
        withoutClosed ≤ withClosed ∧
        (ClearOfRounding loan.due now dueDate today zone →
          (withoutClosed = withClosed ↔
            lostMicros loan.due now zone ≤ spareMicros loan.due now ∨
              (minutesBetween loan.due now : Int) ≤ loan.graceMinutes policy fine)) := by
  obtain ⟨fewer, asMany⟩ := throughout.openMinutes_eq_iff never inStep dueOn nowOn
  -- the grace does not depend on whether closed time counts
  refine ⟨loan.countedMinutes policy fine now _, loan.countedMinutes policy fine now _,
    overdueMinutes_of_elapsedMinutes rfl, overdueMinutes_of_elapsedMinutes rfl,
    countedMinutes_le fewer, fun clear => ?_⟩
  unfold countedMinutes
  by_cases notDue : now ≤ loan.due
  · rw [if_pos notDue, if_pos notDue, lostMicros_eq_zero zone inStep notDue]
    exact iff_of_true rfl (.inl (Nat.zero_le _))
  · rw [if_neg notDue, if_neg notDue, ← asMany clear]
    omega

/-- A loan due at noon on the first day of 2024. -/
def noonLoan : Loan where
  id := "loan-1"
  due := .showing (.ofDay 738885) (.ofHour 12) .utc

/-- That day and the next one, both open all day. -/
def newYearDays : List OpeningDay := [.openAllDay (.ofDay 738885), .openAllDay (.ofDay 738886)]

theorem openThroughout_newYearDays :
    OpenThroughout newYearDays (.ofDay 738885) (.ofDay 738886) := by
  refine ⟨fun date after before => ?_, by decide⟩
  have dates : date = .ofDay 738885 ∨ date = .ofDay 738886 := by
    have cases : date.ordinal = 738885 ∨ date.ordinal = 738886 := by
      rw [Date.le_def] at after before
      simp only [Date.ofDay] at after before
      omega
    exact cases.imp Date.eq_of_ordinal_eq Date.eq_of_ordinal_eq
  rcases dates with rfl | rfl <;> decide

/-- Half a minute after noon on the next day, a day has passed with and without closed time: the
millisecond that was lost is spare. -/
theorem overdueMinutes_noonLoan :
    let now : Moment := .showing (.ofDay 738886) ⟨43230000000, by decide⟩ .utc
    noonLoan.overdueMinutes none { countClosed := false } now (some newYearDays) .utc = .ok 1440 ∧
      noonLoan.overdueMinutes none { countClosed := true } now (some newYearDays) .utc =
        .ok 1440 := by
  intro now
  have counted : noonLoan.overdueMinutes none { countClosed := true } now (some newYearDays) .utc =
      .ok 1440 := by decide
  obtain ⟨withoutClosed, withClosed, openOnly, all, -, equal⟩ :=
    @overdueMinutes_openThroughout_eq_iff newYearDays .utc noonLoan none {} now (.ofDay 738885)
      (.ofDay 738886) (by decide) (by decide) (by decide) (by decide) openThroughout_newYearDays
  obtain rfl := Except.ok.inj (counted.symm.trans all)
  have clear : ClearOfRounding noonLoan.due now (.ofDay 738885) (.ofDay 738886) .utc :=
    clearOfRounding_of_few_dates (by decide) (by decide) (by decide) (by decide) (by decide)
      (by decide)
  obtain rfl : withoutClosed = 1440 := (equal clear).mpr (.inl (by decide))
  exact ⟨openOnly, all⟩

/-- At noon exactly, nothing is spare, and a minute of the day is missing from open time. -/
theorem not_always_openThroughout_eq : ¬ ∀ (loan : Loan) (policy : Option LoanPolicy)
    (fine : FinePolicy) (now : Moment) (days : List OpeningDay) (dueDate today : Date)
    (withoutClosed withClosed : Int),
    loan.due.zone = .utc → now.zone = .utc → loan.due.dateIn .utc = .ok dueDate →
    now.dateIn .utc = .ok today → OpenThroughout days dueDate today →
    loan.overdueMinutes policy { fine with countClosed := false } now (some days) .utc =
      .ok withoutClosed →
    loan.overdueMinutes policy { fine with countClosed := true } now (some days) .utc =
      .ok withClosed →
    withoutClosed = withClosed := by
  intro always
  have equal := always noonLoan none {} (.showing (.ofDay 738886) (.ofHour 12) .utc) newYearDays
    (.ofDay 738885) (.ofDay 738886) 1439 1440 rfl rfl (by decide) (by decide)
    openThroughout_newYearDays (by decide) (by decide)
  revert equal
  decide

end Loan

end Lending
