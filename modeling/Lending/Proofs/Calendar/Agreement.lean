import Lending.Proofs.Calendar.OpenTime
import Lending.Proofs.Time.Changes
import Mathlib.Order.Interval.Set.UnorderedInterval

/-!
# The two ways of being open

Whether a day is open at a moment is asked in two ways: by the time of day that the clocks of the
service point show, and by the moments at which its opening hours begin and end. The two agree for
moments that are kept in the zone of the service point. For others they depend on how the times of
the day are read: a time that is read at another distance from universal time than the one in force
at the moment may be past by the clock and still ahead as a moment, or the other way round. Of a
time that is shown twice only the first pass lies within the opening hours as moments, and by the
clock both do. Of a time that is skipped it is the other way round: moments that are shown as later
times lie within the opening hours, and the clock is never there.

## Main definitions

* `Zone.Misreads` — a time that clocks show on the wrong side of an instant
* `OpeningDay.HasPeriodAt` — a day that has opening hours around a moment, taken as moments

## Main results

* `OpeningDay.openTests_agree_iff` — when the two ways agree
-/

namespace Lending

/-! ## The times of a date -/

namespace TimeOfDay

/-- The last time of a day. -/
def lastOfDay : TimeOfDay := ⟨86399999999, by decide⟩

theorem startOfDay_le (time : TimeOfDay) : startOfDay ≤ time := Nat.zero_le _

theorem le_lastOfDay (time : TimeOfDay) : time ≤ lastOfDay := Nat.le_of_lt_succ time.inRange

end TimeOfDay

/-- What a wall clock shows lies between the first and the last time of its date. -/
theorem WallClock.within_date (wall : WallClock) :
    WallClock.showing wall.date startOfDay ≤ wall ∧
      wall ≤ WallClock.showing wall.date TimeOfDay.lastOfDay := by
  simp only [WallClock.le_def, WallClock.showing, WallClock.date, startOfDay, TimeOfDay.lastOfDay]
  omega

/-! ## Moments by what clocks show -/

namespace Zone

variable {zone : Zone} {instant wall : Int}

/-- A time is misread at an instant if it is read at another distance than the one in force then,
and lies between what clocks show at the two distances. -/
def Misreads (zone : Zone) (instant wall : Int) : Prop :=
  let read := zone.interpretation wall false
  let current := zone.offsetAt instant
  read ≠ current ∧ wall ∈ Set.uIcc (instant + read * 1000000) (instant + current * 1000000)

/-- A time that is not misread is before, at or after what clocks show at an instant exactly if it
is read as an earlier instant, as this one or as a later one. -/
theorem not_misreads_iff : ¬ zone.Misreads instant wall ↔
    (wall ≤ instant + zone.offsetAt instant * 1000000 ↔
        wall - zone.interpretation wall false * 1000000 ≤ instant) ∧
      (instant + zone.offsetAt instant * 1000000 ≤ wall ↔
        instant ≤ wall - zone.interpretation wall false * 1000000) := by
  simp only [Misreads, Set.mem_uIcc]
  omega

end Zone

namespace Moment

variable {zone : Zone} {m shown : Moment}

/-- What the clocks of another zone show at a moment. -/
theorem wall_of_otherZone (other : m.zone ≠ zone) (there : m.inZone? zone = some shown) :
    (shown.wall.micros : Int) = m.instant + zone.offsetAt m.instant * 1000000 := by
  rw [inZone?, if_neg other] at there
  simp only [ofInstant?, Option.bind_eq_bind, Option.bind_eq_some_iff] at there
  obtain ⟨_, _, wall, reached, same⟩ := there
  rw [← Option.some.inj same]
  exact WallClock.ofMicros?_eq_some_iff.mp reached

variable (date : Date) (time : TimeOfDay)

/-- A time on a date is read as a first pass. -/
theorem instant_showing_first (zone : Zone) :
    (showing date time zone).instant =
      (WallClock.showing date time).micros -
        zone.interpretation (WallClock.showing date time).micros false * 1000000 := rfl

/-- From another zone, a time on a date is compared by the instant that it is read as. -/
theorem showing_compared (other : m.zone ≠ zone) :
    (showing date time zone ≤ m ↔ (showing date time zone).instant ≤ m.instant) ∧
      (m ≤ showing date time zone ↔ m.instant ≤ (showing date time zone).instant) := by
  rw [le_def, le_def, since, since, zone_showing, if_neg other, if_neg other.symm]
  omega

/-- Moments are in the order of what clocks show, unless they are of two zones and the time that is
shown is misread. -/
theorem showing_order (there : m.inZone? zone = some shown)
    (orderly : m.zone = zone ∨
      ¬ zone.Misreads m.instant (WallClock.showing date time).micros) :
    (showing date time zone ≤ m ↔ WallClock.showing date time ≤ shown.wall) ∧
      (m ≤ showing date time zone ↔ shown.wall ≤ WallClock.showing date time) := by
  rw [WallClock.le_def, WallClock.le_def]
  by_cases same : m.zone = zone
  · rw [inZone?, if_pos same] at there
    obtain rfl := Option.some.inj there
    rw [le_def, le_def, since, since, zone_showing, if_pos same, if_pos same.symm, wall_showing]
    omega
  · have wall := wall_of_otherZone same there
    have order := Zone.not_misreads_iff.mp (orderly.resolve_left same)
    rw [← wall] at order
    obtain ⟨before, after⟩ := showing_compared date time same
    rw [before, after, instant_showing_first]
    exact_mod_cast order.imp Iff.symm Iff.symm

end Moment

namespace OpeningDay

variable {day : OpeningDay} {zone : Zone} {moment : Moment} {date : Date}

/-- A moment lies within one of the spans during which a day is open in a zone. -/
def HasPeriodAt (day : OpeningDay) (moment : Moment) (zone : Zone) : Prop :=
  ∃ span ∈ day.periods zone, span.1 ≤ moment ∧ moment ≤ span.2

instance (day : OpeningDay) (moment : Moment) (zone : Zone) :
    Decidable (day.HasPeriodAt moment zone) :=
  inferInstanceAs (Decidable (∃ span ∈ day.periods zone, span.1 ≤ moment ∧ moment ≤ span.2))

/-- If no time of its date is misread, a day is open by the clock during its opening hours. -/
theorem isOpenAt_of_orderly (fallsOn : moment.dateIn zone = .ok day.date)
    (orderly : moment.zone = zone ∨ ∀ time : TimeOfDay,
      ¬ zone.Misreads moment.instant (WallClock.showing day.date time).micros) :
    day.isOpenAt moment zone = .ok (decide (day.HasPeriodAt moment zone)) := by
  obtain ⟨shown, there, -⟩ := Option.map_eq_some_iff.mp (Fault.require_eq_ok.mp fallsOn)
  have order := fun time => Moment.showing_order day.date time there (orderly.imp_right (· time))
  rw [isOpenAt_eq_ok there]
  simp only [HasPeriodAt, periods, List.mem_map, exists_exists_and_eq_and, order]

@[simp] theorem date_openBetween (date : Date) (hours : List OpeningHour) :
    (openBetween date hours).date = date := rfl

theorem intervals_openBetween (date : Date) (hour : OpeningHour) :
    (openBetween date [hour]).intervals = [hour] := by
  simp [intervals, openBetween, OpeningHour.sort]

/-- From another zone, the two ways agree on a day with one opening hour exactly if the moment is
shown within that hour just when it is within its beginning and its end as instants. -/
theorem agree_openBetween_iff {shown : Moment} (there : moment.inZone? zone = some shown)
    (other : moment.zone ≠ zone) (date : Date) (hour : OpeningHour) :
    (openBetween date [hour]).isOpenAt moment zone =
        .ok (decide ((openBetween date [hour]).HasPeriodAt moment zone)) ↔
      (WallClock.showing date hour.start ≤ shown.wall ∧
          shown.wall ≤ WallClock.showing date hour.stop ↔
        (Moment.showing date hour.start zone).instant ≤ moment.instant ∧
          moment.instant ≤ (Moment.showing date hour.stop zone).instant) := by
  rw [isOpenAt_eq_ok there, Except.ok.injEq, decide_eq_decide, HasPeriodAt, periods,
    intervals_openBetween]
  simp only [List.map_cons, List.map_nil, List.mem_singleton, exists_eq_left, date_openBetween,
    (Moment.showing_compared date _ other).1, (Moment.showing_compared date _ other).2]

/-- **Being open.** By the clock every day is open during its opening hours, and at no other moment
of its date, exactly if the moment is kept in the zone or no time of the date is misread then. -/
theorem openTests_agree_iff (fallsOn : moment.dateIn zone = .ok date) :
    (∀ day : OpeningDay, day.date = date →
        day.isOpenAt moment zone = .ok (decide (day.HasPeriodAt moment zone))) ↔
      moment.zone = zone ∨ ∀ time : TimeOfDay,
        ¬ zone.Misreads moment.instant (WallClock.showing date time).micros := by
  refine ⟨fun agree => ?_, ?_⟩
  · by_cases same : moment.zone = zone
    · exact .inl same
    · obtain ⟨shown, there, rfl⟩ := Option.map_eq_some_iff.mp (Fault.require_eq_ok.mp fallsOn)
      have asked := fun hour =>
        (agree_openBetween_iff there same shown.wall.date hour).mp (agree _ rfl)
      -- the moment is shown between the first and the last time of the date, so it is between
      -- them as an instant too; a day that is open from a time on, or until it, then tells how
      -- this time alone is read
      obtain ⟨begun, notOver⟩ := shown.wall.within_date
      have allDay := asked ⟨startOfDay, .lastOfDay, TimeOfDay.le_lastOfDay _⟩
      refine .inr fun time => Zone.not_misreads_iff.mpr ?_
      have before := asked ⟨time, .lastOfDay, time.le_lastOfDay⟩
      have after := asked ⟨startOfDay, time, time.startOfDay_le⟩
      rw [← Moment.wall_of_otherZone same there, ← Moment.instant_showing_first]
      simp only [begun, notOver, true_and, and_true, true_iff] at allDay before after
      simp only [allDay, true_and, and_true] at before after
      simp only [← before, ← after, WallClock.le_def]
      omega
  · rintro orderly day rfl
    exact isOpenAt_of_orderly fallsOn orderly

/-- The Sunday on which clocks in New York are put back from two to one, at a service point that is
open from half past twelve to half past one in that night. -/
def autumnNight : OpeningDay where
  date := ⟨739192, by decide⟩
  isOpen := true
  stored := [⟨⟨1800000000, by decide⟩, ⟨5400000000, by decide⟩, by decide⟩]

/-- A quarter past one in New York, for the first time. -/
def firstQuarterPast : Moment := .showing autumnNight.date ⟨18900000000, by decide⟩ .utc

/-- A quarter past one in New York, for the second time. -/
def secondQuarterPast : Moment := .showing autumnNight.date ⟨22500000000, by decide⟩ .utc

/-- The first time that a quarter past one is shown, any opening hours are told in the same way:
the times that are read at another distance then are those from two o'clock on. -/
theorem firstQuarterPast_openTests_agree :
    firstQuarterPast.dateIn (.region .newYork) = .ok autumnNight.date ∧
      ∀ day : OpeningDay, day.date = autumnNight.date →
        day.isOpenAt firstQuarterPast (.region .newYork) =
          .ok (decide (day.HasPeriodAt firstQuarterPast (.region .newYork))) := by
  have fallsOn : firstQuarterPast.dateIn (.region .newYork) = .ok autumnNight.date := by rfl
  refine ⟨fallsOn, (openTests_agree_iff fallsOn).mpr (.inr fun time => ?_)⟩
  have shows : (WallClock.showing autumnNight.date time).micros =
      739192 * 86400000000 + time.micros := rfl
  have inDay := time.inRange
  have current : (Zone.region .newYork).offsetAt firstQuarterPast.instant = -14400 := by decide
  have instant : firstQuarterPast.instant = (739192 * 86400 + 18900) * 1000000 := by decide
  have read : (Zone.region .newYork).interpretation
      (WallClock.showing autumnNight.date time).micros false =
        if time.micros < 7200000000 then -14400 else -18000 := by
    rw [shows]
    simp only [Zone.interpretation, Bool.false_eq_true, if_false, History.offset, Region.newYork,
      offsetAlong, Scale.border]
    split_ifs <;> omega
  rw [Zone.Misreads, current, read, instant, shows, Set.mem_uIcc]
  split_ifs <;> omega

/-- The second time that a quarter past one is shown, the day is open by the clock although its
opening hours as moments are over. -/
theorem not_always_openTests_agree : ¬ ∀ (day : OpeningDay) (moment : Moment) (zone : Zone),
    moment.dateIn zone = .ok day.date →
      (day.isOpenAt moment zone = .ok true ↔ day.HasPeriodAt moment zone) := by
  intro agree
  have openThen : autumnNight.isOpenAt secondQuarterPast (.region .newYork) = .ok true := by rfl
  have during := (agree autumnNight secondQuarterPast (.region .newYork) (by rfl)).mp openThen
  revert during
  decide

end OpeningDay

end Lending
