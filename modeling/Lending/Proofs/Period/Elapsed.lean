import Lending.Period
import Lending.Proofs.Except
import Lending.Proofs.Time.Changes

/-!
# Periods of minutes and hours

A period of minutes or hours is meant as elapsed time. It is added to what the clock of the moment's
own zone shows, so that it is as long as it should be exactly when that zone reads the moved wall
clock at the distance from universal time at which it reads the moment. Where clocks are never
changed this is always so. Elsewhere a period that goes past a change of the clocks is too short or
too long.

## Main definitions

* `InCalendar`, `Zone.Reaches` — how far wall clocks and zones go
* `Moment.offsetAfter`, `Moment.movedInstant` — how a moved wall clock is read

## Main results

* `Period.addTo_elapsed_iff` — how long a period of minutes or hours turns out to be
-/

namespace Lending

/-! ## Moved wall clocks -/

/-- Whether the calendar has a count of microseconds since the start of year 1. -/
def InCalendar (micros : Int) : Prop := 0 ≤ micros ∧ micros < 315537897600000000

instance (micros : Int) : Decidable (InCalendar micros) := inferInstanceAs (Decidable (_ ∧ _))

theorem WallClock.isSome_ofMicros?_iff {micros : Int} :
    (∃ wall, WallClock.ofMicros? micros = some wall) ↔ InCalendar micros := by
  unfold ofMicros?
  split
  · next h => exact iff_of_true ⟨_, rfl⟩ h
  · next h => exact iff_of_false (by simp) h

/-- Whether the calendar has an instant, in universal time and as a clock in the zone shows it. -/
def Zone.Reaches (zone : Zone) (instant : Int) : Prop :=
  InCalendar instant ∧ InCalendar (instant + zone.offsetAt instant * 1000000)

instance (zone : Zone) (instant : Int) : Decidable (zone.Reaches instant) :=
  inferInstanceAs (Decidable (_ ∧ _))

/-- A clock in a zone shows the moments of that zone, and all others that the calendar has. -/
theorem Moment.isSome_inZone?_iff (moment : Moment) {zone : Zone} :
    (∃ shown, moment.inZone? zone = some shown) ↔
      moment.zone = zone ∨ zone.Reaches moment.instant := by
  unfold inZone?
  by_cases same : moment.zone = zone
  · simp [same]
  · rw [if_neg same, or_iff_right same, Zone.Reaches, ← WallClock.isSome_ofMicros?_iff,
      ← WallClock.isSome_ofMicros?_iff]
    constructor
    · rintro ⟨shown, h⟩
      obtain ⟨universal, inTime, h⟩ := Option.bind_eq_some_iff.mp h
      obtain ⟨wall, inZone, h⟩ := Option.bind_eq_some_iff.mp h
      exact ⟨⟨universal, inTime⟩, ⟨wall, inZone⟩⟩
    · rintro ⟨⟨universal, inTime⟩, ⟨wall, inZone⟩⟩
      exact ⟨{ wall, zone, secondPass := zone.inSecondPass moment.instant }, by
        simp [ofInstant?, inTime, inZone]⟩

/-- The distance from universal time at which the wall clock of a moment is read after it was moved
by a number of microseconds; a repeated time is then read as its first pass. -/
def Moment.offsetAfter (moment : Moment) (micros : Int) : Int :=
  moment.zone.interpretation (moment.wall.micros + micros) false

/-- The instant that a moved wall clock shows. -/
def Moment.movedInstant (moment : Moment) (micros : Int) : Int :=
  moment.instant + micros + (moment.offset - moment.offsetAfter micros) * 1000000

/-- A wall clock is moved by elapsed time exactly when it is read at one distance before and
after. -/
theorem Moment.movedInstant_eq_iff (moment : Moment) {micros : Int} :
    moment.movedInstant micros = moment.instant + micros ↔
      moment.offsetAfter micros = moment.offset := by
  unfold movedInstant
  omega

theorem Moment.instant_of_shift? {moment : Moment} {wall : WallClock} {micros : Int}
    (moved : moment.wall.shift? micros = some wall) :
    Moment.instant { wall, zone := moment.zone } = moment.movedInstant micros := by
  have count := WallClock.shift?_eq_some_iff.mp moved
  simp only [instant, offset, movedInstant, offsetAfter, count]
  omega

namespace Period

variable {period : Period} {moment result : Moment} {zone : Zone}

/-- Minutes and hours are added by their number of minutes, which is zero for a missing duration. -/
theorem addTo_eq_addMinutes (clock : period.unit? = some .minutes ∨ period.unit? = some .hours) :
    period.addTo moment zone = addMinutes period.toMinutes moment zone := by
  obtain ⟨duration, interval⟩ := period
  rcases clock with minutes | hours
  · cases duration <;> simp [addTo, toMinutes, minutes, PeriodUnit.toMinutes]
  · cases duration <;> simp [addTo, toMinutes, hours, PeriodUnit.toMinutes]

/-- Minutes lead to a moment unless they move the wall clock, or the instant that it then shows,
beyond the calendar. -/
theorem addMinutes_isOk_iff {minutes : Int} :
    (∃ result, addMinutes minutes moment zone = .ok result) ↔
      InCalendar (moment.wall.micros + minutes * 60000000) ∧
      (moment.zone = zone ∨ zone.Reaches (moment.movedInstant (minutes * 60000000))) := by
  constructor
  · rintro ⟨result, h⟩
    obtain ⟨wall, moved, shown⟩ := bind_eq_ok.mp h
    rw [Fault.require_eq_ok] at moved
    rw [Moment.inZone_eq_ok] at shown
    refine ⟨WallClock.isSome_ofMicros?_iff.mp ⟨wall, moved⟩, ?_⟩
    rw [← Moment.instant_of_shift? moved]
    exact (Moment.isSome_inZone?_iff _).mp ⟨result, shown⟩
  · rintro ⟨inCalendar, reached⟩
    obtain ⟨wall, moved⟩ := WallClock.isSome_ofMicros?_iff.mpr inCalendar
    rw [← Moment.instant_of_shift? moved] at reached
    obtain ⟨result, shown⟩ :=
      (Moment.isSome_inZone?_iff { wall, zone := moment.zone }).mpr reached
    exact ⟨result, bind_eq_ok.mpr
      ⟨wall, Fault.require_eq_ok.mpr moved, Moment.inZone_eq_ok.mpr shown⟩⟩

theorem zone_addMinutes {minutes : Int} (h : addMinutes minutes moment zone = .ok result) :
    result.zone = zone := by
  obtain ⟨wall, moved, shown⟩ := bind_eq_ok.mp h
  exact Moment.zone_of_inZone? (Moment.inZone_eq_ok.mp shown)

/-- Minutes lead to the instant that the moved wall clock shows. -/
theorem instant_addMinutes {minutes : Int} (h : addMinutes minutes moment zone = .ok result) :
    result.instant = moment.movedInstant (minutes * 60000000) := by
  obtain ⟨wall, moved, shown⟩ := bind_eq_ok.mp h
  rw [Moment.instant_of_inZone? (Moment.inZone_eq_ok.mp shown)]
  exact Moment.instant_of_shift? (Fault.require_eq_ok.mp moved)

/-- Minutes lead to a moment of the same zone if its wall clock can be moved that far. -/
theorem addMinutes_zone_eq_ok (moment : Moment) {minutes : Int} {wall : WallClock}
    (moved : moment.wall.shift? (minutes * 60000000) = some wall) :
    addMinutes minutes moment moment.zone = .ok { wall, zone := moment.zone } := by
  simp [addMinutes, Moment.inZone, Moment.inZone?, moved]

/-- **The length of a period.** A period of minutes or hours leads to the instant that the moved
wall clock shows, if the calendar reaches it. That is exactly so many minutes later when the moved
wall clock is read at the same distance from universal time as the one before. -/
theorem addTo_elapsed_iff (period : Period) (moment : Moment) (zone : Zone)
    (clock : period.unit? = some .minutes ∨ period.unit? = some .hours) :
    ((∃ result, period.addTo moment zone = .ok result) ↔
      InCalendar (moment.wall.micros + period.toMinutes * 60000000) ∧
      (moment.zone = zone ∨
        zone.Reaches (moment.movedInstant (period.toMinutes * 60000000)))) ∧
    ∀ result, period.addTo moment zone = .ok result →
      result.zone = zone ∧
      result.instant = moment.movedInstant (period.toMinutes * 60000000) ∧
      (result.instant = moment.instant + period.toMinutes * 60000000 ↔
        moment.offsetAfter (period.toMinutes * 60000000) = moment.offset) := by
  rw [addTo_eq_addMinutes clock]
  refine ⟨addMinutes_isOk_iff, fun result found => ?_⟩
  have shows := instant_addMinutes found
  exact ⟨zone_addMinutes found, shows, shows ▸ moment.movedInstant_eq_iff⟩

/-- Eight in the evening in New York, before the night in which clocks are advanced there. -/
def springEvening : Moment :=
  .showing ⟨738953, by decide⟩ ⟨72000000000, by decide⟩ (.region .newYork)

/-- Eight in the morning after that night. -/
def springMorning : Moment :=
  .showing ⟨738954, by decide⟩ ⟨28800000000, by decide⟩ (.region .newYork)

theorem addTo_springEvening :
    (of .hours (some 12)).addTo springEvening (.region .newYork) = .ok springMorning := by
  have clock : (of .hours (some 12)).unit? = some .minutes ∨
      (of .hours (some 12)).unit? = some .hours := .inr (by decide)
  have moved : springEvening.wall.shift? ((of .hours (some 12)).toMinutes * 60000000) =
      some springMorning.wall := by decide
  rw [addTo_eq_addMinutes clock]
  exact addMinutes_zone_eq_ok springEvening moved

/-- The twelve hours of that night are over after eleven hours. -/
theorem addTo_springEvening_elapsed :
    ∃ result, (of .hours (some 12)).addTo springEvening (.region .newYork) = .ok result ∧
      result.instant = springEvening.instant + 11 * 3600000000 := by
  obtain ⟨reached, length⟩ := addTo_elapsed_iff (of .hours (some 12)) springEvening
    (.region .newYork) (.inr (by decide))
  obtain ⟨result, found⟩ := reached.mpr (by decide)
  refine ⟨result, found, ?_⟩
  obtain ⟨-, shows, -⟩ := length result found
  rw [shows]
  decide

/-- Periods of minutes and hours are not always elapsed time. -/
theorem not_always_elapsed : ¬ ∀ (period : Period) (moment result : Moment) (zone : Zone),
    (period.unit? = some .minutes ∨ period.unit? = some .hours) →
    period.addTo moment zone = .ok result →
      result.instant = moment.instant + period.toMinutes * 60000000 := by
  intro elapsed
  have length := elapsed _ _ _ _ (.inr (by decide)) addTo_springEvening
  revert length
  decide

end Period

end Lending
