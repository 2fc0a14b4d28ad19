import Lending.Time.Zone

/-!
# Changed clocks

Where clocks are changed, what they show and the instants at which they show it are at different
distances at different times. Of these distances only two things are known in general: they were
all in force at some time, and each is less than a day. Everything else depends on the history of a
region, and on how a wall-clock time is read that clocks show twice or not at all.

The clocks of some regions were never changed to another distance, and those of a fixed distance
cannot be. Such clocks stand at one distance for all times.

## Main definitions

* `Zone.NeverChanges` — the zones whose clocks stand at one distance for all times
* `Zone.standardOffset` — the distance at which clocks stand that are never changed
* `Region.newYork` — two years of a region whose clocks are changed twice a year

## Main results

* `Zone.NeverChanges.interpretation_eq_standardOffset` — clocks that are never changed
* `Zone.natAbs_interpretation_sub_lt` — how far apart two readings of clocks in a zone are
-/

namespace Lending

namespace Zone

/-- The distance from universal time at which the clocks of a zone first stood, in seconds. -/
def standardOffset : Zone → Int
  | .fixed seconds => seconds
  | .region r => r.first

/-- The zones whose clocks are never changed to another distance. -/
def NeverChanges : Zone → Prop
  | .fixed _ => True
  | .region r => ∀ change ∈ r.changes, change.offset = r.first

instance (zone : Zone) : Decidable zone.NeverChanges :=
  match zone with
  | .fixed _ => .isTrue trivial
  | .region r => inferInstanceAs (Decidable (∀ change ∈ r.changes, change.offset = r.first))

/-- Clocks that are never changed are always read at the distance at which they first stood. -/
theorem NeverChanges.interpretation_eq_standardOffset {zone : Zone} (never : zone.NeverChanges)
    (wall : Int) (pass : Bool) : zone.interpretation wall pass = zone.standardOffset := by
  cases zone with
  | fixed seconds => rfl
  | region r =>
    rcases List.mem_cons.mp (r.offset_mem (if pass then .secondPass else .firstPass) wall) with
      first | changed
    · exact first
    · obtain ⟨change, listed, offset⟩ := List.mem_map.mp changed
      exact offset.symm.trans (never change listed)

/-- Two readings of clocks in one zone are less than two days apart. -/
theorem natAbs_interpretation_sub_lt (zone : Zone) (wall wall' : Int) (pass pass' : Bool) :
    (zone.interpretation wall pass - zone.interpretation wall' pass').natAbs < 172800 := by
  cases zone with
  | fixed seconds => simp
  | region r =>
    have within := r.withinDay _ (r.offset_mem (if pass then .secondPass else .firstPass) wall)
    have within' := r.withinDay _ (r.offset_mem (if pass' then .secondPass else .firstPass) wall')
    simp only [interpretation]
    omega

end Zone

/-- New York in 2024 and 2025. Clocks are advanced on the second Sunday of March and put back on the
first Sunday of November, at two o'clock; the changes of all other years are left out. -/
def Region.newYork : Region where
  name := "America/New_York"
  first := -18000
  changes :=
    [⟨(738954 * 86400 + 25200) * 1000000, -14400⟩, ⟨(739192 * 86400 + 21600) * 1000000, -18000⟩,
      ⟨(739318 * 86400 + 25200) * 1000000, -14400⟩, ⟨(739556 * 86400 + 21600) * 1000000, -18000⟩]
  withinDay := by decide
  readsBack := History.readsBack_of_spaced (by decide) (by decide)

end Lending
