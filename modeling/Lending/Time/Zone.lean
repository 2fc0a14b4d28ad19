/-!
# Time zones

A zone gives, for an instant, the distance of local time from universal time. Instants are counted
in microseconds from the start of year 1 in universal time, distances in seconds, positive to the
east. A zone is a fixed distance or a region whose clocks have been changed and will be. Distances
are whole seconds; a fixed one with a fraction of a second is left out.

Regions are data. A region comes with the list of all changes of its clocks; those that follow from
a rule for every year are in the list one by one, as far as the calendar goes. What clocks show at
an instant, and which instant they show, are both read off this list.

## Main definitions

* `Change`, `History` — the changes of the clocks of a region
* `Scale`, `History.offset` — the distance in force at an instant, or when clocks show a time
* `Region` — a region by its name, with a history in which clocks can be read back
* `Zone` — a fixed distance or a region
* `Zone.offsetAt` — the distance from universal time at an instant
* `Zone.interpretation` — the distance that a wall-clock time in the zone stands for

## Main results

* `History.readsBack_of_spaced` — clocks can be read back if they are not changed too often
* `Zone.interpretation_inSecondPass` — what a zone shows at an instant is read back as this instant
-/

namespace Lending

/-! ## Changes of the clocks -/

/-- A change of the clocks of a region: from an instant on they are at another distance from
universal time. -/
structure Change where
  instant : Int
  offset : Int
deriving DecidableEq, Repr

/-- What a count of microseconds is taken for: an instant, or what clocks show. Clocks that are put
back show some times twice, so that these have two passes. -/
inductive Scale | instant | firstPass | secondPass
deriving DecidableEq, Repr

/-- The distance from universal time at which a change of the clocks stands on a scale. Between what
clocks show right before a change and right after it lie the times that they skip or show twice. As
first passes these are read as if the clocks had not been changed yet, and as second passes as if
they had been changed already. -/
def Scale.border (before after : Int) : Scale → Int
  | instant => 0
  | firstPass => max before after
  | secondPass => min before after

/-- The distance in force at a count on a scale, given the distance before the first one of some
changes. -/
def offsetAlong (scale : Scale) (count current : Int) : List Change → Int
  | [] => current
  | change :: later =>
    if change.instant + scale.border current change.offset * 1000000 ≤ count then
      offsetAlong scale count change.offset later
    else current

section Along

variable {scale : Scale} {count current : Int} {later : List Change}

theorem offsetAlong_of_passed {change : Change}
    (passed : change.instant + scale.border current change.offset * 1000000 ≤ count) :
    offsetAlong scale count current (change :: later) =
      offsetAlong scale count change.offset later :=
  if_pos passed

/-- Before the next change the present distance is in force. -/
theorem offsetAlong_of_ahead
    (ahead : ∀ change ∈ later,
      count < change.instant + scale.border current change.offset * 1000000) :
    offsetAlong scale count current later = current := by
  cases later with
  | nil => rfl
  | cons change rest => exact if_neg (Int.not_le.mpr (ahead change List.mem_cons_self))

theorem offsetAlong_mem :
    offsetAlong scale count current later ∈ current :: later.map (·.offset) := by
  induction later generalizing current with
  | nil => exact List.mem_cons_self
  | cons change rest ih =>
    unfold offsetAlong
    split
    · exact List.mem_cons_of_mem _ ih
    · exact List.mem_cons_self

theorem instant_of_ahead {t : Int} (ahead : ∀ change ∈ later, t < change.instant) :
    offsetAlong .instant t current later = current :=
  offsetAlong_of_ahead fun change listed => by simpa [Scale.border] using ahead change listed

/-- Until the next change the present distance is read back in the first pass. -/
theorem firstPass_of_ahead {t : Int} (ahead : ∀ change ∈ later, t < change.instant) :
    offsetAlong .firstPass (t + current * 1000000) current later = current := by
  refine offsetAlong_of_ahead fun change listed => ?_
  have := ahead change listed
  simp only [Scale.border]
  omega

/-- Clocks that are never a day away from universal time can be read back if they are changed no
more than once in two days. -/
theorem offsetAlong_readBack (spaced : later.Pairwise (·.instant + 172800000000 ≤ ·.instant))
    (withinDay : ∀ offset ∈ current :: later.map (·.offset), offset.natAbs < 86400) (t : Int) :
    let shown := t + offsetAlong .instant t current later * 1000000
    offsetAlong .firstPass shown current later = offsetAlong .instant t current later ∨
      offsetAlong .secondPass shown current later = offsetAlong .instant t current later := by
  induction later generalizing current with
  | nil => exact .inl rfl
  | cons change rest ih =>
    obtain ⟨apart, spacedRest⟩ := List.pairwise_cons.mp spaced
    obtain ⟨nowWithin, restWithin⟩ := List.forall_mem_cons.mp withinDay
    by_cases begun : change.instant ≤ t
    · have going : offsetAlong .instant t current (change :: rest) =
          offsetAlong .instant t change.offset rest :=
        offsetAlong_of_passed (by simpa [Scale.border] using begun)
      rw [going]
      have within : (offsetAlong .instant t change.offset rest).natAbs < 86400 :=
        restWithin _ offsetAlong_mem
      have changeWithin : change.offset.natAbs < 86400 := restWithin _ List.mem_cons_self
      generalize inForce : offsetAlong .instant t change.offset rest = offset at within
      by_cases passed : change.instant + Scale.firstPass.border current change.offset * 1000000 ≤
          t + offset * 1000000
      · -- on both scales the change is passed
        have passedToo : change.instant + Scale.secondPass.border current change.offset * 1000000 ≤
            t + offset * 1000000 := by
          simp only [Scale.border] at passed ⊢
          omega
        intro shown
        rw [offsetAlong_of_passed passed, offsetAlong_of_passed passedToo, ← inForce]
        simpa only [shown, inForce] using ih spacedRest restWithin
      · -- clocks were put back less than two days ago, so that the next change is still ahead
        simp only [Scale.border] at passed
        have ahead : ∀ next ∈ rest, t < next.instant := by
          intro next listed
          have := apart next listed
          omega
        obtain rfl : offset = change.offset := inForce.symm.trans (instant_of_ahead ahead)
        refine .inr ((offsetAlong_of_passed (by simp only [Scale.border]; omega)).trans ?_)
        refine offsetAlong_of_ahead fun next listed => ?_
        have := apart next listed
        have nextWithin : next.offset.natAbs < 86400 :=
          restWithin _ (List.mem_cons_of_mem _ (List.mem_map_of_mem listed))
        simp only [Scale.border]
        omega
    · have ahead : ∀ next ∈ change :: rest, t < next.instant := by
        intro next listed
        rcases List.mem_cons.mp listed with rfl | later
        · omega
        · have := apart next later
          omega
      rw [instant_of_ahead ahead]
      exact .inl (firstPass_of_ahead ahead)

end Along

/-! ## Regions -/

/-- The changes of the clocks of a region in their order, and the distance before the first one. -/
structure History where
  first : Int
  changes : List Change
deriving DecidableEq, Repr

namespace History

variable (history : History)

/-- The distance from universal time in force at a count on a scale. -/
def offset (scale : Scale) (count : Int) : Int :=
  offsetAlong scale count history.first history.changes

/-- All distances from universal time that were ever in force. -/
def offsets : List Int := history.first :: history.changes.map (·.offset)

/-- What clocks show at an instant is read as this instant, in one of the two passes. -/
def ReadsBack : Prop := ∀ t,
  let shown := t + history.offset .instant t * 1000000
  history.offset .firstPass shown = history.offset .instant t ∨
    history.offset .secondPass shown = history.offset .instant t

variable {history}

theorem offset_mem (scale : Scale) (count : Int) : history.offset scale count ∈ history.offsets :=
  offsetAlong_mem

/-- Clocks can be read back if they are changed no more than once in two days. -/
theorem readsBack_of_spaced
    (spaced : history.changes.Pairwise (·.instant + 172800000000 ≤ ·.instant))
    (withinDay : ∀ offset ∈ history.offsets, offset.natAbs < 86400) : history.ReadsBack :=
  offsetAlong_readBack spaced withinDay

end History

/-- A region by its name. Its clocks are always less than a day away from universal time, and what
they show can be read back. -/
structure Region extends History where
  name : String
  withinDay : ∀ offset ∈ toHistory.offsets, offset.natAbs < 86400
  readsBack : toHistory.ReadsBack
deriving DecidableEq, Repr

/-! ## Zones -/

/-- A fixed distance from universal time in seconds, or a region. -/
inductive Zone
  | fixed (seconds : Int)
  | region (region : Region)
deriving DecidableEq, Repr

namespace Zone

/-- Universal time. -/
abbrev utc : Zone := .fixed 0

/-- The zone of a name: universal time has three names, and each of the known regions has one. -/
def named? (regions : List Region) (name : String) : Option Zone :=
  if name = "UTC" ∨ name = "Z" ∨ name = "Etc/UTC" then some utc
  else (regions.find? (·.name = name)).map .region

/-- The distance from universal time at an instant. -/
def offsetAt : Zone → Int → Int
  | .fixed seconds, _ => seconds
  | .region r, instant => r.offset .instant instant

/-- The distance that a wall-clock time stands for, in one of two passes. -/
def interpretation (zone : Zone) (wall : Int) (secondPass : Bool) : Int :=
  match zone with
  | .fixed seconds => seconds
  | .region r => r.offset (if secondPass then .secondPass else .firstPass) wall

/-- Whether what the zone shows at an instant is the second pass of a repeated time. -/
def inSecondPass (zone : Zone) (instant : Int) : Bool :=
  let offset := zone.offsetAt instant
  zone.interpretation (instant + offset * 1000000) false != offset

@[simp] theorem offsetAt_fixed (s : Int) (t : Int) : (Zone.fixed s).offsetAt t = s := rfl

@[simp] theorem interpretation_fixed (s : Int) (w : Int) (p : Bool) :
    (Zone.fixed s).interpretation w p = s := rfl

@[simp] theorem inSecondPass_fixed (s : Int) (t : Int) :
    (Zone.fixed s).inSecondPass t = false := by
  simp [inSecondPass]

/-- What a zone shows at an instant is read back as the distance at that instant, in one of the
two passes. -/
theorem interpretation_inSecondPass (zone : Zone) (t : Int) :
    zone.interpretation (t + zone.offsetAt t * 1000000) (zone.inSecondPass t) =
      zone.offsetAt t := by
  by_cases first : zone.interpretation (t + zone.offsetAt t * 1000000) false = zone.offsetAt t
  · simp [inSecondPass, first]
  · have second : zone.inSecondPass t = true := by simpa [inSecondPass] using first
    rw [second]
    cases zone with
    | fixed seconds => rfl
    | region r => exact (r.readsBack t).resolve_left first

end Zone

end Lending
