import Lending.Time.WallClock
import Lending.Time.Zone

/-!
# Moments

A moment is what a clock in some zone shows, together with the pass that is meant when that time
occurs twice there. Two moments of one zone are compared, and subtracted, by their wall clocks
alone; moments of different zones by the instants that they denote.

## Main definitions

* `Moment` — a wall clock attached to a zone
* `Moment.instant` — the point in time that a moment denotes
* `Moment.since` — the microseconds from one moment to another, from which the order comes
* `Moment.inZone?` — the same instant as a clock in another zone shows it
-/

namespace Lending

/-- What a clock in a zone shows; `secondPass` picks the later of the two instants that show a
repeated time. -/
structure Moment where
  wall : WallClock
  zone : Zone
  secondPass : Bool := false
deriving DecidableEq, Repr

namespace Moment

/-- The distance from universal time that the moment is read at, in seconds. -/
def offset (m : Moment) : Int :=
  m.zone.interpretation m.wall.micros m.secondPass

/-- The point in time that the moment denotes. -/
def instant (m : Moment) : Int :=
  m.wall.micros - m.offset * 1000000

/-- The microseconds from `b` to `a`: the distance of the wall clocks within one zone, of the
instants otherwise. -/
def since (a b : Moment) : Int :=
  if a.zone = b.zone then (a.wall.micros : Int) - b.wall.micros else a.instant - b.instant

instance : LE Moment := ⟨fun a b => a.since b ≤ 0⟩

instance : LT Moment := ⟨fun a b => a.since b < 0⟩

instance (a b : Moment) : Decidable (a ≤ b) := inferInstanceAs (Decidable (a.since b ≤ 0))

instance (a b : Moment) : Decidable (a < b) := inferInstanceAs (Decidable (a.since b < 0))

theorem le_def {a b : Moment} : a ≤ b ↔ a.since b ≤ 0 := Iff.rfl

theorem lt_def {a b : Moment} : a < b ↔ a.since b < 0 := Iff.rfl

/-- The subtraction is antisymmetric. -/
theorem since_eq_neg (a b : Moment) : a.since b = -b.since a := by
  unfold since
  by_cases h : a.zone = b.zone
  · simp only [h, if_true]
    omega
  · have h' : ¬ b.zone = a.zone := fun e => h e.symm
    simp only [h, h', if_false]
    omega

theorem not_le {a b : Moment} : ¬ a ≤ b ↔ b < a := by
  rw [le_def, lt_def, since_eq_neg a b]
  omega

theorem not_lt {a b : Moment} : ¬ a < b ↔ b ≤ a := by
  rw [le_def, lt_def, since_eq_neg a b]
  omega

/-- The earlier of two moments, and the first of them when neither is earlier. -/
def earlier (a b : Moment) : Moment := if b < a then b else a

/-- The later of two moments, and the first of them when neither is later. -/
def later (a b : Moment) : Moment := if a < b then b else a

/-- The first of the earliest moments of a list. -/
def earliest? : List Moment → Option Moment
  | [] => none
  | m :: ms => some (ms.foldl earlier m)

/-- The first of the latest moments of a list. -/
def latest? : List Moment → Option Moment
  | [] => none
  | m :: ms => some (ms.foldl later m)

/-- What a clock in `zone` shows at an instant, if the calendar reaches it in universal time and
in the zone. -/
def ofInstant? (instant : Int) (zone : Zone) : Option Moment := do
  let _ ← WallClock.ofMicros? instant
  let wall ← WallClock.ofMicros? (instant + zone.offsetAt instant * 1000000)
  return { wall, zone, secondPass := zone.inSecondPass instant }

/-- The moment as a clock in `zone` shows it. A moment of that zone stays as it is, also when its
time was skipped there. Two zones that are given alike are one zone here; where they are told apart
the moment is looked up all the same, which makes a difference only at the ends of the calendar. -/
def inZone? (m : Moment) (zone : Zone) : Option Moment :=
  if m.zone = zone then some m else ofInstant? m.instant zone

/-- The date on which a moment falls in a zone. -/
def dateIn? (m : Moment) (zone : Zone) : Option Date :=
  (m.inZone? zone).map (·.wall.date)

/-- The moment at which clocks in `zone` show `time` on `date`. -/
def showing (date : Date) (time : TimeOfDay) (zone : Zone) : Moment :=
  { wall := .showing date time, zone }

/-- The end of a date in a zone. -/
def endOf (date : Date) (zone : Zone) : Moment :=
  showing date endOfDay zone

@[simp] theorem inZone?_self (m : Moment) : m.inZone? m.zone = some m := by
  simp [inZone?]

theorem zone_of_inZone? {m n : Moment} {zone : Zone} (h : m.inZone? zone = some n) :
    n.zone = zone := by
  unfold inZone? at h
  split at h
  · next e => rw [← Option.some.inj h, e]
  · simp only [ofInstant?, Option.bind_eq_bind, Option.bind_eq_some_iff] at h
    obtain ⟨_, _, w, _, e⟩ := h
    rw [← Option.some.inj e]

/-- Looking at another clock does not change the instant. -/
theorem instant_of_inZone? {m n : Moment} {zone : Zone} (h : m.inZone? zone = some n) :
    n.instant = m.instant := by
  unfold inZone? at h
  split at h
  · rw [← Option.some.inj h]
  · simp only [ofInstant?, Option.bind_eq_bind, Option.bind_eq_some_iff] at h
    obtain ⟨_, _, w, hw, e⟩ := h
    rw [WallClock.ofMicros?_eq_some_iff] at hw
    rw [← Option.some.inj e]
    generalize m.instant = t at hw ⊢
    simp only [instant, offset, hw, Zone.interpretation_inSecondPass]
    omega

@[simp] theorem zone_showing (d : Date) (t : TimeOfDay) (z : Zone) :
    (showing d t z).zone = z := rfl

@[simp] theorem wall_showing (d : Date) (t : TimeOfDay) (z : Zone) :
    (showing d t z).wall = .showing d t := rfl

end Moment

end Lending
