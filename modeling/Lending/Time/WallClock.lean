import Lending.Time.Date

/-!
# Times of day and wall clocks

A wall clock shows a date and a time of day to the microsecond and knows nothing of zones. It is
kept as one count of microseconds since the start of year 1, so that moving it and comparing two
of them is arithmetic on counts.

## Main definitions

* `TimeOfDay` — the microseconds since midnight
* `endOfDay` — 23:59:59.999, the last moment that a day-long loan may last
* `WallClock` — a date with a time of day
* `WallClock.shift?` — the wall clock moved by a number of microseconds
-/

namespace Lending

/-! ## Times of day -/

/-- A time of day, as the number of microseconds since midnight. -/
structure TimeOfDay where
  micros : Nat
  inRange : micros < 86400000000
deriving DecidableEq, Repr

namespace TimeOfDay

instance : LE TimeOfDay := ⟨fun a b => a.micros ≤ b.micros⟩

instance : LT TimeOfDay := ⟨fun a b => a.micros < b.micros⟩

instance (a b : TimeOfDay) : Decidable (a ≤ b) :=
  inferInstanceAs (Decidable (a.micros ≤ b.micros))

instance (a b : TimeOfDay) : Decidable (a < b) :=
  inferInstanceAs (Decidable (a.micros < b.micros))

theorem le_def {a b : TimeOfDay} : a ≤ b ↔ a.micros ≤ b.micros := Iff.rfl

theorem lt_def {a b : TimeOfDay} : a < b ↔ a.micros < b.micros := Iff.rfl

def hour (time : TimeOfDay) : Nat := time.micros / 3600000000

def minute (time : TimeOfDay) : Nat := time.micros / 60000000 % 60

def second (time : TimeOfDay) : Nat := time.micros / 1000000 % 60

def microsecond (time : TimeOfDay) : Nat := time.micros % 1000000

/-- The time that a clock with hours, minutes, seconds and microseconds shows, if it can. -/
def ofClock? (hour minute second microsecond : Nat) : Option TimeOfDay :=
  if h : hour < 24 ∧ minute < 60 ∧ second < 60 ∧ microsecond < 1000000 then
    some ⟨((hour * 60 + minute) * 60 + second) * 1000000 + microsecond, by omega⟩
  else none

end TimeOfDay

/-- Midnight, with which a day starts. -/
def startOfDay : TimeOfDay := ⟨0, by decide⟩

/-- One millisecond before midnight, with which a day ends. -/
def endOfDay : TimeOfDay := ⟨86399999000, by decide⟩

/-! ## Wall clocks -/

/-- A date with a time of day, as the number of microseconds since the start of year 1. -/
structure WallClock where
  micros : Nat
  inRange : micros < 315537897600000000
deriving DecidableEq, Repr

namespace WallClock

instance : LE WallClock := ⟨fun a b => a.micros ≤ b.micros⟩

instance : LT WallClock := ⟨fun a b => a.micros < b.micros⟩

instance (a b : WallClock) : Decidable (a ≤ b) :=
  inferInstanceAs (Decidable (a.micros ≤ b.micros))

instance (a b : WallClock) : Decidable (a < b) :=
  inferInstanceAs (Decidable (a.micros < b.micros))

theorem le_def {a b : WallClock} : a ≤ b ↔ a.micros ≤ b.micros := Iff.rfl

/-- The date that the wall clock shows. -/
def date (wall : WallClock) : Date :=
  ⟨wall.micros / 86400000000, by have := wall.inRange; omega⟩

/-- The time of day that the wall clock shows. -/
def time (wall : WallClock) : TimeOfDay :=
  ⟨wall.micros % 86400000000, by omega⟩

/-- The wall clock that shows `time` on `date`. -/
def showing (date : Date) (time : TimeOfDay) : WallClock :=
  ⟨date.ordinal * 86400000000 + time.micros, by
    have := date.inRange
    have := time.inRange
    omega⟩

/-- The wall clock with a given count of microseconds, if the calendar has it. -/
def ofMicros? (micros : Int) : Option WallClock :=
  if h : 0 ≤ micros ∧ micros < 315537897600000000 then some ⟨micros.toNat, by omega⟩ else none

/-- The wall clock moved by a number of microseconds, forward or back. -/
def shift? (wall : WallClock) (micros : Int) : Option WallClock :=
  ofMicros? (wall.micros + micros)

@[simp] theorem date_showing (d : Date) (t : TimeOfDay) : (WallClock.showing d t).date = d := by
  have := t.inRange
  cases d
  simp only [date, WallClock.showing, Date.mk.injEq]
  omega

@[simp] theorem time_showing (d : Date) (t : TimeOfDay) : (WallClock.showing d t).time = t := by
  have := t.inRange
  cases t
  simp only [time, WallClock.showing, TimeOfDay.mk.injEq]
  omega

@[simp] theorem showing_date_time (w : WallClock) : WallClock.showing w.date w.time = w := by
  cases w
  simp only [date, time, WallClock.showing, WallClock.mk.injEq]
  omega

theorem ofMicros?_eq_some_iff {n : Int} {w : WallClock} :
    ofMicros? n = some w ↔ (w.micros : Int) = n := by
  have hw := w.inRange
  unfold ofMicros?
  split
  · next h =>
    constructor
    · intro e
      obtain rfl := Option.some.inj e
      simp only
      omega
    · rintro rfl
      simp
  · next h =>
    constructor
    · intro e
      simp at e
    · intro e
      omega

theorem shift?_eq_some_iff {w v : WallClock} {n : Int} :
    w.shift? n = some v ↔ (v.micros : Int) = w.micros + n :=
  ofMicros?_eq_some_iff

end WallClock

end Lending
