import Lending.OpeningDay

/-!
# Calendars

A calendar holds what is known of a service point, at most one record for a date. A date without a
record is closed.

## Main definitions

* `Calendar` — opening days in the order of their dates
* `Calendar.insert`, `Calendar.find?`, `Calendar.between` — storing and finding days
* `Calendar.nearestOpen`, `Calendar.adjacent` — the nearest open days around a date
* `weeklyDays` — days that repeat every week
-/

namespace Lending

/-- Opening days in strictly ascending order of their dates. -/
structure Calendar where
  days : List OpeningDay := []
  ordered : days.Pairwise (·.date < ·.date) := by simp

namespace Calendar

/-- A day put into a list of days, in place of one of its date. -/
def insertDay (day : OpeningDay) : List OpeningDay → List OpeningDay
  | [] => [day]
  | d :: ds =>
    if day.date < d.date then day :: d :: ds
    else if day.date = d.date then day :: ds
    else d :: insertDay day ds

theorem mem_insertDay {day e : OpeningDay} {ds : List OpeningDay} (h : e ∈ insertDay day ds) :
    e = day ∨ e ∈ ds := by
  induction ds with
  | nil => simpa [insertDay] using h
  | cons d ds ih =>
    simp only [insertDay] at h
    split at h
    · simpa using h
    · split at h
      · rcases List.mem_cons.1 h with h | h
        · exact .inl h
        · exact .inr (List.mem_cons_of_mem _ h)
      · rcases List.mem_cons.1 h with h | h
        · exact .inr (h ▸ List.mem_cons_self)
        · exact (ih h).imp id (List.mem_cons_of_mem _)

theorem pairwise_insertDay (day : OpeningDay) {ds : List OpeningDay}
    (h : ds.Pairwise (·.date < ·.date)) : (insertDay day ds).Pairwise (·.date < ·.date) := by
  induction ds with
  | nil => simp [insertDay]
  | cons d ds ih =>
    obtain ⟨hd, hds⟩ := List.pairwise_cons.1 h
    simp only [insertDay]
    split
    · next lt =>
      refine List.pairwise_cons.2 ⟨fun e he => ?_, h⟩
      rcases List.mem_cons.1 he with rfl | he
      · exact lt
      · have := hd e he
        simp only [Date.lt_def] at *
        omega
    · next not_lt =>
      split
      · next eq => exact List.pairwise_cons.2 ⟨fun e he => eq ▸ hd e he, hds⟩
      · next ne =>
        refine List.pairwise_cons.2 ⟨fun e he => ?_, ih hds⟩
        rcases mem_insertDay he with rfl | he
        · have : d.date.ordinal ≠ e.date.ordinal := fun h => ne (by
            cases hd : d.date; cases he : e.date; simp_all)
          simp only [Date.lt_def] at *
          omega
        · exact hd e he

/-- The calendar with a day in place of what was known of its date. -/
def insert (calendar : Calendar) (day : OpeningDay) : Calendar :=
  ⟨insertDay day calendar.days, pairwise_insertDay day calendar.ordered⟩

/-- What is known of a date. -/
def find? (calendar : Calendar) (date : Date) : Option OpeningDay :=
  calendar.days.find? fun day => day.date = date

/-- The days from one date to another, both included, in order. -/
def between (calendar : Calendar) (first last : Date) : List OpeningDay :=
  calendar.days.filter fun day => first ≤ day.date && day.date ≤ last

/-- The first open day among the `tries` dates that lie `distance`, `distance + 1`, … steps from a
date; a step is a number of days, forward or back. -/
def searchOpen (calendar : Calendar) (date : Date) (step : Int) :
    (tries : Nat) → (distance : Nat) → Except Fault (Option OpeningDay)
  | 0, _ => .ok none
  | tries + 1, distance => do
    let sought ← date.shift (step * distance)
    match (calendar.find? sought).filter (·.isOpen) with
    | some day => return some day
    | none => calendar.searchOpen date step tries (distance + 1)

/-- The nearest open day in one direction, not more than `limit` days away, or a closed day next to
the date. -/
def nearestOpen (calendar : Calendar) (date : Date) (step limit : Int) :
    Except Fault OpeningDay := do
  match ← calendar.searchOpen date step limit.toNat 1 with
  | some day => return day
  | none => return .closed (← date.shift step)

/-- A date with the nearest open days on both sides. -/
def adjacent (calendar : Calendar) (date : Date) (limit : Int) : Except Fault AdjacentDays := do
  let previous ← calendar.nearestOpen date (-1) limit
  let next ← calendar.nearestOpen date 1 limit
  return ⟨previous, (calendar.find? date).getD (.closed date), next⟩

end Calendar

/-- The days from one date to another that are open at given hours on some weekdays, counted from 0
for Monday, and closed on the others. -/
def weeklyDays (first last : Date) (weekdays : List Int) (hours : List (TimeOfDay × TimeOfDay)) :
    Except Fault (List OpeningDay) :=
  (Date.between first last).mapM fun date =>
    if (date.weekday : Int) ∈ weekdays then
      (OpeningDay.openBetween date) <$> hours.mapM fun (start, stop) => OpeningHour.make start stop
    else .ok (.closed date)

end Lending
