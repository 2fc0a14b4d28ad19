/-!
# Calendar dates

A date is its number of days since 1 January of year 1 in the Gregorian calendar, and the
calendar ends with 31 December 9999. Counting days makes the order and the arithmetic of days
those of the natural numbers; year, month and day are read off the count.

## Main definitions

* `Date` — a day of the years 1 to 9999
* `Date.year`, `Date.month`, `Date.day` — the civil reading of a date
* `Date.ofCivil?` — the date with a given civil reading
* `Date.shift?` — the date a number of days away, if the calendar reaches that far
-/

namespace Lending

/-! ## The Gregorian calendar -/

/-- A leap year is divisible by four, a century only when it is divisible by four hundred. -/
def isLeapYear (year : Nat) : Bool :=
  year % 4 == 0 && (year % 100 != 0 || year % 400 == 0)

/-- The days from 1 January of year 1 to 1 January of `year`. -/
def daysBeforeYear (year : Nat) : Nat :=
  365 * (year - 1) + (year - 1) / 4 - (year - 1) / 100 + (year - 1) / 400

/-- The lengths of the twelve months of `year`. -/
def monthLengths (year : Nat) : List Nat :=
  [31, if isLeapYear year then 29 else 28, 31, 30, 31, 30, 31, 31, 30, 31, 30, 31]

/-- The length of a month, counted from 1; there is no thirteenth month. -/
def monthLength (year month : Nat) : Nat :=
  (monthLengths year)[month - 1]?.getD 0

/-- The days from 1 January to the first day of `month`, both of `year`. -/
def daysBeforeMonth (year month : Nat) : Nat :=
  ((monthLengths year).take (month - 1)).foldr (· + ·) 0

/-- The year in which the day `ordinal` lies.

Four hundred years have 146097 days. Within them a century has 36524 days, except that the last
one has a leap day more, and within a century four years have 1461 days, of which the last year
again has a leap day more. -/
def yearOfOrdinal (ordinal : Nat) : Nat :=
  let inCycle := ordinal % 146097
  let centuries := min (inCycle / 36524) 3
  let inCentury := inCycle - centuries * 36524
  let inFour := inCentury % 1461
  400 * (ordinal / 146097) + 100 * centuries + 4 * (inCentury / 1461) + min (inFour / 365) 3 + 1

/-- The month in which a day of the year lies, and its day in that month, both counted from 1. -/
def monthAndDay : List Nat → Nat → Nat × Nat
  | [], dayOfYear => (1, dayOfYear + 1)
  | length :: later, dayOfYear =>
    if dayOfYear < length then (1, dayOfYear + 1)
    else
      let (month, day) := monthAndDay later (dayOfYear - length)
      (month + 1, day)

/-! ## Dates -/

/-- A day of the years 1 to 9999, as the number of days since 1 January of year 1. -/
structure Date where
  ordinal : Nat
  inRange : ordinal < 3652059
deriving DecidableEq, Repr

namespace Date

instance : Inhabited Date := ⟨⟨0, by decide⟩⟩

instance : LE Date := ⟨fun a b => a.ordinal ≤ b.ordinal⟩

instance : LT Date := ⟨fun a b => a.ordinal < b.ordinal⟩

instance (a b : Date) : Decidable (a ≤ b) := inferInstanceAs (Decidable (a.ordinal ≤ b.ordinal))

instance (a b : Date) : Decidable (a < b) := inferInstanceAs (Decidable (a.ordinal < b.ordinal))

theorem le_def {a b : Date} : a ≤ b ↔ a.ordinal ≤ b.ordinal := Iff.rfl

theorem lt_def {a b : Date} : a < b ↔ a.ordinal < b.ordinal := Iff.rfl

/-- The date with a given day count, if the calendar has it. -/
def ofOrdinal? (ordinal : Int) : Option Date :=
  if h : 0 ≤ ordinal ∧ ordinal < 3652059 then some ⟨ordinal.toNat, by omega⟩ else none

/-- The date `days` days later, or earlier when `days` is negative. -/
def shift? (date : Date) (days : Int) : Option Date :=
  ofOrdinal? (date.ordinal + days)

/-- The year, from 1 to 9999. -/
def year (date : Date) : Nat := yearOfOrdinal date.ordinal

/-- The month and the day in it, both counted from 1. -/
def monthDay (date : Date) : Nat × Nat :=
  monthAndDay (monthLengths date.year) (date.ordinal - daysBeforeYear date.year)

/-- The month, from 1 to 12. -/
def month (date : Date) : Nat := date.monthDay.1

/-- The day of the month, counted from 1. -/
def day (date : Date) : Nat := date.monthDay.2

/-- The day of the week, from 0 for Monday to 6 for Sunday. -/
def weekday (date : Date) : Nat := date.ordinal % 7

/-- The date with a given year, month and day, if there is one. -/
def ofCivil? (year month day : Nat) : Option Date :=
  if 1 ≤ year ∧ 1 ≤ month ∧ month ≤ 12 ∧ 1 ≤ day ∧ day ≤ monthLength year month then
    ofOrdinal? ((daysBeforeYear year + daysBeforeMonth year month + day : Nat) - 1)
  else none

/-- The dates from `first` to `last`, both included, in order. -/
def between (first last : Date) : List Date :=
  (List.range (last.ordinal + 1 - first.ordinal)).filterMap fun (n : Nat) => first.shift? n

theorem ofOrdinal?_eq_some_iff {n : Int} {d : Date} :
    ofOrdinal? n = some d ↔ (d.ordinal : Int) = n := by
  have hd := d.inRange
  unfold ofOrdinal?
  split
  · next h =>
    constructor
    · intro e
      obtain rfl := Option.some.inj e
      simp only
      omega
    · rintro rfl
      simp
  · next h =>
    constructor
    · intro e
      simp at e
    · intro e
      omega

theorem shift?_eq_some_iff {d e : Date} {n : Int} :
    d.shift? n = some e ↔ (e.ordinal : Int) = d.ordinal + n :=
  ofOrdinal?_eq_some_iff

@[simp] theorem shift?_zero (d : Date) : d.shift? 0 = some d :=
  shift?_eq_some_iff.2 (by omega)

end Date

end Lending
