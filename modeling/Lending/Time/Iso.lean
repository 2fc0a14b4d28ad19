import Lending.Time.Moment

/-!
# Written dates and times

Dates and times are written in the extended form of ISO 8601: `2024-02-29`, `10:30:00`,
`2024-02-29T10:30:00+01:00`. Fractions of a second are written with six digits, or not at all when
they are zero, and seconds of an offset only when it has some. Reading allows for the other forms of
the standard: times without seconds, fractions of any length, of which six digits count, offsets
without a colon and `Z` for universal time.

## Main definitions

* `Date.iso`, `TimeOfDay.iso`, `WallClock.iso`, `Moment.iso` — the written forms
* `Iso.date?`, `Iso.time?`, `Iso.wallClock?`, `Iso.offset?` — readers that return what is left
-/

namespace Lending

namespace Iso

/-! ## Writing -/

/-- A number with leading zeros up to a width. -/
def padded (width n : Nat) : String :=
  let digits := Nat.toDigits 10 n
  String.ofList (List.replicate (width - digits.length) '0' ++ digits)

/-- An offset from universal time, given in seconds. -/
def offset (seconds : Int) : String :=
  let sign := if seconds < 0 then "-" else "+"
  let n := seconds.natAbs
  let rest := if n % 60 = 0 then "" else ":" ++ padded 2 (n % 60)
  sign ++ padded 2 (n / 3600) ++ ":" ++ padded 2 (n / 60 % 60) ++ rest

end Iso

open Iso (padded)

/-- The written form of a date. -/
def Date.iso (date : Date) : String :=
  padded 4 date.year ++ "-" ++ padded 2 date.month ++ "-" ++ padded 2 date.day

/-- The written form of a time of day. -/
def TimeOfDay.iso (time : TimeOfDay) : String :=
  let fraction := if time.microsecond = 0 then "" else "." ++ padded 6 time.microsecond
  padded 2 time.hour ++ ":" ++ padded 2 time.minute ++ ":" ++ padded 2 time.second ++ fraction

/-- The written form of a wall clock. -/
def WallClock.iso (wall : WallClock) : String :=
  wall.date.iso ++ "T" ++ wall.time.iso

/-- The written form of a moment: its wall clock and the offset that it is read at. -/
def Moment.iso (m : Moment) : String :=
  m.wall.iso ++ Iso.offset m.offset

namespace Iso

/-! ## Reading -/

/-- The value of a decimal digit. -/
def digit? (c : Char) : Option Nat :=
  if '0' ≤ c ∧ c ≤ '9' then some (c.toNat - 48) else none

/-- A number of exactly `count` digits, read after `seen`. -/
def digits? : (count : Nat) → (seen : Nat) → List Char → Option (Nat × List Char)
  | 0, seen, text => some (seen, text)
  | _ + 1, _, [] => none
  | count + 1, seen, c :: text => do
    let d ← digit? c
    digits? count (10 * seen + d) text

/-- What follows a character that has to stand there. -/
def after? (c : Char) : List Char → Option (List Char)
  | [] => none
  | d :: text => if d = c then some text else none

/-- A date, as in `2024-02-29`. -/
def date? (text : List Char) : Option (Date × List Char) := do
  let (year, text) ← digits? 4 0 text
  let (month, text) ← digits? 2 0 (← after? '-' text)
  let (day, text) ← digits? 2 0 (← after? '-' text)
  return (← Date.ofCivil? year month day, text)

/-- The microseconds of a fraction: six digits count, missing ones are zero. -/
def fractionMicros (digits : List Char) : Nat :=
  ((digits ++ List.replicate 6 '0').take 6).foldl (fun n c => 10 * n + (c.toNat - 48)) 0

/-- The fraction of a second after a point or a comma, in microseconds; no mark, no fraction. -/
def fraction? : List Char → Option (Nat × List Char)
  | [] => some (0, [])
  | c :: text =>
    if c = '.' ∨ c = ',' then
      let digits := text.takeWhile fun d => (digit? d).isSome
      if digits.isEmpty then none else some (fractionMicros digits, text.drop digits.length)
    else some (0, c :: text)

/-- A time of day, as in `10:30`, `10:30:00` or `10:30:00.25`. -/
def time? (text : List Char) : Option (TimeOfDay × List Char) := do
  let (hour, text) ← digits? 2 0 text
  let (minute, text) ← digits? 2 0 (← after? ':' text)
  match text with
  | ':' :: text =>
    let (second, text) ← digits? 2 0 text
    let (micros, text) ← fraction? text
    return (← TimeOfDay.ofClock? hour minute second micros, text)
  | text => return (← TimeOfDay.ofClock? hour minute 0 0, text)

/-- A date and a time of day with a `T`, a blank or a low line between them. -/
def wallClock? (text : List Char) : Option (WallClock × List Char) := do
  let (date, text) ← date? text
  match text with
  | [] => none
  | c :: text =>
    if c = 'T' ∨ c = 't' ∨ c = ' ' ∨ c = '_' then
      let (time, text) ← time? text
      return (.showing date time, text)
    else none

/-- Hours and minutes of an offset, with or without a colon between them, in seconds. -/
def hoursAndMinutes? (text : List Char) : Option (Int × List Char) := do
  let (hours, text) ← digits? 2 0 text
  let (minutes, text) ← digits? 2 0 ((after? ':' text).getD text)
  if hours < 24 ∧ minutes < 60 then return ((hours * 3600 + minutes * 60 : Nat), text) else none

/-- An offset from universal time in seconds: `Z`, or hours and minutes after a sign. -/
def offset? : List Char → Option (Int × List Char)
  | [] => none
  | c :: text =>
    if c = 'Z' ∨ c = 'z' then some (0, text)
    else if c = '+' then hoursAndMinutes? text
    else if c = '-' ∨ c = '−' then (hoursAndMinutes? text).map fun (n, rest) => (-n, rest)
    else none

/-- The value of a reader that has to use up the text. -/
def whole? {α : Type} (reader : List Char → Option (α × List Char)) (text : String) : Option α :=
  match reader text.toList with
  | some (a, []) => some a
  | _ => none

end Iso

end Lending
