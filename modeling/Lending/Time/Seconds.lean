/-!
# Seconds in double precision

Spans of time are added up as seconds in double precision: every sum and every conversion from
microseconds is the nearest number with 53 significant bits, and of two equally near ones that
with the even significand. A microsecond is about `2⁻²⁰` seconds, so every span that is zero or at
least a microsecond is a whole number of units of `2⁻⁷²` seconds, and no other spans occur.

## Main definitions

* `roundSignificand` — a quotient rounded to 53 significant bits
* `Seconds` — a span in units of `2⁻⁷²` seconds
* `Seconds.ofMicros`, `Seconds.add` — the two rounded operations
* `Seconds.wholeMinutes` — the whole minutes of a span
-/

namespace Lending

/-- The whole number nearest to `num / den`, and of two equally near ones the even one. -/
def roundQuotient (num den : Nat) : Nat :=
  let down := num / den
  let twice := 2 * (num % den)
  if twice < den then down
  else if den < twice then down + 1
  else down + down % 2

/-- The number nearest to `num / den` among the multiples of the power of two that leaves 53
significant bits. -/
def roundSignificand (num den : Nat) : Nat :=
  let excess := Nat.log2 (num / den) - 52
  roundQuotient num (den * Nat.pow 2 excess) * Nat.pow 2 excess

/-- A span of time in units of `2⁻⁷²` seconds. -/
structure Seconds where
  units : Nat
deriving DecidableEq, Repr

namespace Seconds

def zero : Seconds := ⟨0⟩

/-- The span of a number of microseconds, rounded once. -/
def ofMicros (micros : Nat) : Seconds :=
  ⟨roundSignificand (micros * Nat.pow 2 66) 15625⟩

/-- The sum of two spans, rounded once. -/
def add (a b : Seconds) : Seconds :=
  ⟨roundSignificand (a.units + b.units) 1⟩

/-- The whole minutes of a span. -/
def wholeMinutes (s : Seconds) : Nat :=
  s.units / (60 * Nat.pow 2 72)

end Seconds

/-- The whole minutes of a span of microseconds; a span that runs backwards has none. -/
def wholeMinutes (micros : Int) : Nat :=
  (Seconds.ofMicros micros.toNat).wholeMinutes

end Lending
