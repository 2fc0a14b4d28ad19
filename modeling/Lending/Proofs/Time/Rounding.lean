import Lending.Time.Seconds
import Mathlib.Algebra.Order.Ring.Nat
import Mathlib.Algebra.Order.Field.Rat
import Mathlib.Tactic.Linarith
import Mathlib.Tactic.Positivity
import Mathlib.Tactic.Ring

/-!
# Rounded spans of time

A number with 53 significant bits is a multiple of a power of two that grows with the number, the
grid on which numbers of that size lie. Rounding moves a quotient to a neighbour on its grid. So it
keeps the order of quotients, leaves the numbers on the grid alone, and is off by at most half a
step of it. Whole seconds lie on every grid that spans of time have in the calendar, so that they
are added up without an error; the whole minutes of one span are right as long as the grid is finer
than a microsecond.

## Main definitions

* `roundingGrid` — the step between the numbers that a quotient may be rounded to
* `Seconds.whole` — a number of whole seconds

## Main results

* `le_roundSignificand`, `roundSignificand_le` — rounding does not cross a number on the grid
* `roundSignificand_mono`, `roundSignificand_roundSignificand` — rounding as a function
* `mul_roundSignificand_le` — how much is added by rounding
* `Seconds.wholeMinutes_ofMicros` — the whole minutes of a span
* `Seconds.foldl_add_ofMicros` — whole seconds are added up exactly
* `Seconds.inMicros_foldl_add_lt` — how much a sum gains by rounding
* `Seconds.wholeMinutes_foldl_add_le` — the whole minutes of a sum
-/

namespace Lending

variable {num num' den value : Nat}

/-! ## Quotients rounded to whole numbers -/

/-- A quotient that reaches a whole number is not rounded below it. -/
theorem le_roundQuotient (pos : 0 < den) (h : value * den ≤ num) :
    value ≤ roundQuotient num den := by
  have down : value ≤ num / den := (Nat.le_div_iff_mul_le pos).mpr h
  simp only [roundQuotient]
  split_ifs <;> omega

/-- A quotient that does not exceed a whole number is not rounded above it. -/
theorem roundQuotient_le (pos : 0 < den) (h : num ≤ value * den) :
    roundQuotient num den ≤ value := by
  have parts := Nat.div_add_mod num den
  rcases Nat.lt_or_ge (num / den) value with below | reached
  · simp only [roundQuotient]
    split_ifs <;> omega
  · -- then the quotient is the whole number, and nothing is left to round
    have exact : value * den ≤ num := (Nat.le_div_iff_mul_le pos).mp reached
    have equal : num = value * den := Nat.le_antisymm h exact
    simp [roundQuotient, equal, Nat.mul_div_cancel _ pos, pos]

/-- Rounding a quotient to a whole number adds at most a half. -/
theorem two_mul_roundQuotient_le (num : Nat) (pos : 0 < den) :
    2 * (roundQuotient num den * den) ≤ 2 * num + den := by
  have parts := Nat.div_add_mod' num den
  have step : (num / den + 1) * den = num / den * den + den := Nat.succ_mul _ _
  simp only [roundQuotient]
  split_ifs with less more
  · omega
  · rw [step]
    omega
  · rcases Nat.mod_two_eq_zero_or_one (num / den) with even | odd
    · rw [even, Nat.add_zero]
      omega
    · rw [odd, step]
      omega

theorem roundQuotient_mono (pos : 0 < den) (h : num ≤ num') :
    roundQuotient num den ≤ roundQuotient num' den := by
  have parts := Nat.div_add_mod num den
  have parts' := Nat.div_add_mod num' den
  rcases Nat.lt_or_eq_of_le (Nat.div_le_div_right (c := den) h) with less | same
  · -- the greater quotient is at least the whole number above the lesser one
    refine (roundQuotient_le pos ?_).trans (le_roundQuotient pos (Nat.div_mul_le_self num' den))
    exact (Nat.lt_mul_of_div_lt less pos).le
  · rw [same] at parts
    simp only [roundQuotient, same]
    split_ifs <;> omega

/-! ## Numbers with 53 significant bits -/

/-- The step between the numbers that a quotient may be rounded to. -/
def roundingGrid (num den : Nat) : Nat := 2 ^ (Nat.log2 (num / den) - 52)

theorem roundingGrid_pos (num den : Nat) : 0 < roundingGrid num den := Nat.two_pow_pos _

/-- A quotient is rounded to the nearest multiple of the step of its grid. -/
theorem roundSignificand_eq : roundSignificand num den =
    roundQuotient num (den * roundingGrid num den) * roundingGrid num den := rfl

/-- Of two quotients of so many more than 53 bits the grid divides that power of two. -/
theorem roundingGrid_dvd (bits : Nat) (h : num < 2 ^ (53 + bits) * den) :
    roundingGrid num den ∣ 2 ^ bits := by
  apply Nat.pow_dvd_pow
  by_cases zero : num / den = 0
  · simp [zero]
  · have small : Nat.log2 (num / den) < 53 + bits :=
      (Nat.log2_lt zero).mpr (Nat.div_lt_of_lt_mul (by rwa [Nat.mul_comm]))
    omega

/-- A quotient is less than `2⁵³` steps of its grid. -/
theorem lt_mul_roundingGrid (pos : 0 < den) : num < 2 ^ 53 * roundingGrid num den * den := by
  rw [← Nat.div_lt_iff_lt_mul pos, roundingGrid, ← Nat.pow_add]
  exact Nat.lt_log2_self.trans_le (Nat.pow_le_pow_right (by decide) (by omega))

/-- A quotient with at least 53 bits is at least `2⁵²` steps of its grid. -/
theorem mul_roundingGrid_le (pos : 0 < den) (large : 2 ^ 52 * den ≤ num) :
    2 ^ 52 * roundingGrid num den * den ≤ num := by
  have reached : 2 ^ 52 ≤ num / den := (Nat.le_div_iff_mul_le pos).mpr large
  have nonzero : num / den ≠ 0 := by omega
  have bits : 52 ≤ Nat.log2 (num / den) := (Nat.le_log2 nonzero).mpr reached
  rw [← Nat.le_div_iff_mul_le pos, roundingGrid, ← Nat.pow_add, Nat.add_sub_cancel' bits]
  exact Nat.log2_self_le nonzero

/-- A quotient that reaches a number on its grid is not rounded below it. -/
theorem le_roundSignificand (pos : 0 < den) (onGrid : roundingGrid num den ∣ value)
    (h : value * den ≤ num) : value ≤ roundSignificand num den := by
  obtain ⟨steps, rfl⟩ := onGrid
  rw [roundSignificand_eq, Nat.mul_comm]
  apply Nat.mul_le_mul_right
  apply le_roundQuotient (Nat.mul_pos pos (roundingGrid_pos num den))
  calc steps * (den * roundingGrid num den) = roundingGrid num den * steps * den := by ring
    _ ≤ num := h

/-- A quotient that does not exceed a number on its grid is not rounded above it. -/
theorem roundSignificand_le (pos : 0 < den) (onGrid : roundingGrid num den ∣ value)
    (h : num ≤ value * den) : roundSignificand num den ≤ value := by
  obtain ⟨steps, rfl⟩ := onGrid
  rw [roundSignificand_eq, Nat.mul_comm]
  apply Nat.mul_le_mul_left
  apply roundQuotient_le (Nat.mul_pos pos (roundingGrid_pos num den))
  calc num ≤ roundingGrid num den * steps * den := h
    _ = steps * (den * roundingGrid num den) := by ring

/-- Numbers on the grid are left alone. -/
theorem roundSignificand_mul (pos : 0 < den) (onGrid : roundingGrid (value * den) den ∣ value) :
    roundSignificand (value * den) den = value :=
  Nat.le_antisymm (roundSignificand_le pos onGrid le_rfl) (le_roundSignificand pos onGrid le_rfl)

theorem roundSignificand_one (onGrid : roundingGrid value 1 ∣ value) :
    roundSignificand value 1 = value := by
  apply Nat.le_antisymm
  · exact roundSignificand_le Nat.one_pos onGrid (Nat.mul_one value).ge
  · exact le_roundSignificand Nat.one_pos onGrid (Nat.mul_one value).le

/-- Rounding keeps the order of quotients. -/
theorem roundSignificand_mono (pos : 0 < den) (h : num ≤ num') :
    roundSignificand num den ≤ roundSignificand num' den := by
  have quotients : num / den ≤ num' / den := Nat.div_le_div_right h
  rcases Nat.lt_or_ge (Nat.log2 (num / den)) (Nat.log2 (num' / den)) with finer | coarser
  · -- between two different grids lies the power of two with which the coarser one begins
    have nonzero : num' / den ≠ 0 := fun zero => by simp [zero] at finer
    have between : num < 2 ^ Nat.log2 (num' / den) * den := by
      rw [← Nat.div_lt_iff_lt_mul pos]
      exact Nat.lt_log2_self.trans_le (Nat.pow_le_pow_right (by decide) finer)
    have reached : 2 ^ Nat.log2 (num' / den) * den ≤ num' := by
      rw [← Nat.le_div_iff_mul_le pos]
      exact Nat.log2_self_le nonzero
    calc roundSignificand num den
      _ ≤ 2 ^ Nat.log2 (num' / den) :=
        roundSignificand_le pos (Nat.pow_dvd_pow 2 (by omega)) between.le
      _ ≤ roundSignificand num' den :=
        le_roundSignificand pos (Nat.pow_dvd_pow 2 (by omega)) reached
  · have bits : Nat.log2 (num / den) = Nat.log2 (num' / den) := by
      refine Nat.le_antisymm ?_ coarser
      by_cases zero : num / den = 0
      · simp [zero]
      · have nonzero : num' / den ≠ 0 :=
          Nat.ne_of_gt ((Nat.pos_of_ne_zero zero).trans_le quotients)
        exact (Nat.le_log2 nonzero).mpr ((Nat.log2_self_le zero).trans quotients)
    have grid : roundingGrid num den = roundingGrid num' den := by
      rw [roundingGrid, roundingGrid, bits]
    rw [roundSignificand_eq, roundSignificand_eq, grid]
    exact Nat.mul_le_mul_right _
      (roundQuotient_mono (Nat.mul_pos pos (roundingGrid_pos num' den)) h)

/-- What was rounded once is not changed by rounding it again. -/
theorem roundSignificand_roundSignificand (num : Nat) (pos : 0 < den) :
    roundSignificand (roundSignificand num den) 1 = roundSignificand num den := by
  apply roundSignificand_one
  -- the number has at most `2⁵³` steps; with all of them it is the start of the next grid
  have steps : roundSignificand num den ≤ 2 ^ 53 * roundingGrid num den :=
    roundSignificand_le pos (Nat.dvd_mul_left _ _) (lt_mul_roundingGrid pos).le
  rcases Nat.lt_or_eq_of_le steps with fewer | all
  · have finer : roundingGrid (roundSignificand num den) 1 ∣ roundingGrid num den := by
      apply roundingGrid_dvd
      rwa [Nat.mul_one, Nat.pow_add, ← roundingGrid]
    rw [roundSignificand_eq] at finer ⊢
    exact finer.trans (Nat.dvd_mul_left _ _)
  · obtain ⟨bits, grid⟩ : ∃ bits, roundingGrid num den = 2 ^ bits := ⟨_, rfl⟩
    rw [all, grid, ← Nat.pow_add]
    refine (roundingGrid_dvd (bits + 1) ?_).trans (Nat.pow_dvd_pow 2 (by omega))
    rw [Nat.mul_one]
    exact Nat.pow_lt_pow_right (by decide) (by omega)

/-- Rounding adds at most half a step of the grid. -/
theorem two_mul_roundSignificand_le (num : Nat) (pos : 0 < den) :
    2 * (roundSignificand num den * den) ≤ 2 * num + roundingGrid num den * den := by
  have half := two_mul_roundQuotient_le num
    (Nat.mul_pos pos (roundingGrid_pos num den))
  calc 2 * (roundSignificand num den * den)
    _ = 2 * (roundQuotient num (den * roundingGrid num den) * (den * roundingGrid num den)) := by
      rw [roundSignificand_eq]
      ring
    _ ≤ 2 * num + den * roundingGrid num den := half
    _ = 2 * num + roundingGrid num den * den := by rw [Nat.mul_comm den]

/-- Rounding adds at most one part in `2⁵³` to a quotient with at least 53 bits. -/
theorem mul_roundSignificand_le (pos : 0 < den) (large : 2 ^ 52 * den ≤ num) :
    2 ^ 53 * (roundSignificand num den * den) ≤ (2 ^ 53 + 1) * num := by
  have half := two_mul_roundSignificand_le num pos
  have steps : 2 ^ 52 * roundingGrid num den * den ≤ num := mul_roundingGrid_le pos large
  rw [Nat.mul_assoc] at steps
  omega

/-! ## Spans of time -/

namespace Seconds

variable {micros micros' seconds minutes : Nat} {a b span : Seconds}

theorem eq_iff : a = b ↔ a.units = b.units := by
  cases a
  cases b
  simp

theorem units_ofMicros : (ofMicros micros).units = roundSignificand (micros * 2 ^ 66) 15625 := rfl

theorem units_add : (add a b).units = roundSignificand (a.units + b.units) 1 := rfl

theorem wholeMinutes_eq : span.wholeMinutes = span.units / (60 * 2 ^ 72) := rfl

theorem ofMicros_zero : ofMicros 0 = zero := by
  rw [ofMicros, Nat.zero_mul, zero, Seconds.mk.injEq]
  exact Nat.le_zero.mp (roundSignificand_le (by decide) (Nat.dvd_zero _) (Nat.zero_le _))

/-! ### Whole minutes -/

/-- A longer span has no fewer whole minutes. -/
theorem wholeMinutes_ofMicros_mono (h : micros ≤ micros') :
    (ofMicros micros).wholeMinutes ≤ (ofMicros micros').wholeMinutes :=
  Nat.div_le_div_right (roundSignificand_mono (by decide) (Nat.mul_le_mul_right _ h))

/-- A minute that has passed is counted, over more than a million years. -/
theorem div_le_wholeMinutes (h : micros < 2 ^ 61 * 15625) :
    micros / 60000000 ≤ (ofMicros micros).wholeMinutes := by
  rw [wholeMinutes_eq, units_ofMicros, Nat.le_div_iff_mul_le (by decide)]
  apply le_roundSignificand (by decide)
  · have grid : roundingGrid (micros * 2 ^ 66) 15625 ∣ 2 ^ 74 := roundingGrid_dvd 74 (by omega)
    have steps : 2 ^ 74 ∣ micros / 60000000 * (60 * 2 ^ 72) :=
      ⟨micros / 60000000 * 15, by omega⟩
    exact Nat.dvd_trans grid steps
  · calc micros / 60000000 * (60 * 2 ^ 72) * 15625
      _ = micros / 60000000 * 60000000 * 2 ^ 66 := by ring
      _ ≤ micros * 2 ^ 66 := Nat.mul_le_mul_right _ (Nat.div_mul_le_self micros 60000000)

/-- The whole minutes of a span of less than `2³⁴` seconds are right: rounding does not reach from
the last microsecond of a minute to the next minute there. -/
theorem wholeMinutes_ofMicros (h : micros < 2 ^ 34 * 1000000) :
    (ofMicros micros).wholeMinutes = micros / 60000000 := by
  apply Nat.le_antisymm ?_ (div_le_wholeMinutes (by omega))
  have grid : roundingGrid (micros * 2 ^ 66) 15625 ≤ 2 ^ 53 :=
    Nat.le_of_dvd (Nat.two_pow_pos 53) (roundingGrid_dvd 53 (by omega))
  have half := two_mul_roundSignificand_le (micros * 2 ^ 66) (by decide : 0 < 15625)
  rw [wholeMinutes_eq, units_ofMicros, ← Nat.lt_succ_iff, Nat.div_lt_iff_lt_mul (by decide)]
  omega

/-! ### Whole seconds -/

/-- A number of whole seconds. -/
def whole (seconds : Nat) : Seconds := ⟨seconds * 2 ^ 72⟩

theorem units_whole : (whole seconds).units = seconds * 2 ^ 72 := rfl

theorem whole_zero : whole 0 = zero := by rw [whole, Nat.zero_mul, zero]

theorem ofMicros_whole (h : seconds < 2 ^ 53) : ofMicros (seconds * 1000000) = whole seconds := by
  have units : seconds * 1000000 * 2 ^ 66 = seconds * 2 ^ 72 * 15625 := by omega
  have grid : roundingGrid (seconds * 2 ^ 72 * 15625) 15625 ∣ 2 ^ 72 :=
    roundingGrid_dvd 72 (by omega)
  rw [eq_iff, units_whole, units_ofMicros, units]
  exact roundSignificand_mul (by decide) (Nat.dvd_trans grid (Nat.dvd_mul_left _ _))

theorem add_whole {first second : Nat} (h : first + second < 2 ^ 53) :
    add (whole first) (whole second) = whole (first + second) := by
  have grid : roundingGrid ((first + second) * 2 ^ 72) 1 ∣ 2 ^ 72 :=
    roundingGrid_dvd 72 (by omega)
  rw [eq_iff, units_add, units_whole, units_whole, units_whole, ← Nat.add_mul]
  exact roundSignificand_one (Nat.dvd_trans grid (Nat.dvd_mul_left _ _))

/-- Whole seconds are added up exactly. -/
theorem foldl_add_ofMicros {spans : List Nat} (first : Nat)
    (divides : ∀ span ∈ spans, 1000000 ∣ span)
    (short : first + spans.sum / 1000000 < 2 ^ 53) :
    (spans.map ofMicros).foldl add (whole first) = whole (first + spans.sum / 1000000) := by
  induction spans generalizing first with
  | nil => simp
  | cons span spans ih =>
    obtain ⟨seconds, rfl⟩ := divides span (by simp)
    rw [List.sum_cons, Nat.mul_add_div (by decide)] at short
    rw [List.map_cons, List.foldl_cons, Nat.mul_comm, ofMicros_whole (by omega),
      add_whole (by omega), ih _ (fun span listed => divides span (by simp [listed])) (by omega),
      List.sum_cons, Nat.mul_comm, Nat.mul_add_div (by decide), Nat.add_assoc]

theorem wholeMinutes_whole : (whole seconds).wholeMinutes = seconds / 60 := by
  rw [wholeMinutes_eq, units_whole, Nat.mul_div_mul_right _ _ (Nat.two_pow_pos 72)]

/-! ### Sums of any spans -/

/-- The microseconds of a span, not a whole number when the span was rounded. -/
def inMicros (span : Seconds) : ℚ := span.units * 15625 / 2 ^ 66

/-- The factor by which a span may grow when it is rounded once. -/
def growth : ℚ := 1 + 1 / 2 ^ 53

theorem one_le_growth : 1 ≤ growth := by norm_num [growth]

theorem growth_pos : 0 < growth := zero_lt_one.trans_le one_le_growth

theorem inMicros_ofMicros_le (micros : Nat) : (ofMicros micros).inMicros ≤ growth * micros := by
  rcases Nat.eq_zero_or_pos micros with rfl | pos
  · simp [ofMicros_zero, zero, inMicros]
  · have gain := mul_roundSignificand_le (by decide : 0 < 15625)
      (by omega : 2 ^ 52 * 15625 ≤ micros * 2 ^ 66)
    rw [← units_ofMicros] at gain
    have gain' : (2 : ℚ) ^ 53 * ((ofMicros micros).units * 15625) ≤
        (2 ^ 53 + 1) * (micros * 2 ^ 66) := by exact_mod_cast gain
    rw [inMicros, growth, div_le_iff₀ (by positivity)]
    linarith

theorem inMicros_add_le (a b : Seconds) :
    (add a b).inMicros ≤ growth * (a.inMicros + b.inMicros) := by
  have gain : 2 ^ 53 * (add a b).units ≤ (2 ^ 53 + 1) * (a.units + b.units) := by
    rw [units_add]
    rcases Nat.lt_or_ge (a.units + b.units) (2 ^ 53) with short | long
    · -- fewer than 53 bits are not rounded at all
      have grid : roundingGrid (a.units + b.units) 1 ∣ 1 := roundingGrid_dvd 0 (by omega)
      rw [roundSignificand_one (Nat.dvd_trans grid (Nat.one_dvd _))]
      omega
    · have gain := mul_roundSignificand_le Nat.one_pos
        (by omega : 2 ^ 52 * 1 ≤ a.units + b.units)
      rwa [Nat.mul_one] at gain
  have gain' : (2 : ℚ) ^ 53 * (add a b).units ≤ (2 ^ 53 + 1) * (a.units + b.units) := by
    exact_mod_cast gain
  rw [inMicros, inMicros, inMicros, growth, div_le_iff₀ (by positivity)]
  linarith

theorem add_zero_ofMicros (micros : Nat) : add zero (ofMicros micros) = ofMicros micros := by
  rw [eq_iff, units_add, zero, Nat.zero_add, units_ofMicros]
  exact roundSignificand_roundSignificand _ (by decide)

/-- A sum grows with each of its spans by at most one rounding. -/
theorem inMicros_foldl_add_le (spans : List Nat) :
    ((spans.map ofMicros).foldl add zero).inMicros ≤ growth ^ spans.length * (spans.sum : ℚ) := by
  induction spans using List.reverseRecOn with
  | nil => simp [zero, inMicros]
  | append_singleton spans last ih =>
    rw [List.map_append, List.map_singleton, List.foldl_append, List.foldl_cons, List.foldl_nil,
      List.length_append, List.length_singleton, List.sum_append, List.sum_singleton]
    cases spans with
    | nil => simpa [add_zero_ofMicros] using inMicros_ofMicros_le last
    | cons first spans =>
      generalize (((first :: spans).map ofMicros).foldl add zero) = sum at ih ⊢
      have converted := inMicros_ofMicros_le last
      -- the last span is rounded twice, which is no more often than the first one
      have once : growth ≤ growth ^ (first :: spans).length :=
        le_self_pow₀ one_le_growth (by simp)
      calc (add sum (ofMicros last)).inMicros
        _ ≤ growth * (sum.inMicros + (ofMicros last).inMicros) := inMicros_add_le _ _
        _ ≤ growth * (growth ^ (first :: spans).length * (first :: spans).sum +
              growth ^ (first :: spans).length * last) := by
          apply mul_le_mul_of_nonneg_left ?_ growth_pos.le
          apply add_le_add ih (converted.trans ?_)
          exact mul_le_mul_of_nonneg_right once (Nat.cast_nonneg _)
        _ = growth ^ ((first :: spans).length + 1) * ((first :: spans).sum + last : ℕ) := by
          rw [Nat.cast_add]
          ring

/-- Few roundings add no more than twice what each of them adds to the whole. -/
theorem growth_pow_lt {count : Nat} (pos : 0 < count) (few : count ≤ 2 ^ 52) :
    growth ^ count < 1 + count / 2 ^ 52 := by
  induction count with
  | zero => simp at pos
  | succ count ih =>
    rcases Nat.eq_zero_or_pos count with rfl | more
    · norm_num [growth]
    · have less := ih more (by omega)
      have bound : (count : ℚ) + 1 ≤ 2 ^ 52 := by exact_mod_cast few
      rw [pow_succ]
      calc growth ^ count * growth
        _ < (1 + count / 2 ^ 52) * growth := by
          exact mul_lt_mul_of_pos_right less growth_pos
        _ ≤ 1 + (count + 1 : ℕ) / 2 ^ 52 := by
          rw [growth]
          push_cast
          linarith

/-- A sum of few spans gains less than so many microseconds by rounding. -/
theorem inMicros_foldl_add_lt {spans : List Nat} {gain : Nat} (pos : 0 < spans.sum)
    (few : spans.length ≤ 2 ^ 52) (short : spans.length * spans.sum ≤ 2 ^ 52 * gain) :
    ((spans.map ofMicros).foldl add zero).inMicros < (spans.sum + gain : ℕ) := by
  have nonempty : 0 < spans.length := by
    cases spans with
    | nil => simp at pos
    | cons span spans => simp
  have short' : (spans.length : ℚ) * spans.sum ≤ 2 ^ 52 * gain := by exact_mod_cast short
  have pos' : (0 : ℚ) < spans.sum := by exact_mod_cast pos
  calc ((spans.map ofMicros).foldl add zero).inMicros
    _ ≤ growth ^ spans.length * (spans.sum : ℚ) := inMicros_foldl_add_le spans
    _ < (1 + spans.length / 2 ^ 52) * (spans.sum : ℚ) :=
      mul_lt_mul_of_pos_right (growth_pow_lt nonempty few) pos'
    _ = spans.sum + spans.length * spans.sum / 2 ^ 52 := by ring
    _ ≤ (spans.sum + gain : ℕ) := by
      rw [Nat.cast_add]
      linarith

/-- A span that does not reach a minute does not count it. -/
theorem wholeMinutes_lt_of_inMicros_lt (h : span.inMicros < (60000000 * minutes : ℕ)) :
    span.wholeMinutes < minutes := by
  rw [inMicros, div_lt_iff₀ (by positivity)] at h
  have units : span.units * 15625 < 60000000 * minutes * 2 ^ 66 := by exact_mod_cast h
  rw [wholeMinutes_eq, Nat.div_lt_iff_lt_mul (by decide)]
  omega

/-- A sum of few spans has no more whole minutes than a single span that is longer by less than what
the sum may gain. -/
theorem wholeMinutes_foldl_add_le {spans : List Nat} {gain : Nat}
    (positive : spans.length ≤ spans.sum) (few : gain ≤ spans.length)
    (short : spans.length * spans.sum ≤ 2 ^ 52 * gain) :
    ((spans.map ofMicros).foldl add zero).wholeMinutes ≤
      (ofMicros (spans.sum + gain - 1)).wholeMinutes := by
  rcases Nat.eq_zero_or_pos spans.length with none | some
  · rw [List.length_eq_zero_iff.mp none]
    exact Nat.zero_le _
  · have bounded : spans.sum ≤ 2 ^ 52 := by
      refine Nat.le_of_mul_le_mul_left (short.trans ?_) some
      rw [Nat.mul_comm]
      exact Nat.mul_le_mul_right _ few
    have below := inMicros_foldl_add_lt (by omega) (by omega) short
    have inMinutes : spans.sum + gain ≤ 60000000 * ((spans.sum + gain - 1) / 60000000 + 1) := by
      omega
    have minutes := wholeMinutes_lt_of_inMicros_lt (below.trans_le (by exact_mod_cast inMinutes))
    exact (Nat.lt_succ_iff.mp minutes).trans (div_le_wholeMinutes (by omega))

end Seconds

end Lending
