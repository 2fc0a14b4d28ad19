import Lending.Proofs.Time.Rounding
import Mathlib.Algebra.Order.Ring.Pow
import Mathlib.Data.List.Forall2

/-!
# Rounded sums

Spans of time are added up from the first to the last, and every sum is rounded. As rounding keeps
the order of numbers, longer spans have a greater sum, and as it leaves alone what was rounded
before, spans without any time may be left out. A sum that is rounded down falls short of the exact
one by at most one part in `2⁵³` for each of its spans.

## Main definitions

* `Seconds.Rounded` — spans that rounding leaves alone
* `Seconds.shrinkage` — the factor by which a span may shrink when it is rounded once

## Main results

* `Seconds.foldl_add_filter_pos` — spans without any time do not count
* `Seconds.foldl_add_mono` — longer spans have a greater sum
* `Seconds.sum_le_inMicros_foldl_add` — how much a sum loses by rounding
* `Seconds.le_wholeMinutes_foldl_add`, `Seconds.wholeMinutes_foldl_add_lt` — which whole minutes it
  still has
-/

namespace Lending

variable {num den : Nat}

/-! ## What rounding takes away -/

/-- Rounding a quotient to a whole number takes away at most a half. -/
theorem two_mul_le_roundQuotient (num : Nat) (pos : 0 < den) :
    2 * num ≤ 2 * (roundQuotient num den * den) + den := by
  have parts := Nat.div_add_mod' num den
  have step : (num / den + 1) * den = num / den * den + den := Nat.succ_mul _ _
  have remainder := Nat.mod_lt num pos
  simp only [roundQuotient]
  split_ifs with less more
  · omega
  · rw [step]
    omega
  · rcases Nat.mod_two_eq_zero_or_one (num / den) with even | odd
    · rw [even, Nat.add_zero]
      omega
    · rw [odd, step]
      omega

/-- Rounding takes away at most half a step of the grid. -/
theorem two_mul_le_roundSignificand (num : Nat) (pos : 0 < den) :
    2 * num ≤ 2 * (roundSignificand num den * den) + roundingGrid num den * den := by
  have half := two_mul_le_roundQuotient num
    (Nat.mul_pos pos (roundingGrid_pos num den))
  calc 2 * num
    _ ≤ 2 * (roundQuotient num (den * roundingGrid num den) * (den * roundingGrid num den)) +
          den * roundingGrid num den := half
    _ = 2 * (roundSignificand num den * den) + roundingGrid num den * den := by
      rw [roundSignificand_eq]
      ring

/-- Rounding takes at most one part in `2⁵³` from a quotient with at least 53 bits. -/
theorem mul_le_roundSignificand (pos : 0 < den) (large : 2 ^ 52 * den ≤ num) :
    2 ^ 53 * num ≤ 2 ^ 53 * (roundSignificand num den * den) + num := by
  have half := two_mul_le_roundSignificand num pos
  have steps : 2 ^ 52 * roundingGrid num den * den ≤ num := mul_roundingGrid_le pos large
  rw [Nat.mul_assoc] at steps
  omega

namespace Seconds

variable {a a' b b' span : Seconds}

/-! ## Rounded spans -/

/-- A span that rounding leaves alone. -/
def Rounded (span : Seconds) : Prop := roundSignificand span.units 1 = span.units

theorem rounded_zero : zero.Rounded := roundSignificand_one (Nat.dvd_zero _)

theorem rounded_add (a b : Seconds) : (add a b).Rounded :=
  roundSignificand_roundSignificand _ Nat.one_pos

theorem Rounded.add_zero (rounded : a.Rounded) : add a zero = a := by
  rw [eq_iff, units_add, zero, Nat.add_zero]
  exact rounded

/-- Spans without any time do not count. -/
theorem foldl_add_filter_pos (spans : List Nat) {first : Seconds} (rounded : first.Rounded) :
    ((spans.filter (0 < ·)).map ofMicros).foldl add first =
      (spans.map ofMicros).foldl add first := by
  induction spans generalizing first with
  | nil => rfl
  | cons span spans ih =>
    rw [List.map_cons, List.foldl_cons, ← ih (rounded_add _ _), List.filter_cons]
    by_cases pos : 0 < span
    · rw [if_pos (decide_eq_true pos), List.map_cons, List.foldl_cons]
    · obtain rfl := Nat.eq_zero_of_not_pos pos
      rw [if_neg (by simp), ofMicros_zero, rounded.add_zero]

/-- A single span is not rounded again. -/
theorem foldl_add_of_length_le_one {spans : List Nat} (single : spans.length ≤ 1) :
    (spans.map ofMicros).foldl add zero = ofMicros spans.sum := by
  match spans with
  | [] => exact ofMicros_zero.symm
  | [span] => simpa using add_zero_ofMicros span
  | _ :: _ :: _ => simp at single

/-! ## The order of sums -/

theorem units_ofMicros_mono {micros micros' : Nat} (h : micros ≤ micros') :
    (ofMicros micros).units ≤ (ofMicros micros').units :=
  roundSignificand_mono (by decide) (Nat.mul_le_mul_right _ h)

theorem units_add_mono (ha : a.units ≤ a'.units) (hb : b.units ≤ b'.units) :
    (add a b).units ≤ (add a' b').units :=
  roundSignificand_mono Nat.one_pos (Nat.add_le_add ha hb)

/-- Longer spans have a greater sum. -/
theorem foldl_add_mono {spans spans' : List Nat} (longer : List.Forall₂ (· ≤ ·) spans spans') :
    ((spans.map ofMicros).foldl add zero).units ≤ ((spans'.map ofMicros).foldl add zero).units := by
  suffices ordered : ∀ first first' : Seconds, first.units ≤ first'.units →
      ((spans.map ofMicros).foldl add first).units ≤
        ((spans'.map ofMicros).foldl add first').units from
    ordered zero zero le_rfl
  induction longer with
  | nil => exact fun _ _ le => le
  | cons le _ ih =>
    intro first first' firstLe
    exact ih _ _ (units_add_mono firstLe (units_ofMicros_mono le))

/-! ## What a sum loses -/

/-- The factor by which a span may shrink when it is rounded once. -/
def shrinkage : ℚ := 1 - 1 / 2 ^ 53

theorem shrinkage_pos : 0 < shrinkage := by norm_num [shrinkage]

theorem shrinkage_le_one : shrinkage ≤ 1 := by norm_num [shrinkage]

theorem le_inMicros_ofMicros (micros : Nat) : shrinkage * micros ≤ (ofMicros micros).inMicros := by
  rcases Nat.eq_zero_or_pos micros with rfl | pos
  · simp [ofMicros_zero, zero, inMicros]
  · have loss := mul_le_roundSignificand (by decide : 0 < 15625)
      (by omega : 2 ^ 52 * 15625 ≤ micros * 2 ^ 66)
    rw [← units_ofMicros] at loss
    have loss' : (2 : ℚ) ^ 53 * (micros * 2 ^ 66) ≤
        2 ^ 53 * ((ofMicros micros).units * 15625) + micros * 2 ^ 66 := by exact_mod_cast loss
    rw [inMicros, shrinkage, le_div_iff₀ (by positivity)]
    linarith

theorem le_inMicros_add (a b : Seconds) :
    shrinkage * (a.inMicros + b.inMicros) ≤ (add a b).inMicros := by
  have loss : 2 ^ 53 * (a.units + b.units) ≤ 2 ^ 53 * (add a b).units + (a.units + b.units) := by
    rw [units_add]
    rcases Nat.lt_or_ge (a.units + b.units) (2 ^ 53) with short | long
    · -- fewer than 53 bits are not rounded at all
      have grid : roundingGrid (a.units + b.units) 1 ∣ 1 := roundingGrid_dvd 0 (by omega)
      rw [roundSignificand_one (Nat.dvd_trans grid (Nat.one_dvd _))]
      omega
    · have loss := mul_le_roundSignificand Nat.one_pos
        (by omega : 2 ^ 52 * 1 ≤ a.units + b.units)
      rwa [Nat.mul_one] at loss
  have loss' : (2 : ℚ) ^ 53 * (a.units + b.units) ≤
      2 ^ 53 * (add a b).units + (a.units + b.units) := by exact_mod_cast loss
  rw [inMicros, inMicros, inMicros, shrinkage, le_div_iff₀ (by positivity)]
  linarith

/-- A sum shrinks with each of its spans by at most one rounding. -/
theorem le_inMicros_foldl_add (spans : List Nat) :
    shrinkage ^ spans.length * (spans.sum : ℚ) ≤
      ((spans.map ofMicros).foldl add zero).inMicros := by
  induction spans using List.reverseRecOn with
  | nil => simp [zero, inMicros]
  | append_singleton spans last ih =>
    rw [List.map_append, List.map_singleton, List.foldl_append, List.foldl_cons, List.foldl_nil,
      List.length_append, List.length_singleton, List.sum_append, List.sum_singleton]
    cases spans with
    | nil => simpa [add_zero_ofMicros] using le_inMicros_ofMicros last
    | cons first spans =>
      generalize (((first :: spans).map ofMicros).foldl add zero) = sum at ih ⊢
      have converted := le_inMicros_ofMicros last
      -- the last span is rounded twice, which is no more often than the first one
      have once : shrinkage ^ (first :: spans).length ≤ shrinkage :=
        pow_le_of_le_one shrinkage_pos.le shrinkage_le_one (by simp)
      calc shrinkage ^ ((first :: spans).length + 1) * (((first :: spans).sum + last : ℕ) : ℚ)
        _ = shrinkage * (shrinkage ^ (first :: spans).length * (first :: spans).sum +
              shrinkage ^ (first :: spans).length * last) := by
          rw [Nat.cast_add]
          ring
        _ ≤ shrinkage * (sum.inMicros + (ofMicros last).inMicros) := by
          apply mul_le_mul_of_nonneg_left ?_ shrinkage_pos.le
          refine add_le_add ih (le_trans ?_ converted)
          exact mul_le_mul_of_nonneg_right once (Nat.cast_nonneg _)
        _ ≤ (add sum (ofMicros last)).inMicros := le_inMicros_add _ _

/-- A sum of few spans loses at most so many microseconds by rounding. -/
theorem sum_le_inMicros_foldl_add {spans : List Nat} {loss : Nat}
    (short : spans.length * spans.sum ≤ 2 ^ 53 * loss) :
    (spans.sum : ℚ) ≤ ((spans.map ofMicros).foldl add zero).inMicros + loss := by
  have short' : (spans.length : ℚ) * spans.sum ≤ 2 ^ 53 * loss := by exact_mod_cast short
  -- by Bernoulli's inequality the roundings lose no more together than each of them by itself
  have linear : 1 - spans.length / 2 ^ 53 ≤ shrinkage ^ spans.length := by
    have bernoulli : 1 + spans.length * (-1 / 2 ^ 53) ≤ (1 + (-1 / 2 ^ 53) : ℚ) ^ spans.length :=
      one_add_mul_le_pow (by norm_num) _
    calc (1 - spans.length / 2 ^ 53 : ℚ)
      _ = 1 + spans.length * (-1 / 2 ^ 53) := by ring
      _ ≤ (1 + (-1 / 2 ^ 53)) ^ spans.length := bernoulli
      _ = shrinkage ^ spans.length := by
        congr 1
        norm_num [shrinkage]
  calc (spans.sum : ℚ)
    _ = (1 - spans.length / 2 ^ 53) * spans.sum + spans.length * spans.sum / 2 ^ 53 := by ring
    _ ≤ shrinkage ^ spans.length * spans.sum + loss := by
      apply add_le_add (mul_le_mul_of_nonneg_right linear (Nat.cast_nonneg _))
      linarith
    _ ≤ ((spans.map ofMicros).foldl add zero).inMicros + loss := by
      linarith [le_inMicros_foldl_add spans]

/-! ## Whole minutes -/

variable {spans : List Nat} {minutes gain loss : Nat}

/-- A span that reaches a minute counts it. -/
theorem le_wholeMinutes_of_le_inMicros (h : (60000000 * minutes : ℕ) ≤ span.inMicros) :
    minutes ≤ span.wholeMinutes := by
  rw [inMicros, le_div_iff₀ (by positivity)] at h
  have units : 60000000 * minutes * 2 ^ 66 ≤ span.units * 15625 := by exact_mod_cast h
  rw [wholeMinutes_eq, Nat.le_div_iff_mul_le (by decide)]
  refine Nat.le_of_mul_le_mul_right (le_trans (le_of_eq ?_) units) (by decide : 0 < 15625)
  ring

/-- A sum that exceeds some minutes by what it may lose counts them. -/
theorem le_wholeMinutes_foldl_add (reached : 60000000 * minutes + loss ≤ spans.sum)
    (short : spans.length * spans.sum ≤ 2 ^ 53 * loss) :
    minutes ≤ ((spans.map ofMicros).foldl add zero).wholeMinutes := by
  apply le_wholeMinutes_of_le_inMicros
  have kept := sum_le_inMicros_foldl_add short
  have reached' : ((60000000 * minutes : ℕ) : ℚ) + loss ≤ spans.sum := by exact_mod_cast reached
  linarith

/-- A sum that falls short of some minutes by what it may gain does not count them all. -/
theorem wholeMinutes_foldl_add_lt (pos : 0 < minutes)
    (missed : spans.sum + gain ≤ 60000000 * minutes) (few : spans.length ≤ 2 ^ 52)
    (short : spans.length * spans.sum ≤ 2 ^ 52 * gain) :
    ((spans.map ofMicros).foldl add zero).wholeMinutes < minutes := by
  apply wholeMinutes_lt_of_inMicros_lt
  rcases Nat.eq_zero_or_pos spans.sum with none | some
  · have nothing := inMicros_foldl_add_le spans
    rw [none, Nat.cast_zero, mul_zero] at nothing
    exact nothing.trans_lt (by exact_mod_cast (by omega : 0 < 60000000 * minutes))
  · exact (inMicros_foldl_add_lt some few short).trans_le (by exact_mod_cast missed)

end Seconds

end Lending
