import Lending.Fault

/-!
# Steps that may be stopped

A sequence of steps gives a value exactly when each of its steps gives one. With these facts a
sequence is taken apart step by step.

## Main results

* `bind_eq_ok`, `map_eq_ok` — what it takes for a step and its continuation to give a value
* `guard_eq_ok`, `Calculation.result_guard_eq_ok` — a guard lets the steps after it give a value
  only if its condition fails
* `Calculation.result_bind_eq_ok_iff`, `Calculation.result_lift_bind_eq_ok_iff` — the outcomes of a
  calculation of two parts
* `Fault.require_eq_ok` — a value is required successfully when it is there
-/

namespace Lending

variable {ε α β : Type}

/-- A step and its continuation give a value when each does. -/
@[simp] theorem bind_eq_ok {first : Except ε α} {next : α → Except ε β} {b : β} :
    (first >>= next) = .ok b ↔ ∃ a, first = .ok a ∧ next a = .ok b := by
  cases first <;> simp [bind, Except.bind]

@[simp] theorem map_eq_ok {f : α → β} {first : Except ε α} {b : β} :
    f <$> first = .ok b ↔ ∃ a, first = .ok a ∧ f a = b := by
  cases first <;> simp [Functor.map, Except.map]

@[simp] theorem pure_eq_ok {a b : α} : (pure a : Except ε α) = .ok b ↔ a = b := by
  simp [pure, Except.pure]

/-- A guard stops the steps after it if its condition holds. -/
@[simp] theorem guard_eq_ok {condition : Prop} [Decidable condition] {cause : ε}
    {stopped : PUnit → Except ε β} {next : Except ε β} {b : β} :
    (if condition then throw cause >>= stopped else next) = .ok b ↔
      ¬ condition ∧ next = .ok b := by
  by_cases holds : condition <;>
    simp [holds, throw, throwThe, MonadExceptOf.throw, bind, Except.bind]

/-- A guard makes a calculation fail if its condition holds. -/
theorem Calculation.result_guard_eq_ok {condition : Prop} [Decidable condition] {failure : Failure}
    {failed : PUnit → Calculation β} {next : Calculation β} {b : β} :
    (if condition then throw failure >>= failed else next).result = .ok (.ok b) ↔
      ¬ condition ∧ next.result = .ok (.ok b) := by
  by_cases holds : condition <;> simp [holds]

namespace Calculation

variable {first : Calculation α} {next : α → Calculation β} {outcome : Outcome β}

theorem result_bind_of_ok {a : α} (given : first.result = .ok (.ok a)) :
    (first >>= next).result = (next a).result := by
  rw [result_bind, given]

/-- A calculation of two parts comes to a failure of the first one, or to what the second one comes
to. -/
theorem result_bind_eq_ok_iff :
    (first >>= next).result = .ok outcome ↔
      (∃ failure, first.result = .ok (.error failure) ∧ outcome = .error failure) ∨
        ∃ a, first.result = .ok (.ok a) ∧ (next a).result = .ok outcome := by
  rw [result_bind]
  rcases first.result with fault | failure | a <;> simp [eq_comm]

/-- A step that can only be stopped by a fault never fails. -/
theorem result_lift_bind_eq_ok_iff {step : Except Fault α} :
    ((monadLift step : Calculation α) >>= next).result = .ok outcome ↔
      ∃ a, step = .ok a ∧ (next a).result = .ok outcome := by
  rw [result_bind, result_monadLift]
  cases step <;> simp [Except.map]

end Calculation

/-- A value that has to be there is there. -/
@[simp] theorem Fault.require_eq_ok {fault : Fault} {value : Option α} {a : α} :
    fault.require value = .ok a ↔ value = some a := by
  cases value <;> simp

/-- A clock in a zone shows a moment where the calendar reaches it. -/
@[simp] theorem Moment.inZone_eq_ok {moment shown : Moment} {zone : Zone} :
    moment.inZone zone = .ok shown ↔ moment.inZone? zone = some shown :=
  Fault.require_eq_ok

end Lending
