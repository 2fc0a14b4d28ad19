import Lending.Proofs.Rules.Nesting
import Lending.Proofs.Rules.TermOrder

/-!
# Overriding inherited criteria

A nested rule line may name a dimension that the lines around it constrain. If it gives values, it
overrides what they ask, at any depth. A wildcard wants the dimension to be open, but it leaves no
trace in the criteria of its line, so that there is nothing to override with: what is inherited
stays. So a line has its way in a dimension exactly if it gives values for it or no line around it
does.

The proof looks at a line together with all lines around it. A dimension is open exactly if none of
them gives values for it, and the induction is on the chain of parents.

## Main definitions

* `WrittenRule.Names`, `WrittenRule.Constrains` — the dimensions that a line names, and those that
  it gives values for
* `WrittenRule.Wants` — what a line wants of a dimension, by itself

## Main results

* `WrittenRule.constrains_iff` — the values of a line are those of its own criteria
* `WrittenRule.Effective.eq_none_iff` — which dimensions are open for a line in the end
* `RuleSet.criteria_eq_wanted_iff` — in which dimensions a line has its way
-/

namespace Lending

/-- A text is accepted if each of its terms can be read and leaves open what later ones name. -/
theorem parseCriteria_eq_ok_iff {text : List Char} {criteria : Criteria} :
    parseCriteria text = .ok criteria ↔
      ∃ demands, Asks (splitAt '+' text) demands ∧ demands.Pairwise Demand.LeavesOpen ∧
        ∀ d c, criteria d = some c ↔ .constraint d c ∈ demands := by
  simp [parseCriteria, foldlM_addTerm_eq_ok_iff, Criteria.none]

namespace WrittenRule

variable {lines : List WrittenRule} {l p outer : WrittenRule} {own criteria : Criteria}
variable {policies : Assignments} {d : Dimension} {c : Constraint} {wanted : Option Constraint}

/-! ## What a line wants -/

/-- A line names a dimension by a term with values or by a wildcard. -/
def Names (l : WrittenRule) (d : Dimension) : Prop :=
  ∃ demands, Asks (splitAt '+' l.criteria) demands ∧ ∃ demand ∈ demands, demand.Names d

/-- A line gives values for a dimension, which make a constraint. -/
def Constrains (l : WrittenRule) (d : Dimension) (c : Constraint) : Prop :=
  ∃ demands, Asks (splitAt '+' l.criteria) demands ∧ .constraint d c ∈ demands

/-- What a line wants of a dimension that it names: a constraint or, if it gives no values, that the
dimension is open. -/
inductive Wants (l : WrittenRule) (d : Dimension) : Option Constraint → Prop
  | constraint {c : Constraint} (constrains : l.Constrains d c) : Wants l d (some c)
  | wildcard (names : l.Names d) (unconstrained : ∀ c, ¬ l.Constrains d c) : Wants l d none

/-- The values that a line gives are those of its own criteria. -/
theorem constrains_iff (parsed : parseCriteria l.criteria = .ok own) :
    l.Constrains d c ↔ own d = some c := by
  obtain ⟨demands, asks, -, values⟩ := parseCriteria_eq_ok_iff.mp parsed
  rw [values]
  constructor
  · rintro ⟨demands', asks', constrained⟩
    rwa [asks.unique asks']
  · intro constrained
    exact ⟨demands, asks, constrained⟩

theorem own_eq_none_iff (parsed : parseCriteria l.criteria = .ok own) :
    own d = none ↔ ∀ c, ¬ l.Constrains d c := by
  simp [constrains_iff parsed, Option.eq_none_iff_forall_ne_some]

/-- A line wants of a dimension what its own criteria ask of it, if it names it at all. -/
theorem wants_iff (parsed : parseCriteria l.criteria = .ok own) (names : l.Names d) :
    l.Wants d wanted ↔ wanted = own d := by
  constructor
  · intro wants
    cases wants with
    | constraint constrains => exact ((constrains_iff parsed).mp constrains).symm
    | wildcard _ unconstrained => exact ((own_eq_none_iff parsed).mpr unconstrained).symm
  · rintro rfl
    cases asked : own d with
    | none => exact .wildcard names ((own_eq_none_iff parsed).mp asked)
    | some c => exact .constraint ((constrains_iff parsed).mpr asked)

/-! ## What a line asks in the end -/

/-- The lines around a line are its parent and those around the parent. -/
theorem encloses_iff_of_isParent (ordered : lines.Pairwise (·.line < ·.line))
    (parent : IsParent lines p l) :
    Encloses lines outer l ↔ outer = p ∨ Encloses lines outer p := by
  rw [Encloses, Relation.TransGen.tail'_iff]
  constructor
  · rintro ⟨p', chain, parent'⟩
    obtain rfl := parent.unique ordered parent'
    exact (Relation.reflTransGen_iff_eq_or_transGen.mp chain).imp Eq.symm id
  · intro around
    exact ⟨p, Relation.reflTransGen_iff_eq_or_transGen.mpr (around.imp Eq.symm id), parent⟩

theorem not_encloses_of_alone (alone : ∀ p, ¬ IsParent lines p l) : ¬ Encloses lines outer l := by
  rw [Encloses, Relation.TransGen.tail'_iff]
  rintro ⟨p, -, parent⟩
  exact alone p parent

/-- A dimension is open for a line in the end if neither the line nor one around it gives values for
it. -/
theorem Effective.eq_none_iff (ordered : lines.Pairwise (·.line < ·.line))
    (effective : Effective lines l criteria policies) :
    criteria d = none ↔ (∀ c, ¬ l.Constrains d c) ∧
      ∀ outer, Encloses lines outer l → ∀ c, ¬ outer.Constrains d c := by
  -- induction on the chain of parents, which is the first of the lines around
  induction effective with
  | outermost alone criteriaParsed _ =>
    rw [own_eq_none_iff criteriaParsed, iff_self_and]
    intro _ outer nested
    exact absurd nested (not_encloses_of_alone alone)
  | nested parent _ criteriaParsed _ criteriaOverridden _ ih =>
    rw [criteriaOverridden.eq_none_iff, own_eq_none_iff criteriaParsed, ih]
    simp only [encloses_iff_of_isParent ordered parent, forall_eq_or_imp]

/-- The values that a line gives override what it inherits. -/
theorem Effective.eq_some_of_constrains (effective : Effective lines l criteria policies)
    (constrains : l.Constrains d c) : criteria d = some c := by
  cases effective with
  | outermost _ criteriaParsed => exact (constrains_iff criteriaParsed).mp constrains
  | nested _ _ criteriaParsed _ criteriaOverridden =>
    exact (criteriaOverridden d c).mpr (.inl ((constrains_iff criteriaParsed).mp constrains))

/-- What a line wants of a dimension holds in the end if the line gives values or no line around it
does. -/
theorem Effective.eq_wanted_iff (ordered : lines.Pairwise (·.line < ·.line))
    (effective : Effective lines l criteria policies) (wants : l.Wants d wanted) :
    criteria d = wanted ↔
      wanted ≠ none ∨ ∀ outer, Encloses lines outer l → ∀ c, ¬ outer.Constrains d c := by
  cases wants with
  | constraint constrains => simp [effective.eq_some_of_constrains constrains]
  | wildcard _ unconstrained =>
    rw [effective.eq_none_iff ordered, and_iff_right unconstrained]
    simp

theorem Effective.exists_own (effective : Effective lines l criteria policies) :
    ∃ own, parseCriteria l.criteria = .ok own := by
  cases effective with
  | outermost _ criteriaParsed => exact ⟨_, criteriaParsed⟩
  | nested _ _ criteriaParsed => exact ⟨_, criteriaParsed⟩

end WrittenRule

open WrittenRule

namespace RuleSet

variable {text : String} {requireFallback : Bool} {set : RuleSet} {l : WrittenRule}

/-- **Overriding.** In an accepted text every rule line amounts to a rule, which is one of the rules
if it gives a policy. Of each dimension that the line names it wants one thing: that it takes
certain values, or does not, or that it is open. The rule asks of the dimension what the line wants
exactly if the line gives values for it or none of the lines around the line does. -/
theorem criteria_eq_wanted_iff (accepted : ofText text requireFallback = .ok set)
    (written : l ∈ WrittenRule.ofText text) :
    ∃ rule, Makes (WrittenRule.ofText text) l rule ∧
      (∀ type, rule.assigns type = true → rule ∈ set.rules) ∧
      ∀ d, l.Names d → ∃ wanted, (∀ other, l.Wants d other ↔ other = wanted) ∧
        (rule.criteria d = wanted ↔ wanted ≠ none ∨
          ∀ outer, Encloses (WrittenRule.ofText text) outer l → ∀ c, ¬ outer.Constrains d c) := by
  have ordered := pairwise_line_ofLines 1 (splitLines text.toList)
  obtain ⟨⟨criteria, policies⟩, effective, -⟩ := existsUnique_effective accepted written
  have makes : Makes (WrittenRule.ofText text) l ⟨criteria, policies, l.line⟩ :=
    ⟨written, rfl, effective⟩
  obtain ⟨own, parsed⟩ := effective.exists_own
  refine ⟨_, makes, fun type assigned => mem_rules_of_makes accepted makes assigned, ?_⟩
  intro d names
  have wants : l.Wants d (own d) := (wants_iff parsed names).mpr rfl
  exact ⟨own d, fun other => wants_iff parsed names, effective.eq_wanted_iff ordered wants⟩

/-- A rule for books, and in it one for all but discs, whatever the loan type, and one for whatever
material type. -/
def bookRules : String := "m book: l a\n  !m disc + t *: l b\n  m *: l c"

/-- The rule line for books. -/
def bookLine : WrittenRule := ⟨1, 0, "m book".toList, " l a".toList⟩

/-- What the rule line for books asks. -/
def bookCriteria : Criteria := Criteria.none.set .materialType (.ofList ["book"] false)

/-- The rule line for all but discs. -/
def noDiscLine : WrittenRule := ⟨2, 2, "!m disc + t *".toList, " l b".toList⟩

/-- The rule line for whatever material type. -/
def anyTypeLine : WrittenRule := ⟨3, 2, "m *".toList, " l c".toList⟩

theorem ofText_bookRules : WrittenRule.ofText bookRules = [bookLine, noDiscLine, anyTypeLine] := by
  rfl

theorem exists_ofText_bookRules : ∃ set, ofText bookRules false = .ok set := by
  have read : (ofText bookRules false).toOption.isSome = true := by decide +kernel
  cases accepted : ofText bookRules false with
  | error cause => simp [accepted, Except.toOption] at read
  | ok set => exact ⟨set, rfl⟩

theorem isParent_noDiscLine : IsParent (WrittenRule.ofText bookRules) bookLine noDiscLine := by
  simp [ofText_bookRules, IsParent, bookLine, noDiscLine, anyTypeLine]

theorem isParent_anyTypeLine : IsParent (WrittenRule.ofText bookRules) bookLine anyTypeLine := by
  simp [ofText_bookRules, IsParent, bookLine, noDiscLine, anyTypeLine]

theorem parseCriteria_bookLine : parseCriteria bookLine.criteria = .ok bookCriteria := rfl

theorem parseCriteria_anyTypeLine : parseCriteria anyTypeLine.criteria = .ok .none := rfl

theorem alone_bookLine (p : WrittenRule) :
    ¬ IsParent (WrittenRule.ofText bookRules) p bookLine := by
  simp [IsParent, bookLine]

theorem asks_noDiscLine : Asks (splitAt '+' noDiscLine.criteria)
    [.constraint .materialType (.ofList ["disc"] true), .wildcard .loanType] :=
  .cons (.constraint ⟨.materialType, true, ["disc"]⟩ (by decide) (by decide))
    (.cons (.wildcard .loanType) .nil)

theorem constrains_noDiscLine : noDiscLine.Constrains .materialType (.ofList ["disc"] true) :=
  ⟨_, asks_noDiscLine, by simp⟩

theorem wants_noDiscLine : noDiscLine.Wants .loanType none := by
  refine .wildcard ⟨_, asks_noDiscLine, .wildcard .loanType, by simp, .inl rfl⟩ ?_
  rintro c ⟨demands, asks, constrained⟩
  obtain rfl := asks.unique asks_noDiscLine
  simp at constrained

/-- The line for all but discs has its way: it gives values for the material type, and no line
around it gives values for the loan type. -/
theorem noDiscLine_criteria : ∃ set rule, ofText bookRules false = .ok set ∧
    Makes (WrittenRule.ofText bookRules) noDiscLine rule ∧
    rule.criteria .materialType = some (.ofList ["disc"] true) ∧
    rule.criteria .loanType = none := by
  have ordered := pairwise_line_ofLines 1 (splitLines bookRules.toList)
  obtain ⟨set, accepted⟩ := exists_ofText_bookRules
  obtain ⟨rule, makes, -, obeyed⟩ := criteria_eq_wanted_iff accepted (l := noDiscLine)
    (by simp [ofText_bookRules])
  refine ⟨set, rule, accepted, makes, ?_, ?_⟩
  · obtain ⟨wanted, only, exactly⟩ := obeyed .materialType
      ⟨_, asks_noDiscLine, _, List.mem_cons_self, .inr ⟨_, rfl⟩⟩
    obtain rfl := (only _).mp (.constraint constrains_noDiscLine)
    exact exactly.mpr (.inl (by simp))
  · obtain ⟨wanted, only, exactly⟩ := obeyed .loanType
      ⟨_, asks_noDiscLine, .wildcard .loanType, by simp, .inl rfl⟩
    obtain rfl := (only _).mp wants_noDiscLine
    refine exactly.mpr (.inr fun outer nested => ?_)
    rcases (encloses_iff_of_isParent ordered isParent_noDiscLine).mp nested with rfl | beyond
    · exact (own_eq_none_iff parseCriteria_bookLine).mp rfl
    · exact absurd beyond (not_encloses_of_alone alone_bookLine)

/-- A wildcard does not open what a line around its own constrains. -/
theorem not_always_wanted : ¬ ∀ (text : String) (requireFallback : Bool) (set : RuleSet)
    (l : WrittenRule) (rule : Rule) (d : Dimension) (wanted : Option Constraint),
    ofText text requireFallback = .ok set → Makes (WrittenRule.ofText text) l rule →
      l.Wants d wanted → rule.criteria d = wanted := by
  intro always
  obtain ⟨set, accepted⟩ := exists_ofText_bookRules
  have outer : Effective (WrittenRule.ofText bookRules) bookLine bookCriteria
      (Assignments.none.set .loan "a") :=
    .outermost alone_bookLine parseCriteria_bookLine rfl
  have effective : Effective (WrittenRule.ofText bookRules) anyTypeLine
      (bookCriteria.overriddenBy .none)
      ((Assignments.none.set .loan "a").overriddenBy (Assignments.none.set .loan "c")) :=
    .nested isParent_anyTypeLine outer parseCriteria_anyTypeLine rfl overrides_or overrides_or
  have asks : Asks (splitAt '+' anyTypeLine.criteria) [.wildcard .materialType] :=
    .cons (.wildcard .materialType) .nil
  have wants : anyTypeLine.Wants .materialType none :=
    .wildcard ⟨_, asks, _, List.mem_cons_self, .inl rfl⟩
      ((own_eq_none_iff parseCriteria_anyTypeLine).mp rfl)
  have opened := always bookRules false set anyTypeLine ⟨_, _, 3⟩ .materialType none accepted
    ⟨by simp [ofText_bookRules], rfl, effective⟩ wants
  exact Option.some_ne_none _ opened

end RuleSet

end Lending
