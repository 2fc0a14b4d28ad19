import Lending.Proofs.Rules.Inheritance
import Lending.Proofs.Rules.Specificity
import Mathlib.Logic.Relation

/-!
# Nested rules

A rule line that is nested in another one, at any depth, inherits what the outer line asks and
gives: it constrains every dimension and gives every kind of policy that the outer one does, though
maybe with values and ids of its own. So the inner rule is as specific as the outer one, and it
stands on a later line. Where later lines win an outer rule therefore never goes before a rule that
is nested in it, whatever ranking the text declares.

## Main definitions

* `WrittenRule.Encloses` — a rule line in which another one is nested
* `WrittenRule.Makes` — the rule that a line of a text amounts to

## Main results

* `WrittenRule.Encloses.inherits` — what an inner rule has from an outer one
* `RuleSet.inner_before_outer` — a rule stands before all rules in which it is nested
-/

namespace Lending

namespace WrittenRule

variable {lines : List WrittenRule} {p l : WrittenRule} {inner outer : Rule}

/-- A rule line in which another one is nested: the other's parent, or the parent's parent, and so
on. -/
def Encloses (lines : List WrittenRule) (p l : WrittenRule) : Prop :=
  Relation.TransGen (IsParent lines) p l

/-- The rule that a line of a text amounts to, with all that it inherits. -/
structure Makes (lines : List WrittenRule) (l : WrittenRule) (rule : Rule) : Prop where
  member : l ∈ lines
  line : rule.line = l.line
  effective : Effective lines l rule.criteria rule.policies

theorem Makes.unique {a b : Rule} (ordered : lines.Pairwise (·.line < ·.line))
    (ha : Makes lines l a) (hb : Makes lines l b) : a = b := by
  obtain ⟨criteria, policies, line⟩ := a
  obtain ⟨criteria', policies', line'⟩ := b
  obtain ⟨rfl, rfl⟩ := ha.effective.unique ordered hb.effective
  obtain rfl : line = line' := ha.line.trans hb.line.symm
  rfl

theorem Encloses.line_lt (nested : Encloses lines p l) : p.line < l.line := by
  induction nested with
  | single parent => exact parent.2.1
  | tail _ parent ih => exact Nat.lt_trans ih parent.2.1

/-- A line has from its parent all that it does not say itself. -/
theorem Makes.exists_parent (ordered : lines.Pairwise (·.line < ·.line))
    (parent : IsParent lines p l) (makes : Makes lines l inner) :
    ∃ outer, Makes lines p outer ∧ inner.IsAsSpecificAs outer ∧
      ∀ type, outer.assigns type = true → inner.assigns type = true := by
  obtain ⟨criteria, policies, line⟩ := inner
  cases makes.effective with
  | outermost alone => exact absurd parent (alone _)
  | nested parent' outerEffective _ _ criteriaOverridden policiesOverridden =>
    obtain rfl := parent.unique ordered parent'
    refine ⟨⟨_, _, p.line⟩, ⟨parent.1, rfl, outerEffective⟩, ?_, ?_⟩
    · intro d constrained
      exact criteriaOverridden.isSome_of_handed constrained
    · intro type assigned
      exact policiesOverridden.isSome_of_handed assigned

/-- An inner rule constrains every dimension, and gives every kind of policy, that an outer one
does. -/
theorem Encloses.inherits (ordered : lines.Pairwise (·.line < ·.line))
    (nested : Encloses lines p l) (makesOuter : Makes lines p outer)
    (makesInner : Makes lines l inner) :
    inner.IsAsSpecificAs outer ∧
      ∀ type, outer.assigns type = true → inner.assigns type = true := by
  -- induction on the chain of parents, from the outer line inwards
  induction nested generalizing inner with
  | single parent =>
    obtain ⟨above, makesAbove, inherited⟩ := makesInner.exists_parent ordered parent
    obtain rfl := makesAbove.unique ordered makesOuter
    exact inherited
  | tail _ parent ih =>
    obtain ⟨above, makesAbove, specific, assigns⟩ := makesInner.exists_parent ordered parent
    obtain ⟨specific', assigns'⟩ := ih makesAbove
    exact ⟨specific.trans specific', fun type assigned => assigns type (assigns' type assigned)⟩

end WrittenRule

open WrittenRule

namespace RuleSet

variable {text : String} {requireFallback : Bool} {set : RuleSet}

theorem mem_rules_of_makes (accepted : ofText text requireFallback = .ok set) {l : WrittenRule}
    {rule : Rule} {type : PolicyType} (makes : Makes (WrittenRule.ofText text) l rule)
    (assigned : rule.assigns type = true) : rule ∈ set.rules :=
  (mem_rules_iff accepted).mpr ⟨l, makes.member, makes.line, makes.effective, type, assigned⟩

theorem makes_of_mem_rules (accepted : ofText text requireFallback = .ok set) {l : WrittenRule}
    {rule : Rule} (member : rule ∈ set.rules) (written : l ∈ WrittenRule.ofText text)
    (line : rule.line = l.line) : Makes (WrittenRule.ofText text) l rule := by
  obtain ⟨m, read, same, effective, -⟩ := (mem_rules_iff accepted).mp member
  obtain rfl : m = l :=
    eq_of_line_eq (pairwise_line_ofLines 1 (splitLines text.toList)) read written
      (same.symm.trans line)
  exact ⟨written, line, effective⟩

/-- **Nested rules.** Where later lines win, a rule stands before every rule in which it is nested
if both match a request, whatever the text declares about the ranking: it gives the kinds of policies
that the outer rule gives, and a policy is selected, but not the outer rule's. -/
theorem inner_before_outer (accepted : ofText text requireFallback = .ok set)
    {tieBreak : Option TieBreak} (lastWins : (Rulebook.ofRules set tieBreak).tieBreak = .lastWins)
    {p l : WrittenRule} (nested : Encloses (WrittenRule.ofText text) p l) {inner outer : Rule}
    (makesOuter : Makes (WrittenRule.ofText text) p outer)
    (makesInner : Makes (WrittenRule.ofText text) l inner) {request : Circumstances}
    (outerMatches : outer.Matches request) (innerMatches : inner.Matches request)
    {type : PolicyType} (assigned : outer.assigns type = true) :
    inner.assigns type = true ∧
      [inner, outer].Sublist ((Rulebook.ofRules set tieBreak).matching request type) ∧
      ∃ found, (Rulebook.ofRules set tieBreak).select request type = .ok found ∧
        found.isFallback = false ∧ found.line ≠ outer.line := by
  have ordered := pairwise_line_ofLines 1 (splitLines text.toList)
  obtain ⟨specific, assigns⟩ := nested.inherits ordered makesOuter makesInner
  have below : outer.line < inner.line := by
    rw [makesOuter.line, makesInner.line]
    exact nested.line_lt
  have compared := line_mem_keys_of_ofText accepted
  have apart : set.rules.Pairwise (·.line ≠ ·.line) :=
    (inLineOrder_of_ofText accepted).1.imp Nat.ne_of_lt
  -- the inner rule goes first: it is as specific, and its line is the later one
  have first : set.ranking.Precedes (Rulebook.ofRules set tieBreak).tieBreak inner outer := by
    refine (Ranking.precedes_or_precedes compared (Nat.ne_of_gt below)).resolve_right ?_
    apply Ranking.not_precedes_of_isAsSpecificAs specific
    rw [lastWins]
    exact Nat.not_lt.mpr (Nat.le_of_lt below)
  have stands :
      [inner, outer].Sublist ((Rulebook.ofRules set tieBreak).matching request type) := by
    refine (Rulebook.pair_sublist_matching_iff compared apart).mpr ⟨?_, ?_, first⟩
    · exact Rulebook.mem_matching.mpr
        ⟨mem_rules_of_makes accepted makesInner (assigns type assigned), assigns type assigned,
          innerMatches⟩
    · exact Rulebook.mem_matching.mpr
        ⟨mem_rules_of_makes accepted makesOuter assigned, assigned, outerMatches⟩
  exact ⟨assigns type assigned, stands, Rulebook.exists_select_of_pair_sublist apart stands⟩

/-- A rule at depth two, below a line without policies of its own. The declared ranking looks at the
patron group alone before the lines. -/
def booksAtDesks : String :=
  "priority: criterium(g), line\nm b: l x\n  s c\nfallback-policy: l f\n    g u: r y"

/-- The rule line for books. -/
def booksLine : WrittenRule := ⟨2, 0, "m b".toList, " l x".toList⟩

/-- The rule line for a desk, nested in that for books. -/
def deskLine : WrittenRule := ⟨3, 2, "s c".toList, []⟩

/-- The rule line for a patron group, nested in that for a desk. -/
def groupLine : WrittenRule := ⟨5, 4, "g u".toList, " r y".toList⟩

theorem booksAtDesks_nested : ∃ (set : RuleSet) (inner outer : Rule),
    ofText booksAtDesks false = .ok set ∧
      (Rulebook.ofRules set none).tieBreak = .lastWins ∧
      Encloses (WrittenRule.ofText booksAtDesks) booksLine groupLine ∧
      Makes (WrittenRule.ofText booksAtDesks) booksLine outer ∧
      Makes (WrittenRule.ofText booksAtDesks) groupLine inner ∧
      outer.Matches visit ∧ inner.Matches visit ∧ outer.assigns .loan = true ∧
      inner.assigns .loan = true ∧
      [inner, outer].Sublist ((Rulebook.ofRules set none).matching visit .loan) ∧
      ∃ found, (Rulebook.ofRules set none).select visit .loan = .ok found ∧
        found.isFallback = false ∧ found.line ≠ outer.line := by
  have lines : WrittenRule.ofText booksAtDesks = [booksLine, deskLine, groupLine] := by rfl
  have nested : Encloses (WrittenRule.ofText booksAtDesks) booksLine groupLine := by
    have first : IsParent (WrittenRule.ofText booksAtDesks) booksLine deskLine := by
      simp [lines, IsParent, booksLine, deskLine, groupLine]
    have second : IsParent (WrittenRule.ofText booksAtDesks) deskLine groupLine := by
      simp [lines, IsParent, booksLine, deskLine, groupLine]
    exact .tail (.single first) second
  have read : (ofText booksAtDesks false).toOption.map (fun set : RuleSet =>
      (set.ranking.tieBreak,
        set.rules.any fun rule => rule.line = 2 && rule.assigns .loan && rule.Matches visit,
        set.rules.any fun rule => rule.line = 5 && rule.Matches visit)) =
      some (some .lastWins, true, true) := by decide +kernel
  cases accepted : ofText booksAtDesks false with
  | error cause => simp [accepted, Except.toOption] at read
  | ok set =>
    simp only [accepted, Except.toOption, Option.map_some, Option.some.injEq, Prod.mk.injEq,
      List.any_eq_true, Bool.and_eq_true, decide_eq_true_eq] at read
    obtain ⟨last, ⟨outer, outerMember, ⟨outerLine, assigned⟩, outerMatches⟩, inner, innerMember,
      innerLine, innerMatches⟩ := read
    have lastWins : (Rulebook.ofRules set none).tieBreak = .lastWins := by
      simp [Rulebook.ofRules, last]
    have makesOuter : Makes (WrittenRule.ofText booksAtDesks) booksLine outer :=
      makes_of_mem_rules accepted outerMember (by simp [lines]) outerLine
    have makesInner : Makes (WrittenRule.ofText booksAtDesks) groupLine inner :=
      makes_of_mem_rules accepted innerMember (by simp [lines]) innerLine
    exact ⟨set, inner, outer, rfl, lastWins, nested, makesOuter, makesInner, outerMatches,
      innerMatches, assigned, inner_before_outer accepted lastWins nested makesOuter makesInner
        outerMatches innerMatches assigned⟩

end RuleSet

end Lending
