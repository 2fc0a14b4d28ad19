import Lending.Proofs.Except
import Lending.Rules.Text

/-!
# How a rule text is read

Reading a rule text is a run over its lines. This file says once what a line that is accepted does
to the draft of a rule set, and gives the induction by which a property that every such step keeps
holds of the whole text.

## Main definitions

* `Scope.opened`, `Scope.rules` — what a rule line hands on, and the rule that it makes
* `Draft.Step` — what an accepted line does to a draft, with one case for each kind of line

## Main results

* `Draft.addLine_eq_ok_iff` — a line is accepted exactly when it takes a step
* `Draft.addLines_induction` — a property of the empty draft that every step keeps
* `RuleSet.ofText_eq_ok_iff` — a text is accepted when its lines are and its fallback suffices
* `RuleSet.inLineOrder_of_ofText` — the rules of a text come in the order of their lines
* `RuleSet.line_mem_keys_of_ofText` — every text gives a ranking that compares lines
-/

namespace Lending

open RuleTextError (Cause)

/-! ## What a line declares -/

theorem line_mem_withLine (keys : List PriorityKey) : .line ∈ withLine keys := by
  unfold withLine
  split <;> simp_all

/-- A ranking that was read compares lines at some point. -/
theorem line_mem_keys_of_parsePriority {text : List Char} {ranking : Ranking}
    (parsed : parsePriority text = .ok ranking) : .line ∈ ranking.keys := by
  simp only [parsePriority, bind_eq_ok] at parsed
  obtain ⟨order, -, keysRead⟩ := parsed
  split at keysRead
  · obtain ⟨letters, -, read⟩ := bind_eq_ok.mp keysRead
    obtain rfl := pure_eq_ok.mp read
    simp
  · obtain ⟨keys, -, read⟩ := bind_eq_ok.mp keysRead
    obtain ⟨-, read⟩ := guard_eq_ok.mp read
    obtain rfl := pure_eq_ok.mp read
    exact line_mem_withLine _

theorem Assignments.isEmpty_eq_false_iff {policies : Assignments} :
    policies.isEmpty = false ↔ ∃ type, (policies type).isSome = true := by
  rw [isEmpty, List.all_eq_false]
  constructor
  · rintro ⟨type, -, given⟩
    exact ⟨type, by simpa [Option.isSome_iff_ne_none] using given⟩
  · rintro ⟨type, given⟩
    exact ⟨type, PolicyType.mem_all type, by simpa [Option.isSome_iff_ne_none] using given⟩

/-! ## One line -/

namespace Scope

/-- The scope that a rule line opens: what the line asks and gives itself, over what it inherits. -/
def opened (scopes : List Scope) (indent : Nat) (criteria : Criteria) (policies : Assignments) :
    Scope where
  indent
  criteria := (inheritedCriteria (openFor scopes indent)).overriddenBy criteria
  policies := (inheritedPolicies (openFor scopes indent)).overriddenBy policies

/-- A line that finds no scope open inherits nothing. -/
theorem opened_of_closed {scopes : List Scope} {indent : Nat} {criteria : Criteria}
    {policies : Assignments} (closed : openFor scopes indent = []) :
    opened scopes indent criteria policies = ⟨indent, criteria, policies⟩ := by
  have sameCriteria : Criteria.none.overriddenBy criteria = criteria := by
    funext d
    exact Option.or_none
  have samePolicies : Assignments.none.overriddenBy policies = policies := by
    funext type
    exact Option.or_none
  simp only [opened, closed, inheritedCriteria, inheritedPolicies, sameCriteria, samePolicies]

/-- The rule of the line that opened a scope; a line without policies has none. -/
def rules (scope : Scope) (number : Nat) : List Rule :=
  if scope.policies.isEmpty then []
  else [{ criteria := scope.criteria, policies := scope.policies, line := number }]

theorem mem_rules_iff {scope : Scope} {number : Nat} {rule : Rule} :
    rule ∈ scope.rules number ↔
      scope.policies.isEmpty = false ∧ rule = ⟨scope.criteria, scope.policies, number⟩ := by
  unfold rules
  by_cases empty : scope.policies.isEmpty = true <;> simp [empty]

theorem pairwise_rules (scope : Scope) (number : Nat) :
    (scope.rules number).Pairwise (·.line < ·.line) := by
  unfold rules
  split <;> simp

end Scope

namespace Draft

variable {draft next final : Draft} {number : Nat} {text : List Char}

/-- The draft with the scope that a rule line opens, and with its rule if it gives a policy. -/
def extendedBy (draft : Draft) (number : Nat) (scope : Scope) : Draft :=
  { draft with
    rules := draft.rules ++ scope.rules number
    scopes := scope :: Scope.openFor draft.scopes scope.indent }

/-- What an accepted line does to a draft. -/
inductive Step (draft : Draft) (number : Nat) (text : List Char) : Draft → Prop
  | blank (kind : RuleLine.ofText text = .ok .blank) : Step draft number text draft
  | priority {body : List Char} {ranking : Ranking}
      (kind : RuleLine.ofText text = .ok (.priority false body))
      (first : draft.ranking = none) (parsed : parsePriority body = .ok ranking) :
      Step draft number text { draft with ranking := some ranking }
  | fallback {body : List Char} {policies : Assignments}
      (kind : RuleLine.ofText text = .ok (.fallback false body))
      (first : draft.fallback = none) (parsed : parsePolicies body = .ok policies) :
      Step draft number text
        { draft with fallback := some { criteria := .none, policies, line := number } }
  | rule {indent : Nat} {criteriaText policiesText : List Char} {criteria : Criteria}
      {policies : Assignments}
      (kind : RuleLine.ofText text = .ok (.rule indent criteriaText policiesText))
      (criteriaParsed : parseCriteria criteriaText = .ok criteria)
      (policiesParsed : parsePolicies policiesText = .ok policies) :
      Step draft number text
        (draft.extendedBy number (Scope.opened draft.scopes indent criteria policies))

theorem addRule_eq_ok_iff {indent : Nat} {criteriaText policiesText : List Char} :
    draft.addRule number indent criteriaText policiesText = .ok next ↔
      ∃ criteria, parseCriteria criteriaText = .ok criteria ∧
        ∃ policies, parsePolicies policiesText = .ok policies ∧
          draft.extendedBy number (Scope.opened draft.scopes indent criteria policies) = next := by
  -- a rule is appended conditionally in the code, and a conditional rule is appended here
  have rules (policies : Assignments) (rule : Rule) :
      (if policies.isEmpty then draft.rules else draft.rules ++ [rule]) =
        draft.rules ++ if policies.isEmpty then [] else [rule] := by
    split <;> simp
  simp only [addRule, bind_eq_ok, pure_eq_ok, rules]
  rfl

/-- A line is accepted exactly when it takes a step. -/
theorem addLine_eq_ok_iff : draft.addLine number text = .ok next ↔ draft.Step number text next := by
  unfold addLine
  rw [bind_eq_ok]
  constructor
  · rintro ⟨line, kind, accepted⟩
    cases line with
    | blank =>
      obtain rfl : draft = next := by simpa using accepted
      exact .blank kind
    | priority indented body =>
      simp at accepted
      obtain ⟨rfl, first, ranking, parsed, rfl⟩ := accepted
      exact .priority kind first parsed
    | fallback indented body =>
      simp at accepted
      obtain ⟨rfl, first, policies, parsed, rfl⟩ := accepted
      exact .fallback kind first parsed
    | rule indent criteriaText policiesText =>
      obtain ⟨criteria, criteriaParsed, policies, policiesParsed, rfl⟩ :=
        addRule_eq_ok_iff.mp accepted
      exact .rule kind criteriaParsed policiesParsed
  · intro step
    cases step with
    | blank kind => exact ⟨_, kind, by simp⟩
    | priority kind first parsed => exact ⟨_, kind, by simp [first, parsed]⟩
    | fallback kind first parsed => exact ⟨_, kind, by simp [first, parsed]⟩
    | rule kind criteriaParsed policiesParsed =>
      exact ⟨_, kind, addRule_eq_ok_iff.mpr ⟨_, criteriaParsed, _, policiesParsed, rfl⟩⟩

/-! ## A run of lines -/

/-- A property of what was read and of its draft holds after all lines if it holds before the first
and every step keeps it. -/
theorem addLines_induction {motive : List (List Char) → Draft → Prop} {texts : List (List Char)}
    (start : motive [] draft)
    (step : ∀ read draft text next, motive read draft →
      Step draft (number + read.length) text next → motive (read ++ [text]) next)
    (accepted : draft.addLines number texts = .ok final) : motive texts final := by
  -- The lines already read are carried along, so that the number of the next one is known.
  suffices run : ∀ (read : List (List Char)) (draft : Draft), motive read draft →
      draft.addLines (number + read.length) texts = .ok final → motive (read ++ texts) final from
    run [] draft start accepted
  clear start accepted
  induction texts with
  | nil =>
    intro read draft holds accepted
    simp only [addLines, Except.ok.injEq] at accepted
    simpa [← accepted] using holds
  | cons text rest ih =>
    intro read draft holds accepted
    simp only [addLines] at accepted
    split at accepted
    · simp at accepted
    · next after taken =>
      have kept := step read draft text after holds (addLine_eq_ok_iff.mp taken)
      have := ih (read ++ [text]) after kept (by simpa [Nat.add_assoc] using accepted)
      simpa using this

/-- Rules come in the order of the lines on which they stand, all of them before the next line. The
fallback stands on a line of its own. -/
structure InLineOrder (draft : Draft) (next : Nat) : Prop where
  pairwise : draft.rules.Pairwise (·.line < ·.line)
  bound : ∀ rule ∈ draft.rules, rule.line < next
  fallback : ∀ rule ∈ draft.fallback, rule.line < next
  apart : ∀ rule ∈ draft.rules, ∀ fallback ∈ draft.fallback, rule.line ≠ fallback.line

theorem Step.inLineOrder (step : draft.Step number text next)
    (ordered : draft.InLineOrder number) : next.InLineOrder (number + 1) := by
  have bound : ∀ rule ∈ draft.rules, rule.line < number + 1 := fun rule member =>
    Nat.lt_succ_of_lt (ordered.bound rule member)
  have fallback : ∀ rule ∈ draft.fallback, rule.line < number + 1 := fun rule member =>
    Nat.lt_succ_of_lt (ordered.fallback rule member)
  cases step with
  | blank | priority => exact ⟨ordered.pairwise, bound, fallback, ordered.apart⟩
  | fallback =>
    refine ⟨ordered.pairwise, bound, by simp, ?_⟩
    rintro rule member _ ⟨⟩
    exact Nat.ne_of_lt (ordered.bound rule member)
  | rule =>
    -- the new rule, if there is one, is on the line just read, and all others are above it
    refine ⟨?_, ?_, fallback, ?_⟩
    · refine List.pairwise_append.mpr ⟨ordered.pairwise, Scope.pairwise_rules _ _, ?_⟩
      rintro rule old _ new
      obtain ⟨-, rfl⟩ := Scope.mem_rules_iff.mp new
      exact ordered.bound rule old
    · intro rule member
      rcases List.mem_append.mp member with old | new
      · exact bound rule old
      · obtain ⟨-, rfl⟩ := Scope.mem_rules_iff.mp new
        exact Nat.lt_succ_self number
    · intro rule member declared given
      rcases List.mem_append.mp member with old | new
      · exact ordered.apart rule old declared given
      · obtain ⟨-, rfl⟩ := Scope.mem_rules_iff.mp new
        exact Nat.ne_of_gt (ordered.fallback declared given)

/-- A declared ranking compares lines at some point. -/
theorem Step.line_mem_keys (step : draft.Step number text next)
    (declared : ∀ ranking ∈ draft.ranking, .line ∈ ranking.keys) :
    ∀ ranking ∈ next.ranking, .line ∈ ranking.keys := by
  cases step with
  | blank | fallback | rule => exact declared
  | priority _ _ parsed =>
    rintro _ ⟨⟩
    exact line_mem_keys_of_parsePriority parsed

end Draft

/-! ## A whole text -/

namespace RuleSet

variable {text : String} {requireFallback : Bool} {set : RuleSet}

/-- A text is accepted when all its lines are and its fallback suffices. -/
theorem ofText_eq_ok_iff :
    ofText text requireFallback = .ok set ↔
      ∃ draft : Draft, Draft.addLines {} 1 (splitLines text.toList) = .ok draft ∧
        (requireFallback = true → draft.checkFallback = .ok ()) ∧ draft.finish = set := by
  cases requireFallback with
  | false => simp [ofText]
  | true =>
    -- The check gives no value, only leave to go on.
    have done (check : Except RuleTextError Unit) : (∃ x, check = .ok x) ↔ check = .ok () :=
      ⟨fun ⟨_, h⟩ => h, fun h => ⟨_, h⟩⟩
    simp [ofText, done]

/-- The lines of a text's rules are in order, and the line of its fallback is none of them. -/
theorem inLineOrder_of_ofText (accepted : ofText text requireFallback = .ok set) :
    set.rules.Pairwise (·.line < ·.line) ∧
      ∀ rule ∈ set.rules, ∀ fallback ∈ set.fallback, rule.line ≠ fallback.line := by
  obtain ⟨draft, read, -, rfl⟩ := ofText_eq_ok_iff.mp accepted
  have ordered := Draft.addLines_induction
    (motive := fun read draft => draft.InLineOrder (1 + read.length))
    ⟨.nil, by simp, by simp, by simp⟩
    (fun read draft text next ordered step => by
      simpa [Nat.add_assoc] using step.inLineOrder ordered) read
  exact ⟨ordered.pairwise, ordered.apart⟩

/-- Whatever the text declares, the ranking compares lines at some point. -/
theorem line_mem_keys_of_ofText (accepted : ofText text requireFallback = .ok set) :
    .line ∈ set.ranking.keys := by
  obtain ⟨draft, read, -, rfl⟩ := ofText_eq_ok_iff.mp accepted
  have declared := Draft.addLines_induction
    (motive := fun _ draft => ∀ ranking ∈ draft.ranking, .line ∈ ranking.keys) (by simp)
    (fun _ _ _ _ declared step => step.line_mem_keys declared) read
  cases ranking : draft.ranking with
  | none => simp [Draft.finish, ranking]
  | some ranking' => simpa [Draft.finish, ranking] using declared ranking' ranking

end RuleSet

end Lending
