import Lending.Proofs.Rules.Kinds
import Lending.Proofs.Rules.Reading
import Mathlib.Data.List.Nodup

/-!
# Inheritance among rule lines

While a text is read the lines that a rule may inherit from are kept on a stack. Here inheritance is
said without it: the parent of a rule line is the last rule line above it that is indented less, and
a line asks and gives what its parent does, except where it says something itself. The rules of a
text are those of its lines that give a policy in this sense.

The invariant is about the line to come. Whatever its indentation, the innermost scope that is open
for it belongs to the last line that is indented less, so it does not matter how the lines before it
were indented.

## Main definitions

* `Overrides` — values that are handed down, where none are given in their place
* `WrittenRule`, `WrittenRule.ofText` — the rule lines of a text
* `WrittenRule.IsParent` — the last line above that is indented less
* `WrittenRule.Effective` — what a line asks and gives in all

## Main results

* `WrittenRule.mem_ofText_iff` — the rule lines are those that look like rules
* `WrittenRule.Effective.unique` — inheritance determines what a line asks and gives
* `Draft.Step.follows` — reading one more line keeps the stack in accord with the lines read
* `RuleSet.mem_rules_iff` — the rules of a text are its lines that give a policy
* `RuleSet.rules_inherit_from_parents` — inheritance in every accepted text
-/

namespace Lending

open RuleTextError (Cause)

/-! ## Overriding -/

section Overrides

variable {κ α : Type} {handed own all all' : κ → Option α}

/-- What is given goes before what is handed down: all in all there is a value under a key if it is
given, or if none is given there and it is handed down. -/
def Overrides (handed own all : κ → Option α) : Prop :=
  ∀ key value, all key = some value ↔
    own key = some value ∨ own key = none ∧ handed key = some value

theorem overrides_or : Overrides handed own fun key => (own key).or (handed key) :=
  fun _ _ => Option.or_eq_some_iff

theorem Overrides.unique (first : Overrides handed own all) (second : Overrides handed own all') :
    all = all' :=
  funext fun key => Option.ext fun value => (first key value).trans (second key value).symm

/-- There is nothing under a key if nothing is given there and nothing is handed down. -/
theorem Overrides.eq_none_iff (overrides : Overrides handed own all) {key : κ} :
    all key = none ↔ own key = none ∧ handed key = none := by
  rw [overrides.unique overrides_or, Option.or_eq_none_iff]

/-- What is handed down is there unless something else is given in its place. -/
theorem Overrides.isSome_of_handed (overrides : Overrides handed own all) {key : κ}
    (there : (handed key).isSome = true) : (all key).isSome = true := by
  rw [Option.isSome_iff_ne_none, ne_eq, overrides.eq_none_iff]
  rw [Option.isSome_iff_ne_none] at there
  exact fun nothing => there nothing.2

end Overrides

theorem Criteria.overrides_overriddenBy (outer inner : Criteria) :
    Overrides outer inner (outer.overriddenBy inner) := overrides_or

theorem Assignments.overrides_overriddenBy (outer inner : Assignments) :
    Overrides outer inner (outer.overriddenBy inner) := overrides_or

/-! ## Rule lines -/

/-- A rule line of a text: its number and indentation, and what stands before and after its first
colon. -/
structure WrittenRule where
  line : Nat
  indent : Nat
  criteria : List Char
  policies : List Char

namespace WrittenRule

/-- The rule line that a line of a text is, unless it is blank or declares something. -/
def ofLine? (number : Nat) (text : List Char) : Option WrittenRule :=
  match RuleLine.ofText text with
  | .ok (.rule indent criteria policies) => some ⟨number, indent, criteria, policies⟩
  | _ => none

/-- The rule lines among consecutive lines, of which the first has a given number. -/
def ofLines (number : Nat) : List (List Char) → List WrittenRule
  | [] => []
  | text :: rest => (ofLine? number text).toList ++ ofLines (number + 1) rest

/-- The rule lines of a text. -/
def ofText (text : String) : List WrittenRule := ofLines 1 (splitLines text.toList)

theorem ofLine?_of_kind {number indent : Nat} {text criteria policies : List Char}
    (kind : RuleLine.ofText text = .ok (.rule indent criteria policies)) :
    ofLine? number text = some ⟨number, indent, criteria, policies⟩ := by
  simp [ofLine?, kind]

theorem ofLine?_eq_some_iff {number : Nat} {text : List Char} {l : WrittenRule} :
    ofLine? number text = some l ↔
      l.line = number ∧ RuleLine.ofText text = .ok (.rule l.indent l.criteria l.policies) := by
  constructor
  · intro written
    unfold ofLine? at written
    split at written
    · next kind =>
      rw [← Option.some.inj written]
      exact ⟨rfl, kind⟩
    · cases written
  · rintro ⟨rfl, kind⟩
    exact ofLine?_of_kind kind

theorem ofLines_append_singleton (number : Nat) (read : List (List Char)) (text : List Char) :
    ofLines number (read ++ [text]) =
      ofLines number read ++ (ofLine? (number + read.length) text).toList := by
  induction read generalizing number with
  | nil => simp [ofLines]
  | cons first rest ih =>
    have shift : number + 1 + rest.length = number + (rest.length + 1) := by omega
    simp [ofLines, ih, shift]

theorem mem_ofLines_iff {number : Nat} {texts : List (List Char)} {l : WrittenRule} :
    l ∈ ofLines number texts ↔ ∃ k text, l.line = number + k ∧ texts[k]? = some text ∧
      RuleLine.ofText text = .ok (.rule l.indent l.criteria l.policies) := by
  induction texts generalizing number with
  | nil => simp [ofLines]
  | cons first rest ih =>
    rw [ofLines, List.mem_append, Option.mem_toList, ofLine?_eq_some_iff, ih]
    constructor
    · rintro (⟨here, kind⟩ | ⟨k, text, below, listed, kind⟩)
      · exact ⟨0, first, here, rfl, kind⟩
      · exact ⟨k + 1, text, by omega, listed, kind⟩
    · rintro ⟨k, text, placed, listed, kind⟩
      cases k with
      | zero =>
        obtain rfl := Option.some.inj listed
        exact .inl ⟨placed, kind⟩
      | succ k => exact .inr ⟨k, text, by omega, listed, kind⟩

theorem line_of_mem_ofLines {number : Nat} {texts : List (List Char)} {l : WrittenRule}
    (member : l ∈ ofLines number texts) : number ≤ l.line ∧ l.line < number + texts.length := by
  obtain ⟨k, text, placed, listed, -⟩ := mem_ofLines_iff.mp member
  obtain ⟨within, -⟩ := List.getElem?_eq_some_iff.mp listed
  omega

/-- The rule lines of a text are those that look like rules. They are numbered from one on. -/
theorem mem_ofText_iff {text : String} {l : WrittenRule} :
    l ∈ ofText text ↔ ∃ k read, l.line = k + 1 ∧ (splitLines text.toList)[k]? = some read ∧
      RuleLine.OfKind read (.rule l.indent l.criteria l.policies) := by
  simp only [ofText, mem_ofLines_iff, RuleLine.ofText_eq_ok_iff, Nat.add_comm 1]

/-- Rule lines come in the order of their numbers. -/
theorem pairwise_line_ofLines (number : Nat) (texts : List (List Char)) :
    (ofLines number texts).Pairwise (·.line < ·.line) := by
  induction texts generalizing number with
  | nil => exact .nil
  | cons text rest ih =>
    refine List.pairwise_append.mpr ⟨?_, ih (number + 1), ?_⟩
    · cases ofLine? number text <;> simp
    · intro l here m later
      obtain ⟨placed, -⟩ := ofLine?_eq_some_iff.mp (Option.mem_toList.mp here)
      have := line_of_mem_ofLines later
      omega

/-! ## Parents -/

variable {lines more : List WrittenRule} {l p q : WrittenRule}

/-- The last rule line above another one that is indented less. -/
def IsParent (lines : List WrittenRule) (p l : WrittenRule) : Prop :=
  p ∈ lines ∧ p.line < l.line ∧ p.indent < l.indent ∧
    ∀ q ∈ lines, p.line < q.line → q.line < l.line → l.indent ≤ q.indent

/-- What a rule line asks and gives in all: what it says itself, and for all else what its parent
asks and gives. -/
inductive Effective (lines : List WrittenRule) : WrittenRule → Criteria → Assignments → Prop
  | outermost {l : WrittenRule} {criteria : Criteria} {policies : Assignments}
      (alone : ∀ p, ¬ IsParent lines p l)
      (criteriaParsed : parseCriteria l.criteria = .ok criteria)
      (policiesParsed : parsePolicies l.policies = .ok policies) :
      Effective lines l criteria policies
  | nested {p l : WrittenRule} {outerCriteria ownCriteria criteria : Criteria}
      {outerPolicies ownPolicies policies : Assignments}
      (parent : IsParent lines p l) (outer : Effective lines p outerCriteria outerPolicies)
      (criteriaParsed : parseCriteria l.criteria = .ok ownCriteria)
      (policiesParsed : parsePolicies l.policies = .ok ownPolicies)
      (criteriaOverridden : Overrides outerCriteria ownCriteria criteria)
      (policiesOverridden : Overrides outerPolicies ownPolicies policies) :
      Effective lines l criteria policies

/-- Numbered lines are told apart by their numbers. -/
theorem eq_of_line_eq (ordered : lines.Pairwise (·.line < ·.line)) (hp : p ∈ lines)
    (hq : q ∈ lines) (same : p.line = q.line) : p = q :=
  List.inj_on_of_nodup_map (List.pairwise_map.mpr (ordered.imp Nat.ne_of_lt)) hp hq same

theorem IsParent.unique (ordered : lines.Pairwise (·.line < ·.line)) (hp : IsParent lines p l)
    (hq : IsParent lines q l) : p = q := by
  obtain ⟨pMember, pAbove, pLess, pLast⟩ := hp
  obtain ⟨qMember, qAbove, qLess, qLast⟩ := hq
  apply eq_of_line_eq ordered pMember qMember
  -- The earlier of two parents would have the later one between itself and the line.
  rcases Nat.lt_trichotomy p.line q.line with before | same | after
  · have := pLast q qMember before qAbove
    omega
  · exact same
  · have := qLast p pMember after pAbove
    omega

/-- Inheritance determines what a line asks and gives. -/
theorem Effective.unique (ordered : lines.Pairwise (·.line < ·.line))
    {criteria criteria' : Criteria} {policies policies' : Assignments}
    (h : Effective lines l criteria policies)
    (h' : Effective lines l criteria' policies') : criteria = criteria' ∧ policies = policies' := by
  -- induction on the chain of parents: the two derivations agree on each parent
  induction h generalizing criteria' policies' with
  | outermost alone criteriaParsed policiesParsed =>
    cases h' with
    | outermost _ criteriaParsed' policiesParsed' =>
      rw [criteriaParsed] at criteriaParsed'
      rw [policiesParsed] at policiesParsed'
      exact ⟨Except.ok.inj criteriaParsed', Except.ok.inj policiesParsed'⟩
    | nested parent => exact absurd parent (alone _)
  | nested parent _ criteriaParsed policiesParsed criteriaOverridden policiesOverridden ih =>
    cases h' with
    | outermost alone => exact absurd parent (alone _)
    | nested parent' outer' criteriaParsed' policiesParsed' criteriaOverridden'
        policiesOverridden' =>
      obtain rfl := parent.unique ordered parent'
      obtain ⟨rfl, rfl⟩ := ih outer'
      obtain rfl := Except.ok.inj (criteriaParsed.symm.trans criteriaParsed')
      obtain rfl := Except.ok.inj (policiesParsed.symm.trans policiesParsed')
      exact ⟨criteriaOverridden.unique criteriaOverridden',
        policiesOverridden.unique policiesOverridden'⟩

/-- Lines below a line, and lines that are indented no less, do not matter for its parent. -/
theorem isParent_append_iff (passed : ∀ q ∈ more, l.line ≤ q.line ∨ l.indent ≤ q.indent) :
    IsParent (lines ++ more) p l ↔ IsParent lines p l := by
  constructor
  · rintro ⟨member, above, less, last⟩
    refine ⟨?_, above, less, fun q hq => last q (List.mem_append_left more hq)⟩
    rcases List.mem_append.mp member with here | later
    · exact here
    · have := passed p later
      omega
  · rintro ⟨member, above, less, last⟩
    refine ⟨List.mem_append_left more member, above, less, fun q hq after before => ?_⟩
    rcases List.mem_append.mp hq with here | later
    · exact last q here after before
    · have := passed q later
      omega

/-- Lines below a line do not matter for what it asks and gives. -/
theorem Effective.append {criteria : Criteria} {policies : Assignments}
    (h : Effective lines l criteria policies) (below : ∀ q ∈ more, l.line ≤ q.line) :
    Effective (lines ++ more) l criteria policies := by
  induction h with
  | outermost alone criteriaParsed policiesParsed =>
    refine .outermost (fun p parent => alone p ?_) criteriaParsed policiesParsed
    exact (isParent_append_iff fun q hq => .inl (below q hq)).mp parent
  | nested parent _ criteriaParsed policiesParsed criteriaOverridden policiesOverridden ih =>
    refine .nested ((isParent_append_iff fun q hq => .inl (below q hq)).mpr parent)
      (ih fun q hq => ?_) criteriaParsed policiesParsed criteriaOverridden policiesOverridden
    have := below q hq
    have := parent.2.1
    omega

/-! ## The stack of scopes -/

/-- The innermost of some scopes belongs to the parent of a line; there is no scope if there is no
parent. -/
def HandedTo (lines : List WrittenRule) (l : WrittenRule) : List Scope → Prop
  | [] => ∀ p, ¬ IsParent lines p l
  | scope :: _ => ∃ p, IsParent lines p l ∧ Effective lines p scope.criteria scope.policies

/-- A line that finds its parent's scope open opens a scope of its own. -/
theorem HandedTo.effective_opened {scopes : List Scope} {criteria : Criteria}
    {policies : Assignments} (handed : HandedTo lines l (Scope.openFor scopes l.indent))
    (criteriaParsed : parseCriteria l.criteria = .ok criteria)
    (policiesParsed : parsePolicies l.policies = .ok policies) :
    Effective lines l (Scope.opened scopes l.indent criteria policies).criteria
      (Scope.opened scopes l.indent criteria policies).policies := by
  cases open_ : Scope.openFor scopes l.indent with
  | nil =>
    rw [open_] at handed
    rw [Scope.opened_of_closed open_]
    exact .outermost handed criteriaParsed policiesParsed
  | cons scope outer =>
    unfold Scope.opened
    rw [open_] at handed ⊢
    obtain ⟨p, parent, effective⟩ := handed
    exact .nested parent effective criteriaParsed policiesParsed
      (scope.criteria.overrides_overriddenBy criteria)
      (scope.policies.overrides_overriddenBy policies)

/-- Scopes that a first line closes are closed for a second one that is indented no more. -/
theorem openFor_openFor (scopes : List Scope) {first second : Nat} (le : second ≤ first) :
    Scope.openFor (Scope.openFor scopes first) second = Scope.openFor scopes second := by
  induction scopes with
  | nil => rfl
  | cons scope outer ih =>
    by_cases closed : first ≤ scope.indent
    · have : second ≤ scope.indent := Nat.le_trans le closed
      simpa [Scope.openFor, closed, this] using ih
    · simp [Scope.openFor, closed]

/-- The innermost scope after a line `m` belongs to `m` for a line that is indented more, and for
others to the line to which it belonged before. -/
theorem HandedTo.openFor_cons {scopes : List Scope} {m : WrittenRule} {scope : Scope}
    (handed : HandedTo lines l (Scope.openFor scopes l.indent))
    (above : ∀ q ∈ lines, q.line < m.line) (below : m.line < l.line)
    (own : scope.indent = m.indent)
    (effective : Effective (lines ++ [m]) m scope.criteria scope.policies) :
    HandedTo (lines ++ [m]) l
      (Scope.openFor (scope :: Scope.openFor scopes m.indent) l.indent) := by
  -- a line indented more than `m` finds the scope of `m` open, and no other is its parent
  by_cases deeper : m.indent < l.indent
  · have stays : Scope.openFor (scope :: Scope.openFor scopes m.indent) l.indent =
        scope :: Scope.openFor scopes m.indent := by
      simp [Scope.openFor, own, deeper]
    rw [stays]
    refine ⟨m, ⟨by simp, below, deeper, fun q member after _ => ?_⟩, effective⟩
    rcases List.mem_append.mp member with earlier | same
    · have := above q earlier
      omega
    · obtain rfl := List.mem_singleton.mp same
      omega
  -- for any other line `m` and all that it closed are closed, as if `m` had not been there
  · have passed : ∀ q ∈ [m], l.line ≤ q.line ∨ l.indent ≤ q.indent := by
      simpa using .inr (Nat.le_of_not_lt deeper)
    have closes : Scope.openFor (scope :: Scope.openFor scopes m.indent) l.indent =
        Scope.openFor scopes l.indent := by
      rw [← openFor_openFor scopes (Nat.le_of_not_lt deeper)]
      simp [Scope.openFor, own, Nat.le_of_not_lt deeper]
    rw [closes]
    cases open_ : Scope.openFor scopes l.indent with
    | nil =>
      rw [open_] at handed
      exact fun p parent => handed p ((isParent_append_iff passed).mp parent)
    | cons inner outer =>
      rw [open_] at handed
      obtain ⟨p, parent, inherited⟩ := handed
      refine ⟨p, (isParent_append_iff passed).mpr parent, inherited.append fun q hq => ?_⟩
      obtain rfl := List.mem_singleton.mp hq
      exact Nat.le_of_lt (above p parent.1)

end WrittenRule

open WrittenRule

/-! ## Reading a text -/

/-- What a draft has in common with the rule lines that were read: its rules are those of the lines
that give a policy, and every line to come finds the scope of its parent. -/
structure Draft.Follows (draft : Draft) (lines : List WrittenRule) : Prop where
  sound : ∀ rule ∈ draft.rules, ∃ l ∈ lines, rule.line = l.line ∧
    Effective lines l rule.criteria rule.policies ∧ rule.policies.isEmpty = false
  complete : ∀ l ∈ lines, ∃ criteria policies, Effective lines l criteria policies ∧
    (policies.isEmpty = false → ⟨criteria, policies, l.line⟩ ∈ draft.rules)
  handed : ∀ l : WrittenRule, (∀ q ∈ lines, q.line < l.line) →
    HandedTo lines l (Scope.openFor draft.scopes l.indent)

namespace Draft

variable {draft next : Draft} {lines : List WrittenRule} {number : Nat} {text : List Char}

theorem Follows.extendedBy {m : WrittenRule} {criteria : Criteria} {policies : Assignments}
    (follows : draft.Follows lines) (above : ∀ q ∈ lines, q.line < m.line)
    (criteriaParsed : parseCriteria m.criteria = .ok criteria)
    (policiesParsed : parsePolicies m.policies = .ok policies) :
    (draft.extendedBy m.line (Scope.opened draft.scopes m.indent criteria policies)).Follows
      (lines ++ [m]) := by
  have last : ∀ q ∈ [m], m.line ≤ q.line := by simp
  have own := ((follows.handed m above).effective_opened criteriaParsed policiesParsed).append last
  have older {l : WrittenRule} (member : l ∈ lines) : ∀ q ∈ [m], l.line ≤ q.line := by
    simpa using Nat.le_of_lt (above l member)
  constructor
  case sound =>
    intro rule member
    rcases List.mem_append.mp member with old | new
    · obtain ⟨l, read, same, effective, gives⟩ := follows.sound rule old
      exact ⟨l, by simp [read], same, effective.append (older read), gives⟩
    · obtain ⟨gives, rfl⟩ := Scope.mem_rules_iff.mp new
      exact ⟨m, by simp, rfl, own, gives⟩
  -- a line that gives no policy still has its criteria, which others may inherit
  case complete =>
    intro l member
    rcases List.mem_append.mp member with read | new
    · obtain ⟨criteria, policies, effective, kept⟩ := follows.complete l read
      exact ⟨criteria, policies, effective.append (older read), fun gives =>
        List.mem_append_left _ (kept gives)⟩
    · obtain rfl := List.mem_singleton.mp new
      exact ⟨_, _, own, fun gives =>
        List.mem_append_right _ (Scope.mem_rules_iff.mpr ⟨gives, rfl⟩)⟩
  case handed =>
    intro l below
    have earlier : ∀ q ∈ lines, q.line < l.line := fun q member => below q (by simp [member])
    exact (follows.handed l earlier).openFor_cons above (below m (by simp)) rfl own

/-- Every step keeps the draft in accord with the rule lines read. -/
theorem Step.follows (step : draft.Step number text next) (follows : draft.Follows lines)
    (above : ∀ q ∈ lines, q.line < number) :
    next.Follows (lines ++ (ofLine? number text).toList) := by
  cases step with
  | blank kind | priority kind | fallback kind =>
    simp only [ofLine?, kind, Option.toList_none, List.append_nil]
    exact ⟨follows.sound, follows.complete, follows.handed⟩
  | rule kind criteriaParsed policiesParsed =>
    simp only [ofLine?_of_kind kind, Option.toList_some]
    exact follows.extendedBy (m := ⟨number, _, _, _⟩) above criteriaParsed policiesParsed

end Draft

namespace RuleSet

variable {text : String} {requireFallback : Bool} {set : RuleSet}

theorem exists_follows_of_ofText (accepted : ofText text requireFallback = .ok set) :
    ∃ draft : Draft, draft.Follows (WrittenRule.ofText text) ∧ draft.rules = set.rules := by
  obtain ⟨draft, read, -, rfl⟩ := ofText_eq_ok_iff.mp accepted
  refine ⟨draft, ?_, rfl⟩
  refine Draft.addLines_induction (motive := fun read draft => draft.Follows (ofLines 1 read))
    ⟨by simp, by simp [ofLines], ?_⟩ ?_ read
  · rintro l - p ⟨member, -⟩
    simp [ofLines] at member
  · intro read draft text next follows step
    rw [ofLines_append_singleton]
    exact step.follows follows fun q member => (line_of_mem_ofLines member).2

theorem existsUnique_effective (accepted : ofText text requireFallback = .ok set)
    {l : WrittenRule} (member : l ∈ WrittenRule.ofText text) :
    ∃! all : Criteria × Assignments, Effective (WrittenRule.ofText text) l all.1 all.2 := by
  obtain ⟨draft, follows, -⟩ := exists_follows_of_ofText accepted
  obtain ⟨criteria, policies, effective, -⟩ := follows.complete l member
  refine ⟨(criteria, policies), effective, fun other effective' => ?_⟩
  obtain ⟨sameCriteria, samePolicies⟩ :=
    effective'.unique (pairwise_line_ofLines 1 (splitLines text.toList)) effective
  exact Prod.ext sameCriteria samePolicies

/-- The rules of a text are its rule lines that give a policy. -/
theorem mem_rules_iff (accepted : ofText text requireFallback = .ok set) {rule : Rule} :
    rule ∈ set.rules ↔ ∃ l ∈ WrittenRule.ofText text, rule.line = l.line ∧
      Effective (WrittenRule.ofText text) l rule.criteria rule.policies ∧
      ∃ type, (rule.policies type).isSome = true := by
  obtain ⟨draft, follows, rules⟩ := exists_follows_of_ofText accepted
  simp only [← rules, ← Assignments.isEmpty_eq_false_iff]
  constructor
  · exact follows.sound rule
  · rintro ⟨l, member, same, effective, gives⟩
    obtain ⟨criteria, policies, effective', kept⟩ := follows.complete l member
    obtain ⟨rfl, rfl⟩ :=
      effective.unique (pairwise_line_ofLines 1 (splitLines text.toList)) effective'
    have kept := kept gives
    rwa [← same] at kept

/-- **Inheritance.** The rule lines of a text are those that look like rules. If the text is
accepted every one of them has determined criteria and policies: those of its parent, the last rule
line above it that is indented less, overridden by its own in each dimension and for each kind of
policy. The rules of the text are the rule lines that give a policy, in the order of their lines. -/
theorem rules_inherit_from_parents (accepted : ofText text requireFallback = .ok set) :
    (∀ l, l ∈ WrittenRule.ofText text ↔ ∃ k read, l.line = k + 1 ∧
        (splitLines text.toList)[k]? = some read ∧
        RuleLine.OfKind read (.rule l.indent l.criteria l.policies)) ∧
      (∀ l ∈ WrittenRule.ofText text, ∃! all : Criteria × Assignments,
        Effective (WrittenRule.ofText text) l all.1 all.2) ∧
      (∀ rule, rule ∈ set.rules ↔ ∃ l ∈ WrittenRule.ofText text, rule.line = l.line ∧
        Effective (WrittenRule.ofText text) l rule.criteria rule.policies ∧
        ∃ type, (rule.policies type).isSome = true) ∧
      set.rules.Pairwise (·.line < ·.line) :=
  ⟨fun _ => mem_ofText_iff, fun _ member => existsUnique_effective accepted member,
    fun _ => mem_rules_iff accepted, (inLineOrder_of_ofText accepted).1⟩

/-- Rules at four depths, with a dedent to a depth that no line above has, a parent without
policies, and a fallback between. The third line has another material type and another request
policy than the second one, in which it is nested. -/
def staircase : String :=
  "g u\n   m b: l a r p\n     m c + t y: r q\nfallback-policy: l f\n  t x # c\n   m d: r q"

/-- The values that a rule names for each dimension. -/
def namedValues (rule : Rule) : List (Option (List String)) :=
  Dimension.all.map fun d => (rule.criteria d).map (·.values)

/-- The third line keeps the patron group of the first one and the loan policy of the second one.
The last one has the loan type of the line before, and nothing of the second and the third. -/
theorem staircase_rules_inherit : ∃ set, ofText staircase false = .ok set ∧
    set.rules.map (·.line) = [2, 3, 6] ∧
    set.rules.map namedValues =
      [[some ["b"], none, some ["u"], none, none, none, none],
        [some ["c"], some ["y"], some ["u"], none, none, none, none],
        [some ["d"], some ["x"], some ["u"], none, none, none, none]] ∧
    set.rules.map (fun rule => PolicyType.all.map rule.policies) =
      [[some "a", some "p", none, none, none], [some "a", some "q", none, none, none],
        [none, some "q", none, none, none]] ∧
    ∀ rule ∈ set.rules, ∃ l ∈ WrittenRule.ofText staircase, rule.line = l.line ∧
      Effective (WrittenRule.ofText staircase) l rule.criteria rule.policies := by
  have lines : (ofText staircase false).toOption.map (fun set : RuleSet =>
      set.rules.map (·.line)) = some [2, 3, 6] := by decide +kernel
  have criteria : (ofText staircase false).toOption.map (fun set : RuleSet =>
      set.rules.map namedValues) =
        some [[some ["b"], none, some ["u"], none, none, none, none],
          [some ["c"], some ["y"], some ["u"], none, none, none, none],
          [some ["d"], some ["x"], some ["u"], none, none, none, none]] := by decide +kernel
  have policies : (ofText staircase false).toOption.map (fun set : RuleSet =>
      set.rules.map fun rule => PolicyType.all.map rule.policies) =
        some [[some "a", some "p", none, none, none], [some "a", some "q", none, none, none],
          [none, some "q", none, none, none]] := by decide +kernel
  cases accepted : ofText staircase false with
  | error cause => simp [accepted, Except.toOption] at lines
  | ok set =>
    rw [accepted] at lines criteria policies
    obtain ⟨-, -, inherits, -⟩ := rules_inherit_from_parents accepted
    refine ⟨set, rfl, Option.some.inj lines, Option.some.inj criteria, Option.some.inj policies,
      fun rule member => ?_⟩
    obtain ⟨l, written, same, effective, -⟩ := (inherits rule).mp member
    exact ⟨l, written, same, effective⟩

end RuleSet

end Lending
