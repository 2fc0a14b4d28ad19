import Lending.Rules.Basic

/-!
# Matching rules

Of all rules that match a request and assign the wanted kind of policy the one that ranks highest
wins. The fallback answers when there is none.

## Main definitions

* `Ranking.rank` — the standing of a rule, compared from its first number on
* `Rulebook` — a rule set with the tie break in force
* `Rulebook.matching` — the rules that match, best first
* `Rulebook.select`, `Rulebook.selectAll` — the winning policy, of one kind or of all
-/

namespace Lending

/-! ## Ranking -/

/-- The numbers that a rule has for a key; a rule with greater numbers goes before. -/
def PriorityKey.standing (key : PriorityKey) (order : List Dimension) (tieBreak : TieBreak)
    (rule : Rule) : List Int :=
  match key with
  | .numberOfCriteria => [(rule.specificity : Int)]
  | .criterium => order.map fun d => if rule.constrains d then 1 else 0
  | .line =>
    match tieBreak with
    | .lastWins => [(rule.line : Int)]
    | .firstWins => [-(rule.line : Int)]

/-- The standing of a rule by all keys in turn. -/
def Ranking.rank (ranking : Ranking) (tieBreak : TieBreak) (rule : Rule) : List Int :=
  ranking.keys.flatMap (·.standing ranking.order tieBreak rule)

/-- Whether a standing is at least as high as another: the first difference decides. -/
def atLeastAsHigh : List Int → List Int → Bool
  | [], [] => true
  | [], _ :: _ => false
  | _ :: _, [] => true
  | a :: as, b :: bs => if a = b then atLeastAsHigh as bs else decide (b < a)

theorem atLeastAsHigh_refl (a : List Int) : atLeastAsHigh a a = true := by
  induction a with
  | nil => rfl
  | cons a as ih => simp [atLeastAsHigh, ih]

theorem atLeastAsHigh_total (a b : List Int) :
    (atLeastAsHigh a b || atLeastAsHigh b a) = true := by
  induction a generalizing b with
  | nil => cases b <;> rfl
  | cons x xs ih =>
    cases b with
    | nil => rfl
    | cons y ys =>
      by_cases h : x = y
      · subst h
        simpa [atLeastAsHigh] using ih ys
      · have h' : ¬ y = x := fun e => h e.symm
        simp only [atLeastAsHigh, h, h', if_false, Bool.or_eq_true, decide_eq_true_eq]
        omega

theorem atLeastAsHigh_trans {a b c : List Int} (hab : atLeastAsHigh a b = true)
    (hbc : atLeastAsHigh b c = true) : atLeastAsHigh a c = true := by
  induction a generalizing b c with
  | nil =>
    cases b with
    | nil => exact hbc
    | cons y ys => simp [atLeastAsHigh] at hab
  | cons x xs ih =>
    cases c with
    | nil => rfl
    | cons z zs =>
      cases b with
      | nil => simp [atLeastAsHigh] at hbc
      | cons y ys =>
        simp only [atLeastAsHigh] at hab hbc ⊢
        by_cases hxy : x = y
        · subst hxy
          by_cases hxz : x = z
          · simp only [hxz, if_true] at hab hbc ⊢
            exact ih hab hbc
          · simpa [hxz] using hbc
        · by_cases hyz : y = z
          · subst hyz
            simpa [hxy] using hab
          · simp only [hxy, hyz, if_false, decide_eq_true_eq] at hab hbc
            have hxz : ¬ x = z := by omega
            simp only [hxz, if_false, decide_eq_true_eq]
            omega

/-- Two standings that are each at least as high as the other are the same. -/
theorem eq_of_atLeastAsHigh {a b : List Int} (hab : atLeastAsHigh a b = true)
    (hba : atLeastAsHigh b a = true) : a = b := by
  induction a generalizing b with
  | nil =>
    cases b with
    | nil => rfl
    | cons y ys => simp [atLeastAsHigh] at hab
  | cons x xs ih =>
    cases b with
    | nil => simp [atLeastAsHigh] at hba
    | cons y ys =>
      by_cases h : x = y
      · subst h
        simp only [atLeastAsHigh, if_true] at hab hba
        rw [ih hab hba]
      · have h' : ¬ y = x := fun e => h e.symm
        simp only [atLeastAsHigh, h, h', if_false, decide_eq_true_eq] at hab hba
        omega

/-! ## Selection -/

/-- A policy that was selected, with the line of the rule that gave it. -/
structure RuleMatch where
  type : PolicyType
  policyId : String
  rule : Rule
  isFallback : Bool

namespace RuleMatch

/-- The line of the rule that gave the policy. -/
def line (result : RuleMatch) : Nat := result.rule.line

/-- Whether the rule relied on a dimension. -/
def reliedOn (result : RuleMatch) (d : Dimension) : Bool := result.rule.constrains d

end RuleMatch

/-- What a rule answers to a request for a kind of policy. -/
def Rule.answer? (rule : Rule) (type : PolicyType) (isFallback : Bool) : Option RuleMatch :=
  (rule.policies type).map fun id => { type, policyId := id, rule, isFallback }

/-- A rule set with the tie break in force. -/
structure Rulebook where
  set : RuleSet := {}
  tieBreak : TieBreak := .lastWins

namespace Rulebook

/-- The rule set under a tie break, or else under the one that the rule text declares, or else with
later lines before earlier ones. -/
def ofRules (set : RuleSet) (tieBreak : Option TieBreak) : Rulebook :=
  { set, tieBreak := (tieBreak.or set.ranking.tieBreak).getD .lastWins }

/-- Whether one rule goes before another or has the same standing. -/
def goesBefore (book : Rulebook) (a b : Rule) : Bool :=
  atLeastAsHigh (book.set.ranking.rank book.tieBreak a) (book.set.ranking.rank book.tieBreak b)

/-- The rules other than the fallback that match a request and assign a kind of policy, best
first. -/
def matching (book : Rulebook) (request : Circumstances) (type : PolicyType) : List Rule :=
  (book.set.rules.filter fun rule => rule.assigns type && decide (rule.Matches request)).mergeSort
    book.goesBefore

/-- The matching rules are the rules that assign the kind of policy and match the request. -/
theorem mem_matching {book : Rulebook} {request : Circumstances} {type : PolicyType} {rule : Rule} :
    rule ∈ book.matching request type ↔
      rule ∈ book.set.rules ∧ rule.assigns type = true ∧ rule.Matches request := by
  simp [matching]

/-- The policy for a request. -/
def select (book : Rulebook) (request : Circumstances) (type : PolicyType) : Outcome RuleMatch :=
  let answer := match book.matching request type with
    | winner :: _ => winner.answer? type false
    | [] => book.set.fallback.bind (·.answer? type true)
  match answer with
  | some found => .ok found
  | none => .error (.noApplicableRule type.label (Circumstances.parameters request))

/-- The policies of all kinds for a request. -/
def selectAll (book : Rulebook) (request : Circumstances) : Outcome (List RuleMatch) :=
  PolicyType.all.mapM (book.select request)

end Rulebook

end Lending
