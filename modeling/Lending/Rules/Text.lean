import Lending.Rules.Line
import Lending.Rules.Match

/-!
# Rule texts

A rule text is read line by line. A rule inherits the criteria and the policies of the nearest line
above it that is indented less; rules that give no policy, themselves or by inheritance, only hand
their criteria on. The ranking and the fallback are declared at most once, in any place.

## Main definitions

* `Scope`, `Draft` — the lines that a rule may inherit from, and a rule set while it is read
* `Draft.addLine` — reading one more line
* `RuleSet.ofText` — the rule set of a text
-/

namespace Lending

open RuleTextError (Cause)

/-- A rule line that later lines may inherit from, with all that it has itself inherited. -/
structure Scope where
  indent : Nat
  criteria : Criteria
  policies : Assignments

namespace Scope

/-- The scopes that are open for a line with an indentation: those indented less. The innermost
scope comes first. -/
def openFor (scopes : List Scope) (indent : Nat) : List Scope :=
  scopes.dropWhile (indent ≤ ·.indent)

/-- The criteria that the innermost scope hands on. -/
def inheritedCriteria : List Scope → Criteria
  | [] => .none
  | scope :: _ => scope.criteria

/-- The policies that the innermost scope hands on. -/
def inheritedPolicies : List Scope → Assignments
  | [] => .none
  | scope :: _ => scope.policies

end Scope

/-- A rule set while its text is read. -/
structure Draft where
  rules : List Rule := []
  fallback : Option Rule := none
  ranking : Option Ranking := none
  scopes : List Scope := []

namespace Draft

/-- The draft with one more rule line. -/
def addRule (draft : Draft) (line indent : Nat) (criteria policies : List Char) :
    Except Cause Draft := do
  let scopes := Scope.openFor draft.scopes indent
  let criteria := (Scope.inheritedCriteria scopes).overriddenBy (← parseCriteria criteria)
  let policies := (Scope.inheritedPolicies scopes).overriddenBy (← parsePolicies policies)
  let rule : Rule := { criteria, policies, line }
  let rules := if policies.isEmpty then draft.rules else draft.rules ++ [rule]
  return { draft with rules, scopes := ⟨indent, criteria, policies⟩ :: scopes }

/-- The draft with one more line. -/
def addLine (draft : Draft) (line : Nat) (text : List Char) : Except Cause Draft := do
  match ← RuleLine.ofText text with
  | .blank => return draft
  | .priority indented body =>
    if indented then throw .indentedPriority
    if draft.ranking.isSome then throw .repeatedPriority
    return { draft with ranking := some (← parsePriority body) }
  | .fallback indented body =>
    if indented then throw .indentedFallback
    if draft.fallback.isSome then throw .repeatedFallback
    return { draft with
      fallback := some { criteria := .none, policies := ← parsePolicies body, line } }
  | .rule indent criteria policies => draft.addRule line indent criteria policies

/-- The draft with the lines from number `line` on. -/
def addLines (draft : Draft) (line : Nat) : List (List Char) → Except RuleTextError Draft
  | [] => .ok draft
  | text :: rest =>
    match draft.addLine line text with
    | .error cause => .error ⟨cause, some line⟩
    | .ok draft => draft.addLines (line + 1) rest

/-- What a required fallback lacks. -/
def checkFallback (draft : Draft) : Except RuleTextError Unit :=
  match draft.fallback with
  | none => .error ⟨.missingFallback, none⟩
  | some fallback =>
    if fallback.policies.missing.isEmpty then .ok ()
    else .error ⟨.incompleteFallback fallback.policies.missing, some fallback.line⟩

/-- The rule set that was read. -/
def finish (draft : Draft) : RuleSet :=
  { rules := draft.rules, fallback := draft.fallback, ranking := draft.ranking.getD {} }

end Draft

/-- The rule set of a text, whose fallback has to assign every kind of policy if
`requireFallback`. -/
def RuleSet.ofText (text : String) (requireFallback : Bool) : Except RuleTextError RuleSet := do
  let draft ← Draft.addLines {} 1 (splitLines text.toList)
  if requireFallback then draft.checkFallback
  return draft.finish

end Lending
