import Lending.Failure

/-!
# Rules

A rule assigns policies to the requests that meet its criteria. Criteria constrain some of seven
dimensions of a request, each by a set of values; a dimension without a constraint is open to all.

## Main definitions

* `Dimension`, `Circumstances` — what a request is judged by, and its values
* `Constraint`, `Criteria` — what a rule asks of one dimension, and of all
* `PolicyType`, `Assignments` — the policies that a rule gives
* `Rule`, `Ranking`, `RuleSet` — rules and the order of precedence among them
-/

namespace Lending

/-! ## Requests -/

/-- What a request is judged by. -/
inductive Dimension
  | materialType | loanType | patronGroup | institution | campus | library | location
deriving DecidableEq, Repr

namespace Dimension

def all : List Dimension :=
  [materialType, loanType, patronGroup, institution, campus, library, location]

theorem mem_all (d : Dimension) : d ∈ all := by cases d <;> simp [all]

/-- The letter that stands for the dimension in rule texts. -/
def letter : Dimension → Char
  | materialType => 'm'
  | loanType => 't'
  | patronGroup => 'g'
  | institution => 'a'
  | campus => 'b'
  | library => 'c'
  | location => 's'

/-- The dimension of a word, which has to be its letter alone. -/
def ofWord? (word : List Char) : Option Dimension := all.find? fun d => word = [d.letter]

@[simp] theorem ofWord?_letter (d : Dimension) : ofWord? [d.letter] = some d := by
  cases d <;> rfl

/-- The name of the dimension in reports. -/
def parameterName : Dimension → String
  | materialType => "materialTypeId"
  | loanType => "loanTypeId"
  | patronGroup => "patronGroupId"
  | institution => "institutionId"
  | campus => "campusId"
  | library => "libraryId"
  | location => "locationId"

end Dimension

/-- The values of a request; a dimension may have none. -/
abbrev Circumstances := Dimension → Option String

/-- The values of a request as they are reported. -/
def Circumstances.parameters (request : Circumstances) : Parameters :=
  Dimension.all.map fun d => (d.parameterName, .ofId (request d))

/-! ## Criteria -/

/-- A set of values of a dimension that is accepted, or that is refused if `negated`. The values
are in ascending order, each once. -/
structure Constraint where
  values : List String
  negated : Bool
deriving DecidableEq, Repr

namespace Constraint

/-- A value added to an ascending list, unless it is there. -/
def insertValue (value : String) : List String → List String
  | [] => [value]
  | v :: vs =>
    if value < v then value :: v :: vs
    else if value = v then v :: vs
    else v :: insertValue value vs

/-- The constraint to, or against, the values of a list. -/
def ofList (values : List String) (negated : Bool) : Constraint :=
  ⟨values.foldr insertValue [], negated⟩

/-- Whether the constraint accepts a value. A missing value is in no set. -/
def Accepts (constraint : Constraint) (value : Option String) : Prop :=
  (∃ v ∈ constraint.values, value = some v) ↔ constraint.negated = false

instance (constraint : Constraint) (value : Option String) :
    Decidable (constraint.Accepts value) :=
  inferInstanceAs (Decidable (_ ↔ _))

@[simp] theorem mem_insertValue {v w : String} {vs : List String} :
    w ∈ insertValue v vs ↔ w = v ∨ w ∈ vs := by
  induction vs with
  | nil => simp [insertValue]
  | cons u us ih =>
    simp only [insertValue]
    split
    · simp
    · split
      · next e => subst e; simp
      · simp only [List.mem_cons, ih]
        constructor <;> rintro (h | h | h) <;> simp [h]

@[simp] theorem mem_values_ofList {w : String} {vs : List String} {negated : Bool} :
    w ∈ (ofList vs negated).values ↔ w ∈ vs := by
  induction vs with
  | nil => simp [ofList]
  | cons v vs ih =>
    simp only [ofList, List.foldr_cons, mem_insertValue, List.mem_cons] at ih ⊢
    rw [ih]

end Constraint

/-- What a rule asks of each dimension. -/
abbrev Criteria := Dimension → Option Constraint

namespace Criteria

/-- Nothing is asked. -/
def none : Criteria := fun _ => .none

/-- The number of dimensions that are constrained. -/
def specificity (criteria : Criteria) : Nat := Dimension.all.countP fun d => (criteria d).isSome

/-- Whether a request meets every constraint. -/
def Accepts (criteria : Criteria) (request : Circumstances) : Prop :=
  ∀ d ∈ Dimension.all, ∀ constraint ∈ criteria d, constraint.Accepts (request d)

instance (criteria : Criteria) (request : Circumstances) : Decidable (criteria.Accepts request) :=
  inferInstanceAs (Decidable (∀ d ∈ Dimension.all, _))

/-- The criteria with those of an inner rule in place of their own where there are any. -/
def overriddenBy (outer inner : Criteria) : Criteria := fun d => (inner d).or (outer d)

/-- The criteria with one dimension constrained. -/
def set (criteria : Criteria) (d : Dimension) (constraint : Constraint) : Criteria :=
  fun e => if e = d then some constraint else criteria e

end Criteria

/-! ## Policies -/

/-- The kinds of policies that rules assign. -/
inductive PolicyType | loan | request | notice | overdueFine | lostItemFee
deriving DecidableEq, Repr

namespace PolicyType

def all : List PolicyType := [loan, request, notice, overdueFine, lostItemFee]

theorem mem_all (t : PolicyType) : t ∈ all := by cases t <;> simp [all]

/-- The letter that stands for the kind in rule texts. -/
def letter : PolicyType → Char
  | loan => 'l'
  | request => 'r'
  | notice => 'n'
  | overdueFine => 'o'
  | lostItemFee => 'i'

/-- The kind of a word, which has to be its letter alone. -/
def ofWord? (word : List Char) : Option PolicyType := all.find? fun t => word = [t.letter]

@[simp] theorem ofWord?_letter (t : PolicyType) : ofWord? [t.letter] = some t := by
  cases t <;> rfl

/-- The kind in words. -/
def label : PolicyType → String
  | loan => "loan"
  | request => "request"
  | notice => "notice"
  | overdueFine => "overdue fine"
  | lostItemFee => "lost item fee"

end PolicyType

/-- The policies that a rule gives, by their ids. -/
abbrev Assignments := PolicyType → Option String

namespace Assignments

/-- No policy is given. -/
def none : Assignments := fun _ => .none

def isEmpty (policies : Assignments) : Bool := PolicyType.all.all fun t => (policies t).isNone

/-- The kinds of policies that are not given. -/
def missing (policies : Assignments) : List PolicyType :=
  PolicyType.all.filter fun t => (policies t).isNone

/-- The assignments with those of an inner rule in place of their own where there are any. -/
def overriddenBy (outer inner : Assignments) : Assignments := fun t => (inner t).or (outer t)

/-- The assignments with one kind of policy given. -/
def set (policies : Assignments) (t : PolicyType) (id : String) : Assignments :=
  fun u => if u = t then some id else policies u

end Assignments

/-! ## Rule sets -/

/-- Policies for the requests that meet criteria, from a line of a rule text. -/
structure Rule where
  criteria : Criteria
  policies : Assignments
  line : Nat

namespace Rule

/-- The number of dimensions that are constrained. -/
def specificity (rule : Rule) : Nat := rule.criteria.specificity

def constrains (rule : Rule) (d : Dimension) : Bool := (rule.criteria d).isSome

def assigns (rule : Rule) (t : PolicyType) : Bool := (rule.policies t).isSome

/-- Whether a request meets the rule's criteria. -/
def Matches (rule : Rule) (request : Circumstances) : Prop := rule.criteria.Accepts request

instance (rule : Rule) (request : Circumstances) : Decidable (rule.Matches request) :=
  inferInstanceAs (Decidable (rule.criteria.Accepts request))

end Rule

/-- Which of two equally specific rules wins. -/
inductive TieBreak | lastWins | firstWins
deriving DecidableEq, Repr

namespace TieBreak

def all : List TieBreak := [lastWins, firstWins]

def name : TieBreak → String
  | lastWins => "last-line"
  | firstWins => "first-line"

def named? (name : String) : Option TieBreak := all.find? (·.name = name)

@[simp] theorem named?_name (t : TieBreak) : named? t.name = some t := by cases t <;> rfl

end TieBreak

/-- What two matching rules are compared by. -/
inductive PriorityKey | numberOfCriteria | criterium | line
deriving DecidableEq, Repr

namespace PriorityKey

def name : PriorityKey → String
  | numberOfCriteria => "number-of-criteria"
  | criterium => "criterium"
  | line => "line"

end PriorityKey

/-- How matching rules are ranked: by the keys in turn, where `order` lists the dimensions from the
weightiest on, and `tieBreak` says which line wins unless it is left open. -/
structure Ranking where
  keys : List PriorityKey := [.numberOfCriteria, .line]
  order : List Dimension := []
  tieBreak : Option TieBreak := none
deriving DecidableEq, Repr

/-- Rules by line, a fallback for requests that no rule matches, and their ranking. -/
structure RuleSet where
  rules : List Rule := []
  fallback : Option Rule := none
  ranking : Ranking := {}

namespace RuleSet

/-- The rules with the fallback at their end. -/
def withFallback (set : RuleSet) : List Rule := set.rules ++ set.fallback.toList

end RuleSet

end Lending
