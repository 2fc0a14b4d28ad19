import Lending.Proofs.Rules.Reading
import Lending.Rules.Match
import Mathlib.Data.Fintype.Basic
import Mathlib.Data.Finset.Card
import Mathlib.Data.List.Nodup

/-!
# Precedence among matching rules

A matcher ranks rules by lists of numbers. Here the ranking is said without them: the keys of a
rule set are compared in turn, and the first one that tells two rules apart decides. Rules of one
text stand on different lines and every ranking compares lines at some point, so of two rules of a
text one always precedes the other, and the ranked list depends on nothing but the rules.

## Main definitions

* `Rule.constrained` — the dimensions that a rule constrains
* `FirstDecides` — the first element of a list at which two things differ
* `PriorityKey.Prefers` — what a key alone says of two rules
* `Ranking.Precedes` — what all keys in turn say of them
* `RuleSet.Ranks` — what it means that a matcher ranks the rules of a set

## Main results

* `Ranking.precedes_iff` — precedence is a higher standing
* `Ranking.precedes_or_precedes` — of two rules on different lines one precedes the other
* `Rulebook.pairwise_matching` — the matching rules are strictly descending
* `Rulebook.matching_eq_of_perm` — the order in which rules are stored does not matter
* `RuleSet.ranks_of_ofText` — the rules of every accepted text are ranked
-/

namespace Lending

/-! ## Constrained dimensions -/

instance : Fintype Dimension where
  elems := ⟨Dimension.all, by decide⟩
  complete := Dimension.mem_all

namespace Rule

/-- The dimensions that a rule constrains. -/
def constrained (rule : Rule) : Finset Dimension :=
  Finset.univ.filter fun d => (rule.criteria d).isSome = true

variable {rule : Rule} {d : Dimension}

theorem constrains_eq_decide (rule : Rule) (d : Dimension) :
    rule.constrains d = decide (d ∈ rule.constrained) := by
  simp [constrains, constrained]

/-- The specificity of a rule is the number of dimensions that it constrains. -/
theorem specificity_eq_card (rule : Rule) : rule.specificity = rule.constrained.card := by
  simp only [specificity, Criteria.specificity, List.countP_eq_length_filter, constrained]
  exact congrArg List.length (List.filter_congr fun d _ => Bool.decide_eq_true.symm)

theorem assigns_eq_true_iff {type : PolicyType} :
    rule.assigns type = true ↔ ∃ id, rule.policies type = some id :=
  Option.isSome_iff_exists

theorem matches_iff {request : Circumstances} :
    rule.Matches request ↔
      ∀ d constraint, rule.criteria d = some constraint → constraint.Accepts (request d) :=
  ⟨fun matched d => matched d d.mem_all, fun matched d _ => matched d⟩

end Rule

/-! ## The first difference -/

section FirstDecides

variable {α : Type} {alike decides : α → Prop} {x : α} {l : List α}

/-- The first element of a list at which two things are not alike decides about them. -/
def FirstDecides (alike decides : α → Prop) (l : List α) : Prop :=
  ∃ before x after, l = before ++ x :: after ∧ (∀ y ∈ before, alike y) ∧ decides x

@[simp] theorem not_firstDecides_nil : ¬ FirstDecides alike decides ([] : List α) := by
  rintro ⟨before, x, after, split, -⟩
  simp at split

theorem firstDecides_cons_iff :
    FirstDecides alike decides (x :: l) ↔ decides x ∨ alike x ∧ FirstDecides alike decides l := by
  constructor
  · rintro ⟨before, y, after, split, same, decided⟩
    cases before with
    | nil =>
      obtain ⟨rfl, rfl⟩ := List.cons.inj split
      exact .inl decided
    | cons z before =>
      obtain ⟨rfl, rfl⟩ := List.cons.inj split
      obtain ⟨first, rest⟩ := List.forall_mem_cons.mp same
      exact .inr ⟨first, before, y, after, rfl, rest, decided⟩
  · rintro (decided | ⟨first, before, y, after, rfl, rest, decided⟩)
    · exact ⟨[], x, l, rfl, by simp, decided⟩
    · exact ⟨x :: before, y, after, rfl, List.forall_mem_cons.mpr ⟨first, rest⟩, decided⟩

end FirstDecides

/-! ## Standings -/

/-- Of two joined standings the front parts decide unless they are the same. -/
theorem atLeastAsHigh_append {a b c d : List Int} (same : a.length = b.length) :
    atLeastAsHigh (a ++ c) (b ++ d) = if a = b then atLeastAsHigh c d else atLeastAsHigh a b := by
  induction a generalizing b with
  | nil =>
    obtain rfl := List.length_eq_zero_iff.mp same.symm
    simp
  | cons x a ih =>
    cases b with
    | nil => simp at same
    | cons y b =>
      by_cases h : x = y
      · simp [atLeastAsHigh, h, ih (Nat.succ.inj same)]
      · simp [atLeastAsHigh, h]

namespace PriorityKey

variable (key : PriorityKey) (order : List Dimension) (tieBreak : TieBreak) (a b : Rule)

/-- Whether a key alone puts one rule before another: by the number of constrained dimensions, by
the first dimension of the order that only one of the two constrains, or by their lines. -/
def Prefers : Prop :=
  match key with
  | .numberOfCriteria => b.constrained.card < a.constrained.card
  | .criterium =>
    FirstDecides (fun d => d ∈ a.constrained ↔ d ∈ b.constrained)
      (fun d => d ∈ a.constrained ∧ d ∉ b.constrained) order
  | .line =>
    match tieBreak with
    | .lastWins => b.line < a.line
    | .firstWins => a.line < b.line

theorem length_standing :
    (key.standing order tieBreak a).length = (key.standing order tieBreak b).length := by
  cases key with
  | numberOfCriteria => rfl
  | criterium => simp [standing]
  | line => cases tieBreak <;> rfl

/-- A key prefers the rule that has the higher standing by it. -/
theorem prefers_iff :
    key.Prefers order tieBreak a b ↔
      atLeastAsHigh (key.standing order tieBreak b) (key.standing order tieBreak a) = false := by
  cases key with
  | numberOfCriteria =>
    simp only [Prefers, standing, atLeastAsHigh, Rule.specificity_eq_card]
    split <;> simp <;> omega
  | criterium =>
    simp only [Prefers, standing, Rule.constrains_eq_decide, decide_eq_true_eq]
    induction order with
    | nil => simp [atLeastAsHigh]
    | cons d order ih =>
      rw [firstDecides_cons_iff, ih]
      -- a constrained dimension stands as one and an open one as zero
      by_cases ha : d ∈ a.constrained <;> by_cases hb : d ∈ b.constrained <;>
        simp [atLeastAsHigh, ha, hb]
  | line =>
    cases tieBreak <;> simp only [Prefers, standing, atLeastAsHigh] <;> split <;> simp <;> omega

/-- Rules that a key does not tell apart have the same standing by it. -/
theorem not_prefers_iff :
    ¬ key.Prefers order tieBreak a b ∧ ¬ key.Prefers order tieBreak b a ↔
      key.standing order tieBreak a = key.standing order tieBreak b := by
  simp only [prefers_iff, Bool.not_eq_false]
  constructor
  · rintro ⟨below, above⟩
    exact eq_of_atLeastAsHigh above below
  · intro same
    simp [same, atLeastAsHigh_refl]

end PriorityKey

namespace Ranking

variable {ranking : Ranking} {tieBreak : TieBreak} {a b : Rule}

/-- Whether one rule goes before another: the keys are compared in turn, and the first one that
prefers one of the two decides. -/
def Precedes (ranking : Ranking) (tieBreak : TieBreak) (a b : Rule) : Prop :=
  FirstDecides
    (fun key => ¬ key.Prefers ranking.order tieBreak a b ∧ ¬ key.Prefers ranking.order tieBreak b a)
    (fun key => key.Prefers ranking.order tieBreak a b) ranking.keys

/-- The rule that goes before another has the higher standing. -/
theorem precedes_iff :
    ranking.Precedes tieBreak a b ↔
      atLeastAsHigh (ranking.rank tieBreak b) (ranking.rank tieBreak a) = false := by
  unfold Precedes rank
  -- the standings by the single keys have fixed lengths, so they are compared key by key
  induction ranking.keys with
  | nil => simp [atLeastAsHigh]
  | cons key keys ih =>
    rw [firstDecides_cons_iff, ih, PriorityKey.not_prefers_iff, PriorityKey.prefers_iff,
      List.flatMap_cons, List.flatMap_cons,
      atLeastAsHigh_append (key.length_standing ranking.order tieBreak b a)]
    by_cases same : key.standing ranking.order tieBreak b = key.standing ranking.order tieBreak a
    · simp [same, atLeastAsHigh_refl]
    · have other :
          ¬ key.standing ranking.order tieBreak a = key.standing ranking.order tieBreak b :=
        fun e => same e.symm
      simp [same, other]

theorem Precedes.asymm (h : ranking.Precedes tieBreak a b) : ¬ ranking.Precedes tieBreak b a := by
  rw [precedes_iff] at h ⊢
  have := atLeastAsHigh_total (ranking.rank tieBreak a) (ranking.rank tieBreak b)
  simp_all

/-- Strictly descending lists of the same rules are the same. -/
theorem eq_of_perm_of_pairwise {l l' : List Rule} (same : l.Perm l')
    (descending : l.Pairwise (ranking.Precedes tieBreak))
    (descending' : l'.Pairwise (ranking.Precedes tieBreak)) : l = l' :=
  List.Perm.eq_of_pairwise (fun _ _ _ _ first second => absurd second first.asymm) descending
    descending' same

/-- Rules with the same standing have the same standing by every key. -/
theorem standing_eq_of_rank_eq (same : ranking.rank tieBreak a = ranking.rank tieBreak b)
    {key : PriorityKey} (member : key ∈ ranking.keys) :
    key.standing ranking.order tieBreak a = key.standing ranking.order tieBreak b := by
  unfold rank at same
  generalize ranking.keys = keys at same member
  induction keys with
  | nil => simp at member
  | cons first keys ih =>
    rw [List.flatMap_cons, List.flatMap_cons] at same
    obtain ⟨here, rest⟩ :=
      List.append_inj same (first.length_standing ranking.order tieBreak a b)
    rcases List.mem_cons.mp member with rfl | later
    · exact here
    · exact ih rest later

/-- Of two rules on different lines one goes before the other, if lines are compared at all. -/
theorem precedes_or_precedes (compared : .line ∈ ranking.keys) (apart : a.line ≠ b.line) :
    ranking.Precedes tieBreak a b ∨ ranking.Precedes tieBreak b a := by
  by_contra neither
  simp only [precedes_iff, not_or, Bool.not_eq_false] at neither
  have same := standing_eq_of_rank_eq (eq_of_atLeastAsHigh neither.2 neither.1) compared
  apply apart
  cases tieBreak <;> simp only [PriorityKey.standing, List.cons.injEq, and_true] at same <;> omega

end Ranking

/-! ## Ranked lists -/

namespace Rulebook

open Ranking

variable (book : Rulebook) {request : Circumstances} {type : PolicyType}

theorem goesBefore_eq_true_iff {a b : Rule} :
    book.goesBefore a b = true ↔ ¬ book.set.ranking.Precedes book.tieBreak b a := by
  rw [precedes_iff, Bool.not_eq_false, goesBefore]

theorem pairwise_line_matching (apart : book.set.rules.Pairwise (·.line ≠ ·.line)) :
    (book.matching request type).Pairwise (·.line ≠ ·.line) :=
  (List.mergeSort_perm _ _).symm.pairwise (apart.filter _) Ne.symm

/-- Matching rules on different lines are strictly descending, if lines are compared at all. -/
theorem pairwise_matching (compared : .line ∈ book.set.ranking.keys)
    (apart : book.set.rules.Pairwise (·.line ≠ ·.line)) :
    (book.matching request type).Pairwise (book.set.ranking.Precedes book.tieBreak) := by
  have descending : (book.matching request type).Pairwise (book.goesBefore · · = true) := by
    apply List.pairwise_mergeSort
    · intro a b c first second
      exact atLeastAsHigh_trans first second
    · intro a b
      exact atLeastAsHigh_total _ _
  refine descending.imp₂ (fun a b first second => ?_) (pairwise_line_matching book apart)
  -- sorting gives "not after"; on different lines that is "before"
  have notAfter := (goesBefore_eq_true_iff book).mp first
  exact (precedes_or_precedes compared second).resolve_right notAfter

/-- The order in which the rules of a set are stored does not matter for the ranking. -/
theorem matching_eq_of_perm {rules : List Rule} (compared : .line ∈ book.set.ranking.keys)
    (apart : book.set.rules.Pairwise (·.line ≠ ·.line)) (stored : rules.Perm book.set.rules) :
    ({ book with set := { book.set with rules } } : Rulebook).matching request type =
      book.matching request type := by
  -- both lists are strictly descending and have the same members
  have same : List.Perm (({ book with set := { book.set with rules } } : Rulebook).matching
      request type) (book.matching request type) :=
    (List.mergeSort_perm _ _).trans ((stored.filter _).trans (List.mergeSort_perm _ _).symm)
  refine eq_of_perm_of_pairwise same ?_ (pairwise_matching book compared apart)
  exact pairwise_matching { book with set := { book.set with rules } } compared
    (stored.symm.pairwise apart Ne.symm)

/-- The first matching rule answers. -/
theorem select_of_matching {winner : Rule} {rest : List Rule}
    (best : book.matching request type = winner :: rest) :
    ∃ id, winner.policies type = some id ∧ book.select request type =
      .ok { type, policyId := id, rule := winner, isFallback := false } := by
  have assigns : winner.assigns type = true := by
    have member : winner ∈ book.matching request type := by simp [best]
    exact (mem_matching.mp member).2.1
  obtain ⟨id, given⟩ := Option.isSome_iff_exists.mp assigns
  exact ⟨id, given, by simp [select, best, Rule.answer?, given]⟩

end Rulebook

/-! ## Texts -/

namespace RuleSet

open Ranking

variable {text : String} {requireFallback : Bool} {set : RuleSet}

theorem pairwise_apart_of_ofText (accepted : ofText text requireFallback = .ok set) :
    set.withFallback.Pairwise (·.line ≠ ·.line) := by
  obtain ⟨ordered, apart⟩ := inLineOrder_of_ofText accepted
  refine List.pairwise_append.mpr ⟨ordered.imp Nat.ne_of_lt, ?_, ?_⟩
  · cases set.fallback <;> simp
  · intro rule member fallback declared
    exact apart rule member fallback (Option.mem_toList.mp declared)

/-- What it means that the rules of a set are ranked for a request for a kind of policy, when a
matcher is given a tie break or none. -/
structure Ranks (set : RuleSet) (tieBreak : Option TieBreak) (request : Circumstances)
    (type : PolicyType) : Prop where
  /-- The tie break in force is the one given, or else the one declared, or else later lines win. -/
  inForce : (Rulebook.ofRules set tieBreak).tieBreak =
    match tieBreak, set.ranking.tieBreak with
    | some given, _ => given
    | none, some declared => declared
    | none, none => .lastWins
  /-- The rules that assign the kind of policy and match the request are listed: where they
  constrain a dimension its value is one of those that they name, or none of those they refuse. -/
  members : ∀ rule, rule ∈ (Rulebook.ofRules set tieBreak).matching request type ↔
    rule ∈ set.rules ∧ (∃ id, rule.policies type = some id) ∧
      ∀ d constraint, rule.criteria d = some constraint →
        ((∃ value ∈ constraint.values, request d = some value) ↔ constraint.negated = false)
  /-- They are listed once each. -/
  nodup : ((Rulebook.ofRules set tieBreak).matching request type).Nodup
  /-- Every rule of the list goes before all later ones. -/
  descending : ((Rulebook.ofRules set tieBreak).matching request type).Pairwise
    (set.ranking.Precedes (Rulebook.ofRules set tieBreak).tieBreak)
  /-- No rule goes before one that goes before it. -/
  asymm : ∀ a b, set.ranking.Precedes (Rulebook.ofRules set tieBreak).tieBreak a b →
    ¬ set.ranking.Precedes (Rulebook.ofRules set tieBreak).tieBreak b a
  /-- No two rules, the fallback among them, are equal. -/
  apart : set.withFallback.Pairwise fun a b =>
    set.ranking.Precedes (Rulebook.ofRules set tieBreak).tieBreak a b ∨
      set.ranking.Precedes (Rulebook.ofRules set tieBreak).tieBreak b a
  /-- The order in which the rules are stored does not matter. -/
  stored : ∀ rules, rules.Perm set.rules →
    (Rulebook.ofRules { set with rules } tieBreak).matching request type =
      (Rulebook.ofRules set tieBreak).matching request type
  /-- The first rule of the list answers. -/
  selects : ∀ winner rest,
    (Rulebook.ofRules set tieBreak).matching request type = winner :: rest →
      ∃ id, winner.policies type = some id ∧
        (Rulebook.ofRules set tieBreak).select request type =
          .ok { type, policyId := id, rule := winner, isFallback := false }

/-- **Ranking.** The matching rules of an accepted text are strictly ranked, whatever tie break the
matcher is given, for every request and every kind of policy. -/
theorem ranks_of_ofText (accepted : ofText text requireFallback = .ok set)
    (tieBreak : Option TieBreak) (request : Circumstances) (type : PolicyType) :
    set.Ranks tieBreak request type := by
  have compared := line_mem_keys_of_ofText accepted
  have apart := pairwise_apart_of_ofText accepted
  have rulesApart : set.rules.Pairwise (·.line ≠ ·.line) := (List.pairwise_append.mp apart).1
  have descending : ((Rulebook.ofRules set tieBreak).matching request type).Pairwise _ :=
    Rulebook.pairwise_matching _ compared rulesApart
  constructor
  case inForce =>
    cases tieBreak with
    | some given => rfl
    | none => cases declared : set.ranking.tieBreak <;> simp [Rulebook.ofRules, declared]
  case members => exact fun rule => Rulebook.mem_matching.trans (by
    rw [Rule.assigns_eq_true_iff, Rule.matches_iff]
    rfl)
  case nodup =>
    refine descending.imp fun {a b} first same => ?_
    subst same
    exact first.asymm first
  case descending => exact descending
  case asymm => exact fun a b => Precedes.asymm
  case apart => exact apart.imp (precedes_or_precedes compared)
  case stored =>
    exact fun rules stored =>
      Rulebook.matching_eq_of_perm (Rulebook.ofRules set tieBreak) compared rulesApart stored
  case selects => exact fun winner rest => Rulebook.select_of_matching _

/-- Four rules in the order of their ranks: the location goes before all else, then the number of
dimensions, then the lines. -/
def inRankOrder : String :=
  "priority: criterium(s), number-of-criteria, first-line\ns c: l x\nm b + g u: l y\nm b: l z\ng u: l w"

/-- A request that all four rules match. -/
def visit : Circumstances
  | .materialType => some "b"
  | .patronGroup => some "u"
  | .location => some "c"
  | _ => none

theorem inRankOrder_ranks : ∃ set, ofText inRankOrder false = .ok set ∧
    ((Rulebook.ofRules set none).matching visit .loan).map (·.line) = [2, 3, 4, 5] ∧
    set.Ranks none visit .loan := by
  -- the rules stand in the order of their ranks, so that sorting does not move them
  have stand : (ofText inRankOrder false).toOption.map (fun set : RuleSet =>
      let listed := set.rules.filter fun rule => rule.assigns .loan && decide (rule.Matches visit)
      (listed.map (·.line),
        decide (listed.Pairwise ((Rulebook.ofRules set none).goesBefore · · = true)))) =
      some ([2, 3, 4, 5], true) := by decide +kernel
  cases accepted : ofText inRankOrder false with
  | error cause => simp [accepted, Except.toOption] at stand
  | ok set =>
    rw [accepted] at stand
    obtain ⟨lines, descending⟩ := Prod.mk.inj (Option.some.inj stand)
    refine ⟨set, rfl, ?_, ranks_of_ofText accepted none visit .loan⟩
    rw [← lines, Rulebook.matching]
    exact congrArg _ (List.mergeSort_of_pairwise (of_decide_eq_true descending))

end RuleSet

end Lending
