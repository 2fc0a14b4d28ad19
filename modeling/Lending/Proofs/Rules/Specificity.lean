import Lending.Proofs.Rules.Precedence
import Lending.Proofs.Rules.Selection

/-!
# More specific rules

A rule that constrains all dimensions that another one constrains, and perhaps more, never ranks
lower than the other by anything but its line: it has at least as many dimensions, and at the first
dimension of an order that only one of the two constrains it is the one that does. So whatever a
rule goes before still comes after it when it is made more specific, in whatever order the keys of
the ranking are compared.

## Main definitions

* `Rule.IsAsSpecificAs` — a rule that constrains all that another one constrains
* `Rulebook.storing` — a rulebook with other rules

## Main results

* `Ranking.not_precedes_of_isAsSpecificAs` — a less specific rule goes first only by its line
* `Rulebook.pair_sublist_matching_iff` — how two matching rules stand in the ranked list
* `Rulebook.narrowed_stays_ahead` — a rule that is made more specific does not fall back
-/

namespace Lending

/-! ## Comparing specificity -/

/-- A rule that constrains at least the dimensions that another one constrains. -/
def Rule.IsAsSpecificAs (a b : Rule) : Prop := ∀ d, b.constrains d = true → a.constrains d = true

theorem Rule.IsAsSpecificAs.trans {a b c : Rule} (first : a.IsAsSpecificAs b)
    (second : b.IsAsSpecificAs c) : a.IsAsSpecificAs c :=
  fun d constrained => first d (second d constrained)

theorem Rule.isAsSpecificAs_iff {a b : Rule} :
    a.IsAsSpecificAs b ↔ b.constrained ⊆ a.constrained := by
  simp only [IsAsSpecificAs, constrains_eq_decide, decide_eq_true_eq, Finset.subset_iff]

/-- A key does not prefer the less specific of two rules, unless it is for its line. -/
theorem PriorityKey.not_prefers_of_isAsSpecificAs {key : PriorityKey} {order : List Dimension}
    {tieBreak : TieBreak} {a b : Rule} (specific : a.IsAsSpecificAs b)
    (lines : ¬ PriorityKey.line.Prefers order tieBreak b a) :
    ¬ key.Prefers order tieBreak b a := by
  rw [Rule.isAsSpecificAs_iff] at specific
  cases key with
  | numberOfCriteria => exact Nat.not_lt.mpr (Finset.card_le_card specific)
  | criterium =>
    rintro ⟨before, d, after, -, -, constrained, unconstrained⟩
    exact unconstrained (specific constrained)
  | line => exact lines

namespace Ranking

variable {ranking : Ranking} {tieBreak : TieBreak} {a b c : Rule}

/-- The less specific of two rules does not go before the other, unless it is for its line. -/
theorem not_precedes_of_isAsSpecificAs (specific : a.IsAsSpecificAs b)
    (lines : ¬ PriorityKey.line.Prefers ranking.order tieBreak b a) :
    ¬ ranking.Precedes tieBreak b a := by
  rintro ⟨before, key, after, -, -, prefers⟩
  exact PriorityKey.not_prefers_of_isAsSpecificAs specific lines prefers

/-- A rule that another one does not go before goes before all that the other goes before. -/
theorem Precedes.of_not_precedes (h : ranking.Precedes tieBreak b c)
    (notAfter : ¬ ranking.Precedes tieBreak b a) : ranking.Precedes tieBreak a c := by
  rw [precedes_iff, Bool.not_eq_false] at notAfter
  rw [precedes_iff] at h ⊢
  by_contra other
  rw [Bool.not_eq_false] at other
  rw [atLeastAsHigh_trans other notAfter] at h
  cases h

end Ranking

/-! ## Places in the ranked list -/

/-- Two members of a descending list stand in it in their order. -/
theorem pair_sublist_of_pairwise {α : Type} {R : α → α → Prop} {l : List α} {a b : α}
    (descending : l.Pairwise R) (asymm : ∀ x y, R x y → ¬ R y x) (ha : a ∈ l) (hb : b ∈ l)
    (above : R a b) : [a, b].Sublist l := by
  induction l with
  | nil => simp at ha
  | cons x l ih =>
    obtain ⟨first, rest⟩ := List.pairwise_cons.mp descending
    rcases List.mem_cons.mp ha with rfl | laterA
    · rcases List.mem_cons.mp hb with rfl | laterB
      · exact absurd above (asymm _ _ above)
      · exact (List.singleton_sublist.mpr laterB).cons_cons _
    · rcases List.mem_cons.mp hb with rfl | laterB
      · exact absurd above (asymm _ _ (first a laterA))
      · exact (ih rest laterA laterB).cons _

namespace Rulebook

open Ranking

variable {book : Rulebook} {request : Circumstances} {type : PolicyType}

/-- One rule stands before another in the ranked list exactly if both match and it goes first. -/
theorem pair_sublist_matching_iff (compared : .line ∈ book.set.ranking.keys)
    (apart : book.set.rules.Pairwise (·.line ≠ ·.line)) {a b : Rule} :
    [a, b].Sublist (book.matching request type) ↔
      a ∈ book.matching request type ∧ b ∈ book.matching request type ∧
        book.set.ranking.Precedes book.tieBreak a b := by
  have descending : (book.matching request type).Pairwise _ :=
    pairwise_matching book compared apart
  constructor
  · intro stands
    exact ⟨stands.subset (by simp), stands.subset (by simp),
      List.pairwise_iff_forall_sublist.mp descending stands⟩
  · rintro ⟨ha, hb, first⟩
    exact pair_sublist_of_pairwise descending (fun _ _ => Precedes.asymm) ha hb first

/-- A rule before which another one stands is not the one that answers. -/
theorem exists_select_of_pair_sublist (apart : book.set.rules.Pairwise (·.line ≠ ·.line))
    {a b : Rule} (stands : [a, b].Sublist (book.matching request type)) :
    ∃ found, book.select request type = .ok found ∧ found.isFallback = false ∧
      found.line ≠ b.line := by
  have lines : (book.matching request type).Pairwise (·.line ≠ ·.line) :=
    pairwise_line_matching book apart
  cases ranked : book.matching request type with
  | nil => simp [ranked] at stands
  | cons winner rest =>
    rw [ranked] at stands lines
    have below : b ∈ rest := by
      cases stands with
      | cons _ later => exact later.subset (by simp)
      | cons_cons _ later => exact List.singleton_sublist.mp later
    obtain ⟨id, given, selected⟩ := select_of_matching book ranked
    exact ⟨_, selected, rfl, (List.pairwise_cons.mp lines).1 b below⟩

/-! ## Rules that are made more specific -/

/-- The rulebook with other rules in its set, under the same ranking and with the same fallback. -/
def storing (book : Rulebook) (rules : List Rule) : Rulebook :=
  { book with set := { book.set with rules } }

/-- What it means that a rule of a rulebook is made more specific: another rule takes its place, on
its line and with its policies, that constrains at least the dimensions that it constrains. -/
structure Narrowed (book narrowed : Rulebook) (wide narrow : Rule) : Prop where
  place : ∃ before after, book.set.rules = before ++ wide :: after ∧
    narrowed = book.storing (before ++ narrow :: after)
  line : narrow.line = wide.line
  policies : narrow.policies = wide.policies
  specific : narrow.IsAsSpecificAs wide

namespace Narrowed

variable {narrowed : Rulebook} {wide narrow : Rule} (change : book.Narrowed narrowed wide narrow)

include change

theorem ranking_eq : narrowed.set.ranking = book.set.ranking := by
  obtain ⟨before, after, -, rfl⟩ := change.place
  rfl

theorem tieBreak_eq : narrowed.tieBreak = book.tieBreak := by
  obtain ⟨before, after, -, rfl⟩ := change.place
  rfl

theorem apart (apart : book.set.rules.Pairwise (·.line ≠ ·.line)) :
    narrowed.set.rules.Pairwise (·.line ≠ ·.line) := by
  obtain ⟨before, after, stored, rfl⟩ := change.place
  have lines : (before ++ narrow :: after).map (·.line) = book.set.rules.map (·.line) := by
    simp [stored, change.line]
  exact List.pairwise_map.mp (lines ▸ List.pairwise_map.mpr apart)

/-- The more specific rule is listed if it matches and the rule in whose place it is was listed. -/
theorem mem_matching (matched : narrow.Matches request)
    (listed : wide ∈ book.matching request type) : narrow ∈ narrowed.matching request type := by
  obtain ⟨before, after, -, rfl⟩ := change.place
  obtain ⟨-, assigns, -⟩ := Rulebook.mem_matching.mp listed
  refine Rulebook.mem_matching.mpr ⟨by simp [storing], ?_, matched⟩
  rwa [Rule.assigns, change.policies]

theorem pairwise_matching (compared : .line ∈ book.set.ranking.keys)
    (apart : book.set.rules.Pairwise (·.line ≠ ·.line)) :
    (narrowed.matching request type).Pairwise (book.set.ranking.Precedes book.tieBreak) := by
  rw [← change.ranking_eq] at compared
  have descending : (narrowed.matching request type).Pairwise _ :=
    Rulebook.pairwise_matching narrowed compared (change.apart apart)
  rwa [change.ranking_eq, change.tieBreak_eq] at descending

/-- The rules on other lines are ranked as before. -/
theorem filter_matching (compared : .line ∈ book.set.ranking.keys)
    (apart : book.set.rules.Pairwise (·.line ≠ ·.line)) :
    (narrowed.matching request type).filter (·.line ≠ wide.line) =
      (book.matching request type).filter (·.line ≠ wide.line) := by
  refine eq_of_perm_of_pairwise ?_ ((change.pairwise_matching compared apart).filter _)
    ((Rulebook.pairwise_matching book compared apart).filter _)
  obtain ⟨before, after, stored, rfl⟩ := change.place
  refine ((List.mergeSort_perm _ _).filter _).trans
    (.trans (.of_eq ?_) ((List.mergeSort_perm _ _).filter _).symm)
  rw [List.filter_filter, List.filter_filter, stored, storing]
  simp [change.line]

theorem mem_matching_iff (compared : .line ∈ book.set.ranking.keys)
    (apart : book.set.rules.Pairwise (·.line ≠ ·.line)) {other : Rule}
    (elsewhere : other.line ≠ wide.line) :
    other ∈ narrowed.matching request type ↔ other ∈ book.matching request type := by
  have same : other ∈ (narrowed.matching request type).filter (·.line ≠ wide.line) ↔
      other ∈ (book.matching request type).filter (·.line ≠ wide.line) := by
    rw [change.filter_matching compared apart]
  simpa [elsewhere] using same

/-- The more specific rule goes before all rules before which the other one went. -/
theorem precedes {other : Rule} (first : book.set.ranking.Precedes book.tieBreak wide other) :
    book.set.ranking.Precedes book.tieBreak narrow other := by
  refine first.of_not_precedes (not_precedes_of_isAsSpecificAs change.specific ?_)
  -- both are on the same line
  cases book.tieBreak <;> simp [PriorityKey.Prefers, change.line]

theorem pair_sublist_matching (compared : .line ∈ book.set.ranking.keys)
    (apart : book.set.rules.Pairwise (·.line ≠ ·.line)) (matched : narrow.Matches request)
    {other : Rule} (stands : [wide, other].Sublist (book.matching request type)) :
    [narrow, other].Sublist (narrowed.matching request type) := by
  obtain ⟨listed, otherListed, first⟩ := (pair_sublist_matching_iff compared apart).mp stands
  have elsewhere : wide.line ≠ other.line :=
    List.pairwise_iff_forall_sublist.mp (pairwise_line_matching book apart) stands
  refine pair_sublist_of_pairwise (change.pairwise_matching compared apart)
    (fun _ _ => Precedes.asymm) (change.mem_matching matched listed) ?_ (change.precedes first)
  exact (change.mem_matching_iff compared apart elsewhere.symm).mpr otherListed

/-- The more specific rule comes first if the rule in whose place it is came first. -/
theorem exists_matching_eq_cons (compared : .line ∈ book.set.ranking.keys)
    (apart : book.set.rules.Pairwise (·.line ≠ ·.line)) (matched : narrow.Matches request)
    {rest : List Rule} (best : book.matching request type = wide :: rest) :
    ∃ rest', narrowed.matching request type = narrow :: rest' := by
  have listed : narrow ∈ narrowed.matching request type :=
    change.mem_matching matched (by simp [best])
  have lines : (narrowed.matching request type).Pairwise (·.line ≠ ·.line) :=
    pairwise_line_matching narrowed (change.apart apart)
  have descending : (narrowed.matching request type).Pairwise _ :=
    change.pairwise_matching compared apart
  cases ranked : narrowed.matching request type with
  | nil => simp [ranked] at listed
  | cons winner others =>
    rw [ranked] at listed descending lines
    rcases List.mem_cons.mp listed with rfl | later
    · exact ⟨others, rfl⟩
    · -- a rule that came before it would have come before the other one, too
      have elsewhere : winner.line ≠ wide.line := by
        rw [← change.line]
        exact (List.pairwise_cons.mp lines).1 narrow later
      have member : winner ∈ wide :: rest := by
        rw [← best, ← change.mem_matching_iff compared apart elsewhere, ranked]
        exact List.mem_cons_self
      have below : winner ∈ rest :=
        (List.mem_cons.mp member).resolve_left fun same => elsewhere (by rw [same])
      have first : book.set.ranking.Precedes book.tieBreak wide winner := by
        have descending' : (book.matching request type).Pairwise _ :=
          Rulebook.pairwise_matching book compared apart
        rw [best] at descending'
        exact (List.pairwise_cons.mp descending').1 winner below
      exact absurd (change.precedes first)
        ((List.pairwise_cons.mp descending).1 narrow later).asymm

end Narrowed

/-- **More specific rules.** A rule that is made more specific and still matches a request does not
fall back, if lines are compared and no two rules share one: it is listed if it was, it stands
before all rules before which it stood, the rules on other lines keep their order, and it wins if it
won. -/
theorem narrowed_stays_ahead {narrowed : Rulebook} {wide narrow : Rule}
    (compared : .line ∈ book.set.ranking.keys)
    (apart : book.set.rules.Pairwise (·.line ≠ ·.line))
    (change : book.Narrowed narrowed wide narrow) (matched : narrow.Matches request)
    (type : PolicyType) :
    (wide ∈ book.matching request type → narrow ∈ narrowed.matching request type) ∧
      (∀ other, [wide, other].Sublist (book.matching request type) →
        [narrow, other].Sublist (narrowed.matching request type)) ∧
      (narrowed.matching request type).filter (·.line ≠ wide.line) =
        (book.matching request type).filter (·.line ≠ wide.line) ∧
      ∀ id, book.select request type =
          .ok { type, policyId := id, rule := wide, isFallback := false } →
        narrowed.select request type =
          .ok { type, policyId := id, rule := narrow, isFallback := false } := by
  refine ⟨change.mem_matching matched, fun other => change.pair_sublist_matching compared apart
    matched, change.filter_matching compared apart, fun id selected => ?_⟩
  cases select_eq_ok_iff.mp selected with
  | rule best given =>
    obtain ⟨rest', best'⟩ := change.exists_matching_eq_cons compared apart matched best
    rw [← change.policies] at given
    exact select_eq_ok_iff.mpr (.rule best' given)

/-- A rule for a patron group. -/
def groupRule : Rule where
  criteria := Criteria.none.set .patronGroup (.ofList ["u"] false)
  policies := Assignments.none.set .loan "x"
  line := 1

/-- The same rule, for one material type only. -/
def narrowGroupRule : Rule :=
  { groupRule with criteria := groupRule.criteria.set .materialType (.ofList ["b"] false) }

/-- A rule for a material type in one place. -/
def placeRule : Rule where
  criteria := (Criteria.none.set .materialType (.ofList ["b"] false)).set .location
    (.ofList ["c"] false)
  policies := Assignments.none.set .loan "y"
  line := 2

/-- Patron groups go before all else, so that the rule with fewer dimensions comes first. -/
def groupsFirst : Rulebook where
  set :=
    { rules := [groupRule, placeRule]
      ranking := { keys := [.criterium, .numberOfCriteria, .line], order := [.patronGroup] } }

theorem groupsFirst_narrowed :
    groupsFirst.Narrowed (groupsFirst.storing [narrowGroupRule, placeRule]) groupRule
        narrowGroupRule ∧
      narrowGroupRule.Matches RuleSet.visit ∧
      [groupRule, placeRule].Sublist (groupsFirst.matching RuleSet.visit .loan) ∧
      [narrowGroupRule, placeRule].Sublist
        ((groupsFirst.storing [narrowGroupRule, placeRule]).matching RuleSet.visit .loan) ∧
      ((groupsFirst.storing [narrowGroupRule, placeRule]).matching RuleSet.visit .loan).filter
          (·.line ≠ 1) =
        (groupsFirst.matching RuleSet.visit .loan).filter (·.line ≠ 1) ∧
      (groupsFirst.storing [narrowGroupRule, placeRule]).select RuleSet.visit .loan =
        .ok { type := .loan, policyId := "x", rule := narrowGroupRule, isFallback := false } := by
  have change : groupsFirst.Narrowed (groupsFirst.storing [narrowGroupRule, placeRule]) groupRule
      narrowGroupRule :=
    ⟨⟨[], [placeRule], rfl, rfl⟩, rfl, rfl, fun d => by cases d <;> decide⟩
  have matched : narrowGroupRule.Matches RuleSet.visit := by decide +kernel
  have ranked : groupsFirst.matching RuleSet.visit .loan = [groupRule, placeRule] := by
    have listed : ∀ rule ∈ groupsFirst.set.rules,
        (rule.assigns .loan && decide (rule.Matches RuleSet.visit)) = true := by decide +kernel
    rw [matching, List.filter_eq_self.mpr listed]
    exact List.mergeSort_of_pairwise (by decide +kernel)
  obtain ⟨-, stands, others, wins⟩ :=
    narrowed_stays_ahead (by decide) (by decide) change matched .loan
  refine ⟨change, matched, by simp [ranked], stands placeRule (by simp [ranked]), others, ?_⟩
  exact wins "x" (select_eq_ok_iff.mpr (.rule ranked rfl))

end Rulebook

end Lending
