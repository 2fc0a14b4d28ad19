import Lending.Proofs.Rules.Spelling
import Mathlib.Data.List.Perm.Basic

/-!
# The order of terms

The terms of the criteria of a rule are read from left to right, each one against what the terms
before it ask. A dimension that is constrained cannot be named again. A wildcard names its dimension
as well, but asks nothing of it, so that nothing recalls it: behind a term that constrains its
dimension it is refused, in front of that term it is accepted. This is the only way in which the
order of the terms matters.

## Main definitions

* `Demand`, `ReadsAs` — what a term asks, and the words that ask it
* `Asks` — what the terms of a line ask
* `Demand.LeavesOpen`, `Demand.Apart` — the pairs of terms that are accepted in this order, and in
  one of both
* `Mixed` — terms whose order matters

## Main results

* `ReadsAs.unique` — a term is read in one way
* `addTerm_eq_ok_iff`, `foldlM_addTerm_eq_ok_iff` — when a term is accepted, and when a line is
* `parseCriteria_perm_iff` — when the order of the terms of a text does not matter
-/

namespace Lending

open List (Forall₂)

/-! ## What a term asks -/

/-- What a term asks of a request. A wildcard asks nothing of the dimension that it names. -/
inductive Demand
  | everything
  | wildcard (d : Dimension)
  | constraint (d : Dimension) (constraint : Constraint)

namespace Demand

variable {demand : Demand} {criteria : Criteria} {d : Dimension} {c : Constraint}

def Constrains (demand : Demand) (d : Dimension) : Prop := ∃ c, demand = .constraint d c

def Names (demand : Demand) (d : Dimension) : Prop := demand = .wildcard d ∨ demand.Constrains d

/-- A demand that does not constrain what another one names. -/
def LeavesOpen (demand other : Demand) : Prop := ∀ d, demand.Constrains d → ¬ other.Names d

/-- Demands that do not constrain the same dimension. -/
def Apart (demand other : Demand) : Prop := ∀ d, demand.Constrains d → ¬ other.Constrains d

theorem Apart.symm {other : Demand} (apart : demand.Apart other) : other.Apart demand :=
  fun d constrains' constrains => apart d constrains constrains'

theorem LeavesOpen.apart {other : Demand} (opens : demand.LeavesOpen other) : demand.Apart other :=
  fun d constrains constrains' => opens d constrains (.inr constrains')

/-- The criteria with what is asked beside them. -/
def addTo : Demand → Criteria → Criteria
  | constraint d c, criteria => criteria.set d c
  | _, criteria => criteria

/-- A dimension stays open unless it is constrained. -/
theorem addTo_eq_none_iff :
    demand.addTo criteria d = none ↔ criteria d = none ∧ ¬ demand.Constrains d := by
  cases demand with
  | everything => simp [addTo, Constrains]
  | wildcard e => simp [addTo, Constrains]
  | constraint e c =>
    by_cases same : d = e
    · simp [addTo, Criteria.set, Constrains, same]
    · simp [addTo, Criteria.set, Constrains, same, Ne.symm same]

theorem addTo_eq_some_iff (unconstrained : ∀ d, demand.Constrains d → criteria d = none) :
    demand.addTo criteria d = some c ↔ criteria d = some c ∨ demand = .constraint d c := by
  cases demand with
  | everything => simp [addTo]
  | wildcard e => simp [addTo]
  | constraint e c' =>
    by_cases same : d = e
    · subst same
      simp [addTo, Criteria.set, unconstrained d ⟨c', rfl⟩]
    · simp [addTo, Criteria.set, same, Ne.symm same]

/-! ### Lists of demands -/

section Order

variable {demands demands' : List Demand}

/-- Terms of which one leaves a dimension open that another one constrains. -/
def Mixes (demands : List Demand) : Prop :=
  ∃ d, .wildcard d ∈ demands ∧ ∃ c, .constraint d c ∈ demands

/-- What is asked first may be added first. -/
theorem addTo_or_mem_iff (unconstrained : ∀ d, demand.Constrains d → criteria d = none) :
    demand.addTo criteria d = some c ∨ .constraint d c ∈ demands ↔
      criteria d = some c ∨ .constraint d c ∈ demand :: demands := by
  rw [addTo_eq_some_iff unconstrained, List.mem_cons, or_assoc, eq_comm (a := demand)]

theorem pairwise_apart (ordered : demands.Pairwise LeavesOpen) :
    demands.Pairwise Apart :=
  ordered.imp LeavesOpen.apart

/-- Criteria ask what is asked of each dimension, if no dimension is constrained twice. -/
theorem exists_criteria (apart : demands.Pairwise Apart) :
    ∃ criteria : Criteria, ∀ d c, criteria d = some c ↔ .constraint d c ∈ demands := by
  induction demands with
  | nil => exact ⟨.none, by simp [Criteria.none]⟩
  | cons demand demands ih =>
    obtain ⟨others, apart⟩ := List.pairwise_cons.mp apart
    obtain ⟨criteria, values⟩ := ih apart
    have unconstrained (d : Dimension) (constrains : demand.Constrains d) : criteria d = none :=
      Option.eq_none_iff_forall_ne_some.mpr fun c asked =>
        others _ ((values d c).mp asked) d constrains ⟨c, rfl⟩
    refine ⟨demand.addTo criteria, fun d c => ?_⟩
    rw [addTo_eq_some_iff unconstrained, values, List.mem_cons, or_comm, eq_comm (a := demand)]

/-- A demand that constrains something names nothing else. -/
theorem Constrains.constrains_of_names {e : Dimension}
    (constrains : demand.Constrains d) (names : demand.Names e) : demand.Constrains e := by
  obtain ⟨c, rfl⟩ := constrains
  simpa [Names] using names

/-- If no dimension is constrained twice, terms are accepted with those that constrain nothing
first. -/
theorem exists_perm_leavesOpen (apart : demands.Pairwise Apart) :
    ∃ demands' : List Demand, demands'.Perm demands ∧ demands'.Pairwise LeavesOpen := by
  classical
  refine ⟨_, List.filter_append_perm (fun demand => ∀ d, ¬ demand.Constrains d) demands,
    List.pairwise_append.mpr ⟨?_, ?_, ?_⟩⟩
  · refine (apart.filter _).imp_of_mem fun member _ _ d constrains => ?_
    exact absurd constrains (of_decide_eq_true (List.mem_filter.mp member).2 d)
  · refine (apart.filter _).imp_of_mem fun _ member apart d constrains names => ?_
    obtain ⟨e, constrains'⟩ : ∃ e, _ := by simpa using (List.mem_filter.mp member).2
    exact apart d constrains (constrains'.constrains_of_names names)
  · intro first member _ _ d constrains
    exact absurd constrains (of_decide_eq_true (List.mem_filter.mp member).2 d)

/-- Unless terms mix, they are accepted in any order if no dimension is constrained twice. -/
theorem pairwise_leavesOpen_of_perm (apart : demands.Pairwise Apart)
    (unmixed : ¬ Mixes demands) (perm : demands'.Perm demands) :
    demands'.Pairwise LeavesOpen := by
  have apart' := (perm.pairwise_iff Apart.symm).mpr apart
  refine apart'.imp_of_mem fun member member' apart d constrains => ?_
  rintro (rfl | constrains')
  · obtain ⟨c, rfl⟩ := constrains
    exact unmixed ⟨d, perm.mem_iff.mp member', c, perm.mem_iff.mp member⟩
  · exact apart d constrains constrains'

/-- Terms that mix are refused with a constraint before its wildcard. -/
theorem exists_perm_not_leavesOpen (mixes : Mixes demands) :
    ∃ demands' : List Demand, demands'.Perm demands ∧ ¬ demands'.Pairwise LeavesOpen := by
  obtain ⟨d, wildcard, c, constrained⟩ := mixes
  obtain ⟨rest, perm⟩ : ∃ rest, demands.Perm (.constraint d c :: rest) := by
    classical exact ⟨_, List.perm_cons_erase constrained⟩
  refine ⟨_, perm.symm, fun ordered => ?_⟩
  have behind : .wildcard d ∈ rest := by simpa using perm.mem_iff.mp wildcard
  exact (List.pairwise_cons.mp ordered).1 _ behind d ⟨c, rfl⟩ (.inl rfl)

end Order

end Demand

/-! ## Reading a term -/

/-- The words of a term, by what it asks. -/
inductive ReadsAs : List (List Char) → Demand → Prop
  | everything : ReadsAs ["all".toList] .everything
  | wildcard (d : Dimension) : ReadsAs [[d.letter], ['*']] (.wildcard d)
  | constraint (term : Term) (nonempty : term.values ≠ []) (noWildcard : "*" ∉ term.values) :
      ReadsAs term.words (.constraint term.dimension term.constraint)

section Reading

variable {word head : List Char} {words values : List (List Char)} {criteria result : Criteria}
variable {demand other : Demand} {d : Dimension}

theorem Dimension.ofWord?_eq_some_iff : Dimension.ofWord? word = some d ↔ word = [d.letter] := by
  constructor
  · intro found
    simpa using List.find?_some found
  · rintro rfl
    exact Dimension.ofWord?_letter d

theorem parseDimension_eq_ok : parseDimension word = .ok d ↔ word = [d.letter] := by
  rw [← Dimension.ofWord?_eq_some_iff, parseDimension]
  cases Dimension.ofWord? word <;> simp

/-- A word that is a letter, maybe behind the mark of negation, is the head of terms. -/
theorem eq_head_of_splitNegation (values : List String)
    (letter : (splitNegation head).1 = [d.letter]) :
    head = (Term.mk d (splitNegation head).2 values).head := by
  unfold splitNegation at letter ⊢
  split at letter <;> simp_all [Term.head]

/-- Terms with the same words are the same. -/
theorem Term.eq_of_words {term other : Term} (same : term.words = other.words) : term = other := by
  obtain ⟨head, values⟩ := List.cons.inj same
  have split := congrArg splitNegation head
  rw [Term.splitNegation_head, Term.splitNegation_head] at split
  obtain ⟨letter, negated⟩ := Prod.mk.inj split
  have dimension : term.dimension = other.dimension := by
    rw [← Option.some_inj, ← Dimension.ofWord?_letter, letter, Dimension.ofWord?_letter]
  have values := (List.map_inj_right fun _ _ => String.toList_inj.mp).mp values
  cases term
  cases other
  simp_all

/-- A wildcard is written as a term whose only value it is. -/
theorem Term.words_wildcard : (Term.mk d false ["*"]).words = [[d.letter], ['*']] := rfl

namespace ReadsAs

theorem of_wildcard (letter : (splitNegation head).1 = [d.letter])
    (plain : ¬ (splitNegation head).2 = true) : ReadsAs [head, ['*']] (.wildcard d) := by
  have head_eq := eq_head_of_splitNegation [] letter
  rw [Bool.eq_false_iff.mpr plain] at head_eq
  rw [head_eq]
  exact .wildcard d

theorem of_values (letter : (splitNegation head).1 = [d.letter]) (nonempty : values ≠ [])
    (noWildcard : ['*'] ∉ values) :
    ReadsAs (head :: values)
      (.constraint d (.ofList (values.map String.ofList) (splitNegation head).2)) := by
  let term : Term := ⟨d, (splitNegation head).2, values.map String.ofList⟩
  have words : head :: values = term.words := by
    rw [Term.words, ← eq_head_of_splitNegation _ letter]
    simp [term, Function.comp_def]
  have noWildcard' : "*" ∉ term.values := by
    intro member
    obtain ⟨value, member, same⟩ := List.mem_map.mp member
    obtain rfl : value = ['*'] := String.ofList_inj.mp same
    exact noWildcard member
  rw [words]
  exact .constraint term (by simpa [term] using nonempty) noWildcard'

/-- A term is read in one way. -/
theorem unique (reads : ReadsAs words demand) (reads' : ReadsAs words other) : demand = other := by
  generalize same : words = words' at reads'
  cases reads with
  | everything =>
    -- the keyword is the only word without another one behind it
    cases reads' with
    | everything => rfl
    | wildcard d => simp at same
    | constraint term nonempty => simp_all [Term.words]
  | wildcard d =>
    rw [← Term.words_wildcard] at same
    cases reads' with
    | everything => simp [Term.words] at same
    | wildcard e =>
      rw [← Term.words_wildcard] at same
      rw [(Term.mk.inj (Term.eq_of_words same)).1]
    | constraint term nonempty noWildcard =>
      obtain rfl := Term.eq_of_words same
      simp at noWildcard
  | constraint term nonempty noWildcard =>
    cases reads' with
    | everything => simp_all [Term.words]
    | wildcard d =>
      rw [← Term.words_wildcard] at same
      obtain rfl := Term.eq_of_words same
      simp at noWildcard
    | constraint term' => rw [Term.eq_of_words same]

end ReadsAs

/-- A term is accepted if it can be read and the criteria leave open what it names. It adds what it
asks. -/
theorem addTerm_eq_ok_iff :
    addTerm criteria words = .ok result ↔
      ∃ demand, ReadsAs words demand ∧ (∀ d, demand.Names d → criteria d = none) ∧
        result = demand.addTo criteria := by
  constructor
  · intro accepted
    cases words with
    | nil => simp [addTerm] at accepted
    | cons head values =>
      rw [addTerm] at accepted
      split at accepted
      · next only =>
        obtain ⟨rfl, rfl⟩ := only
        exact ⟨.everything, .everything, by simp [Demand.Names, Demand.Constrains],
          (Except.ok.inj accepted).symm⟩
      simp only [bind_eq_ok, guard_eq_ok, parseDimension_eq_ok, List.isEmpty_iff,
        Option.not_isSome_iff_eq_none] at accepted
      obtain ⟨d, letter, nonempty, unconstrained, accepted⟩ := accepted
      split at accepted
      · next wildcard =>
        simp only [guard_eq_ok, pure_eq_ok] at accepted
        obtain ⟨plain, rfl⟩ := accepted
        subst wildcard
        exact ⟨_, .of_wildcard letter plain,
          by simp [Demand.Names, Demand.Constrains, unconstrained], rfl⟩
      · simp only [guard_eq_ok, pure_eq_ok] at accepted
        obtain ⟨noWildcard, rfl⟩ := accepted
        exact ⟨_, .of_values letter nonempty noWildcard,
          by simp [Demand.Names, Demand.Constrains, unconstrained], rfl⟩
  · rintro ⟨demand, reads, unconstrained, rfl⟩
    cases reads with
    | everything => rfl
    | wildcard d =>
      have plain : splitNegation [d.letter] = ([d.letter], false) :=
        (Term.mk d false []).splitNegation_head
      simp [addTerm, plain, parseDimension, unconstrained d (.inl rfl), Demand.addTo]
    | constraint term nonempty noWildcard =>
      exact term.addTerm_words nonempty noWildcard (unconstrained _ (.inr ⟨_, rfl⟩))

end Reading

/-! ## Reading a line -/

/-- What the terms of a line ask, one by one. -/
def Asks (terms : List (List Char)) (demands : List Demand) : Prop :=
  Forall₂ (fun term demand => ReadsAs (words term) demand) terms demands

section Line

variable {terms other : List (List Char)} {demands demands' : List Demand} {criteria : Criteria}

theorem Asks.unique (asks : Asks terms demands) (asks' : Asks terms demands') :
    demands = demands' :=
  List.right_unique_forall₂' (fun _ _ _ reads reads' => reads.unique reads') asks asks'

/-- Terms in another order ask the same in that order. -/
theorem Asks.exists_perm (asks : Asks terms demands) (perm : other.Perm terms) :
    ∃ demands', Asks other demands' ∧ demands'.Perm demands :=
  List.perm_comp_forall₂ perm asks

/-- Whatever is asked is asked in any order, by the terms in that order. -/
theorem Asks.exists_perm_terms (asks : Asks terms demands) (perm : demands'.Perm demands) :
    ∃ other, Asks other demands' ∧ other.Perm terms := by
  obtain ⟨other, reads, same⟩ := List.perm_comp_forall₂ perm asks.flip
  exact ⟨other, reads.flip, same⟩

/-- Terms are accepted one by one if each can be read and leaves open what the terms after it name.
What they ask stands in the criteria beside what was asked before. -/
theorem foldlM_addTerm_eq_ok_iff {start : Criteria} :
    (terms.map words).foldlM addTerm start = .ok criteria ↔
      ∃ demands, Asks terms demands ∧ (∀ demand ∈ demands, ∀ d, demand.Names d → start d = none) ∧
        demands.Pairwise Demand.LeavesOpen ∧
        ∀ d c, criteria d = some c ↔ start d = some c ∨ .constraint d c ∈ demands := by
  induction terms generalizing start with
  | nil =>
    constructor
    · intro accepted
      obtain rfl := Except.ok.inj accepted
      exact ⟨[], .nil, by simp, .nil, by simp⟩
    · rintro ⟨_, ⟨⟩, -, -, values⟩
      have same : start = criteria := by
        funext d
        exact Option.ext fun c => by simp [values]
      rw [same]
      rfl
  | cons term terms ih =>
    simp only [List.map_cons, List.foldlM_cons, bind_eq_ok, addTerm_eq_ok_iff, ih]
    -- what the first term leaves open is what the terms after it find open
    constructor
    · rintro ⟨_, ⟨demand, reads, unconstrained, rfl⟩, demands, asks, free, ordered, values⟩
      simp only [Demand.addTo_eq_none_iff] at free
      refine ⟨demand :: demands, .cons reads asks, ?_, ?_, fun d c => ?_⟩
      · exact List.forall_mem_cons.mpr
          ⟨unconstrained, fun later member d names => (free later member d names).1⟩
      · exact List.pairwise_cons.mpr
          ⟨fun later member d constrains names => (free later member d names).2 constrains, ordered⟩
      · rw [values, Demand.addTo_or_mem_iff fun d constrains => unconstrained d (.inr constrains)]
    · rintro ⟨_, asks, free, ordered, values⟩
      obtain ⟨demand, demands, reads, below, rfl⟩ := List.forall₂_cons_left_iff.mp asks
      obtain ⟨unconstrained, free⟩ := List.forall_mem_cons.mp free
      obtain ⟨leavesOpen, ordered⟩ := List.pairwise_cons.mp ordered
      refine ⟨_, ⟨demand, reads, unconstrained, rfl⟩, demands, below, ?_, ordered, fun d c => ?_⟩
      · exact fun later member d names => Demand.addTo_eq_none_iff.mpr
          ⟨free later member d names, fun constrains => leavesOpen later member d constrains names⟩
      · rw [values, Demand.addTo_or_mem_iff fun d constrains => unconstrained d (.inr constrains)]

/-! ## Texts -/

/-- Terms that can be read and of which no two constrain the same dimension, but of which one
leaves a dimension open that another one constrains. -/
def Mixed (terms : List (List Char)) : Prop :=
  ∃ demands, Asks terms demands ∧ demands.Pairwise Demand.Apart ∧ Demand.Mixes demands

theorem Mixed.of_perm (mixed : Mixed terms) (perm : other.Perm terms) : Mixed other := by
  obtain ⟨demands, asks, apart, d, wildcard, c, constrained⟩ := mixed
  obtain ⟨demands', asks', same⟩ := asks.exists_perm perm
  exact ⟨demands', asks', (same.pairwise_iff Demand.Apart.symm).mpr apart, d,
    same.mem_iff.mpr wildcard, c, same.mem_iff.mpr constrained⟩

/-- A text is accepted if its terms are. -/
theorem parseCriteria_intercalate_eq_ok_iff (plain : ∀ term ∈ terms, '+' ∉ term) :
    parseCriteria (['+'].intercalate terms) = .ok criteria ↔
      terms ≠ [] ∧ ∃ demands, Asks terms demands ∧ demands.Pairwise Demand.LeavesOpen ∧
        ∀ d c, criteria d = some c ↔ .constraint d c ∈ demands := by
  by_cases empty : terms = []
  · -- without any term there is an empty one
    simp [empty, parseCriteria, splitAt, words, wordsFrom, addTerm]
  · simp [parseCriteria, splitAt_intercalate empty plain, foldlM_addTerm_eq_ok_iff, Criteria.none,
      empty]

theorem forall_mem_of_perm (plain : ∀ term ∈ terms, '+' ∉ term) (perm : other.Perm terms) :
    ∀ term ∈ other, '+' ∉ term :=
  fun term member => plain term (perm.mem_iff.mp member)

/-- A text of the same terms in another order is accepted if the terms are in that order. -/
theorem parseCriteria_intercalate_perm_eq_ok_iff (plain : ∀ term ∈ terms, '+' ∉ term)
    (perm : other.Perm terms) :
    parseCriteria (['+'].intercalate other) = .ok criteria ↔
      terms ≠ [] ∧ ∃ demands, Asks other demands ∧ demands.Pairwise Demand.LeavesOpen ∧
        ∀ d c, criteria d = some c ↔ .constraint d c ∈ demands := by
  have empty : other = [] ↔ terms = [] := by
    rw [← List.length_eq_zero_iff, perm.length_eq, List.length_eq_zero_iff]
  rw [parseCriteria_intercalate_eq_ok_iff (forall_mem_of_perm plain perm), ne_eq, empty]

/-- Terms that are accepted in two orders give the same criteria. -/
theorem parseCriteria_eq_of_perm {criteria' : Criteria} (plain : ∀ term ∈ terms, '+' ∉ term)
    (perm : other.Perm terms)
    (accepted : parseCriteria (['+'].intercalate terms) = .ok criteria)
    (accepted' : parseCriteria (['+'].intercalate other) = .ok criteria') :
    criteria' = criteria := by
  obtain ⟨-, demands, asks, -, values⟩ := (parseCriteria_intercalate_eq_ok_iff plain).mp accepted
  obtain ⟨-, demands', asks', -, values'⟩ :=
    (parseCriteria_intercalate_perm_eq_ok_iff plain perm).mp accepted'
  obtain ⟨_, asks'', same⟩ := asks.exists_perm perm
  obtain rfl := asks'.unique asks''
  funext d
  exact Option.ext fun c => by rw [values, values', same.mem_iff]

/-- Terms are accepted in some order if each can be read and no dimension is constrained twice. -/
theorem exists_perm_parseCriteria_iff (plain : ∀ term ∈ terms, '+' ∉ term) :
    (∃ other criteria, other.Perm terms ∧ parseCriteria (['+'].intercalate other) = .ok criteria) ↔
      terms ≠ [] ∧ ∃ demands, Asks terms demands ∧ demands.Pairwise Demand.Apart := by
  constructor
  · rintro ⟨other, criteria, perm, accepted⟩
    obtain ⟨nonempty, demands, asks, ordered, -⟩ :=
      (parseCriteria_intercalate_perm_eq_ok_iff plain perm).mp accepted
    obtain ⟨demands', asks', same⟩ := asks.exists_perm perm.symm
    have apart : demands'.Pairwise Demand.Apart :=
      (same.pairwise_iff Demand.Apart.symm).mpr (Demand.pairwise_apart ordered)
    exact ⟨nonempty, demands', asks', apart⟩
  · rintro ⟨nonempty, demands, asks, apart⟩
    obtain ⟨demands', same, ordered⟩ := Demand.exists_perm_leavesOpen apart
    obtain ⟨other, asks', perm⟩ := asks.exists_perm_terms same
    obtain ⟨criteria, values⟩ := Demand.exists_criteria (Demand.pairwise_apart ordered)
    exact ⟨other, criteria, perm, (parseCriteria_intercalate_perm_eq_ok_iff plain perm).mpr
      ⟨nonempty, demands', asks', ordered, values⟩⟩

/-- Terms that do not mix are accepted in any order if they are accepted in one. -/
theorem parseCriteria_of_perm (plain : ∀ term ∈ terms, '+' ∉ term) (unmixed : ¬ Mixed terms)
    (perm : other.Perm terms)
    (accepted : parseCriteria (['+'].intercalate terms) = .ok criteria) :
    parseCriteria (['+'].intercalate other) = .ok criteria := by
  obtain ⟨nonempty, demands, asks, ordered, values⟩ :=
    (parseCriteria_intercalate_eq_ok_iff plain).mp accepted
  obtain ⟨demands', asks', same⟩ := asks.exists_perm perm
  have apart := Demand.pairwise_apart ordered
  have unmixed' : ¬ Demand.Mixes demands := fun mixes => unmixed ⟨demands, asks, apart, mixes⟩
  exact (parseCriteria_intercalate_perm_eq_ok_iff plain perm).mpr
    ⟨nonempty, demands', asks', Demand.pairwise_leavesOpen_of_perm apart unmixed' same,
      fun d c => by rw [values, same.mem_iff]⟩

/-- Terms that mix are accepted in some order. -/
theorem Mixed.exists_perm_accepted (mixed : Mixed terms) (plain : ∀ term ∈ terms, '+' ∉ term) :
    ∃ other criteria, other.Perm terms ∧
      parseCriteria (['+'].intercalate other) = .ok criteria := by
  obtain ⟨demands, asks, apart, d, wildcard, -⟩ := mixed
  refine (exists_perm_parseCriteria_iff plain).mpr ⟨?_, demands, asks, apart⟩
  rintro rfl
  cases asks
  simp at wildcard

/-- Terms that mix are refused in some order. -/
theorem Mixed.exists_perm_refused (mixed : Mixed terms) (plain : ∀ term ∈ terms, '+' ∉ term) :
    ∃ other, other.Perm terms ∧
      ∀ criteria, parseCriteria (['+'].intercalate other) ≠ .ok criteria := by
  obtain ⟨demands, asks, -, mixes⟩ := mixed
  obtain ⟨demands', same, refused⟩ := Demand.exists_perm_not_leavesOpen mixes
  obtain ⟨other, asks', perm⟩ := asks.exists_perm_terms same
  refine ⟨other, perm, fun criteria accepted => ?_⟩
  obtain ⟨-, demands'', asks'', ordered, -⟩ :=
    (parseCriteria_intercalate_perm_eq_ok_iff plain perm).mp accepted
  obtain rfl := asks'.unique asks''
  exact refused ordered

/-- **The order of terms.** A text is accepted if it has terms, each of them can be read, and none
constrains a dimension that a later one names; its criteria are what the terms ask. Terms that are
accepted in two orders give the same criteria, and terms that can be read are accepted in some order
if no two constrain the same dimension. So the order does not matter, unless one of such terms
constrains a dimension that another one leaves open. -/
theorem parseCriteria_perm_iff (terms : List (List Char)) (plain : ∀ term ∈ terms, '+' ∉ term) :
    (∀ criteria, parseCriteria (['+'].intercalate terms) = .ok criteria ↔
      terms ≠ [] ∧ ∃ demands, Asks terms demands ∧ demands.Pairwise Demand.LeavesOpen ∧
        ∀ d c, criteria d = some c ↔ .constraint d c ∈ demands) ∧
    (∀ other, other.Perm terms → ∀ criteria criteria',
      parseCriteria (['+'].intercalate terms) = .ok criteria →
        parseCriteria (['+'].intercalate other) = .ok criteria' → criteria' = criteria) ∧
    ((∃ other criteria, other.Perm terms ∧
        parseCriteria (['+'].intercalate other) = .ok criteria) ↔
      terms ≠ [] ∧ ∃ demands, Asks terms demands ∧ demands.Pairwise Demand.Apart) ∧
    ((∀ other, other.Perm terms → ∀ criteria,
        parseCriteria (['+'].intercalate other) = .ok criteria ↔
          parseCriteria (['+'].intercalate terms) = .ok criteria) ↔ ¬ Mixed terms) := by
  refine ⟨fun criteria => parseCriteria_intercalate_eq_ok_iff plain,
    fun other perm criteria criteria' => parseCriteria_eq_of_perm plain perm,
    exists_perm_parseCriteria_iff plain, ?_, ?_⟩
  · -- one order is accepted, and another one is refused
    intro always mixed
    obtain ⟨first, criteria, perm, accepted⟩ := mixed.exists_perm_accepted plain
    obtain ⟨second, perm', refused⟩ := mixed.exists_perm_refused plain
    exact refused criteria ((always second perm' criteria).mpr
      ((always first perm criteria).mp accepted))
  · intro unmixed other perm criteria
    have unmixed' : ¬ Mixed other := fun mixed => unmixed (mixed.of_perm perm.symm)
    exact ⟨parseCriteria_of_perm (forall_mem_of_perm plain perm) unmixed' perm.symm,
      parseCriteria_of_perm plain unmixed perm⟩

end Line

/-- Books and discs for everybody but staff, whatever the loan type. -/
def booksAndDiscs : List (List Char) :=
  ["m book dvd ".toList, " !g staff ".toList, " t *".toList]

theorem asks_booksAndDiscs :
    Asks booksAndDiscs [.constraint .materialType (.ofList ["book", "dvd"] false),
      .constraint .patronGroup (.ofList ["staff"] true), .wildcard .loanType] :=
  .cons (.constraint ⟨.materialType, false, ["book", "dvd"]⟩ (by decide) (by decide))
    (.cons (.constraint ⟨.patronGroup, true, ["staff"]⟩ (by decide) (by decide))
      (.cons (.wildcard .loanType) .nil))

/-- Terms that name three dimensions are read alike in any order. -/
theorem parseCriteria_booksAndDiscs :
    (∀ term ∈ booksAndDiscs, '+' ∉ term) ∧
      ∀ other, other.Perm booksAndDiscs → ∀ criteria,
        parseCriteria (['+'].intercalate other) = .ok criteria ↔
          parseCriteria (['+'].intercalate booksAndDiscs) = .ok criteria := by
  have plain : ∀ term ∈ booksAndDiscs, '+' ∉ term := by decide
  refine ⟨plain, (parseCriteria_perm_iff booksAndDiscs plain).2.2.2.mpr ?_⟩
  rintro ⟨demands, asks, -, d, wildcard, c, constrained⟩
  obtain rfl := asks.unique asks_booksAndDiscs
  simp_all

/-- A wildcard is accepted in front of a term for its dimension and refused behind it. -/
theorem not_always_any_order :
    ¬ ∀ terms other : List (List Char), (∀ term ∈ terms, '+' ∉ term) → other.Perm terms →
      ∀ criteria, parseCriteria (['+'].intercalate other) = .ok criteria ↔
        parseCriteria (['+'].intercalate terms) = .ok criteria := by
  intro always
  have accepted : parseCriteria "m * + m book".toList =
      .ok (Criteria.none.set .materialType (.ofList ["book"] false)) := rfl
  have refused : parseCriteria " m book+m * ".toList = .error (.repeatedCriterion "m") := rfl
  have same := (always [" m book".toList, "m * ".toList] ["m * ".toList, " m book".toList]
    (by decide) (by decide) _).mp accepted
  exact absurd (refused.symm.trans same) (by simp)

end Lending
