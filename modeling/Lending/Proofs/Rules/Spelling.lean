import Lending.Proofs.Except
import Lending.Proofs.Text.Splitting
import Lending.Rules.Line
import Mathlib.Data.Bool.AllAny

/-!
# Spelling criteria and policies

Criteria and policies are functions with finitely many keys. They are spelled as lists of pairs, in
any order, and what is spelled is read back. Hardly anything is asked of ids: one that looks like a
keyword, or that contains signs of the rule language, is still read as an id, since its place tells
it apart.

A list is read pair by pair. The invariant of both readers is that the pairs not yet read complete
the function.

## Main definitions

* `Lists`, `Completes` — a list of pairs against the function that it gives
* `IsValue`, `IsPolicyId` — the words that can be spelled
* `Term`, `criteriaText`, `policiesText` — terms and policies in an order, and their text

## Main results

* `lists_pairsOf` — every function with finitely many keys has a list
* `Term.addTerm_words` — what reading one term does
* `parseCriteria_criteriaText`, `parsePolicies_policiesText` — what is spelled is read back
-/

namespace Lending

/-! ## Lists of pairs -/

section Pairs

variable {κ ν : Type}

/-- The pairs list the keys on which a function is defined, each once, with their values. -/
structure Lists (pairs : List (κ × ν)) (f : κ → Option ν) : Prop where
  distinct : (pairs.map Prod.fst).Nodup
  mem_iff : ∀ k v, (k, v) ∈ pairs ↔ f k = some v

/-- The pairs complete one function to another: they list the keys on which it is not yet
defined. -/
structure Completes (start : κ → Option ν) (pairs : List (κ × ν)) (f : κ → Option ν) : Prop where
  distinct : (pairs.map Prod.fst).Nodup
  free : ∀ k v, (k, v) ∈ pairs → start k = none
  value_iff : ∀ k v, f k = some v ↔ start k = some v ∨ (k, v) ∈ pairs

variable {start f : κ → Option ν} {pairs : List (κ × ν)} {k : κ} {v : ν}

theorem Lists.completes (lists : Lists pairs f) : Completes (fun _ => none) pairs f where
  distinct := lists.distinct
  free := fun _ _ _ => rfl
  value_iff := fun k v => by simp [lists.mem_iff]

theorem Completes.eq_of_nil (complete : Completes start [] f) : start = f := by
  funext k
  refine Option.ext fun v => ?_
  simp [complete.value_iff]

/-- When a pair has been read, the pairs after it are still to be read. -/
theorem Completes.tail [DecidableEq κ] (complete : Completes start ((k, v) :: pairs) f) :
    Completes (fun e => if e = k then some v else start e) pairs f := by
  obtain ⟨fresh, distinct⟩ := List.nodup_cons.mp complete.distinct
  have other {e : κ} {w : ν} (member : (e, w) ∈ pairs) : e ≠ k := by
    rintro rfl
    exact fresh (List.mem_map.mpr ⟨_, member, rfl⟩)
  refine ⟨distinct, fun e w member => ?_, fun e w => ?_⟩
  · rw [if_neg (other member)]
    exact complete.free e w (List.mem_cons_of_mem _ member)
  · rw [complete.value_iff]
    -- the key of the pair that was read has its value now, and no second pair
    by_cases same : e = k
    · subst same
      have unread : start e = none := complete.free e v List.mem_cons_self
      have absent : (e, w) ∉ pairs := fun member => other member rfl
      simp [unread, absent, eq_comm]
    · simp [same]

/-- The pairs of a function, by the keys of a list. -/
def pairsOf (keys : List κ) (f : κ → Option ν) : List (κ × ν) :=
  keys.filterMap fun k => (f k).map (k, ·)

theorem lists_pairsOf {keys : List κ} (distinct : keys.Nodup) (all : ∀ k, k ∈ keys) :
    Lists (pairsOf keys f) f where
  distinct := by
    rw [pairsOf, List.map_filterMap]
    refine List.Pairwise.filterMap _ (fun k k' other e read e' read' => ?_) distinct
    -- the pair of a key begins with it
    simp only [Option.map_map, Option.map_eq_some_iff] at read read'
    obtain ⟨_, -, rfl⟩ := read
    obtain ⟨_, -, rfl⟩ := read'
    exact other
  mem_iff := fun k v => by
    simp [pairsOf, all]

end Pairs

/-! ## Ids -/

/-- A value that can be written in a criterion: a word without signs of the rule language that is
not the wildcard. -/
structure IsValue (value : String) : Prop where
  isWord : IsWord value.toList
  noSign : ∀ c ∈ value.toList, c ≠ '+' ∧ c ≠ ':' ∧ c ≠ '#'
  noWildcard : value ≠ "*"

/-- A policy id that can be written: a word that starts no comment. -/
structure IsPolicyId (id : String) : Prop where
  isWord : IsWord id.toList
  noComment : '#' ∉ id.toList

/-- A constraint that can be written. Its values are in ascending order as in every constraint. -/
structure Constraint.IsWritable (constraint : Constraint) : Prop where
  nonempty : constraint.values ≠ []
  ascending : constraint.values.Pairwise (· < ·)
  isValue : ∀ value ∈ constraint.values, IsValue value

/-- Criteria whose constraints can be written. -/
def Criteria.IsWritable (criteria : Criteria) : Prop :=
  ∀ d constraint, criteria d = some constraint → constraint.IsWritable

/-- Policies whose ids can be written. -/
def Assignments.IsWritable (policies : Assignments) : Prop :=
  ∀ type id, policies type = some id → IsPolicyId id

/-! ## Terms -/

/-- A term of the criteria of a rule. -/
structure Term where
  dimension : Dimension
  negated : Bool
  values : List String

namespace Term

variable {term : Term}

/-- The letter of a term, behind the mark of negation if it is negated. -/
def head (term : Term) : List Char :=
  if term.negated then ['!', term.dimension.letter] else [term.dimension.letter]

def words (term : Term) : List (List Char) := term.head :: term.values.map String.toList

def text (term : Term) : List Char := [' '].intercalate term.words

/-- The constraint that a term puts on its dimension. -/
def constraint (term : Term) : Constraint := .ofList term.values term.negated

/-- A term that can be written. -/
structure IsWritable (term : Term) : Prop where
  nonempty : term.values ≠ []
  isValue : ∀ value ∈ term.values, IsValue value

theorem isWritable_of_constraint (writable : term.constraint.IsWritable) : term.IsWritable where
  nonempty := by
    intro empty
    exact writable.nonempty (by simp [constraint, Constraint.ofList, empty])
  isValue := fun value member => writable.isValue value (Constraint.mem_values_ofList.mpr member)

theorem head_ne_nil (term : Term) : term.head ≠ [] := by
  unfold head
  split <;> simp

/-- What holds of the mark of negation and of all letters holds of the characters of a head. -/
theorem forall_mem_head {p : Char → Prop} (mark : p '!') (letter : ∀ d : Dimension, p d.letter) :
    ∀ c ∈ term.head, p c := by
  unfold head
  split <;> simp [mark, letter]

theorem splitNegation_head : splitNegation term.head = ([term.dimension.letter], term.negated) := by
  obtain ⟨d, negated, values⟩ := term
  cases negated <;> cases d <;> rfl

/-- No value of a term that can be written is the wildcard. -/
theorem IsWritable.noWildcard (writable : term.IsWritable) : "*" ∉ term.values :=
  fun member => (writable.isValue "*" member).noWildcard rfl

/-- A term adds its constraint to criteria that leave its dimension open. -/
theorem addTerm_words {criteria : Criteria} (nonempty : term.values ≠ [])
    (noWildcard : "*" ∉ term.values) (unconstrained : criteria term.dimension = none) :
    addTerm criteria term.words = .ok (criteria.set term.dimension term.constraint) := by
  -- a value that is not the wildcard is not read as one
  have notRead : ['*'] ∉ term.values.map String.toList := by
    intro member
    obtain ⟨value, member, same⟩ := List.mem_map.mp member
    obtain rfl : value = "*" := String.toList_inj.mp same
    exact noWildcard member
  have notOnlyWildcard : term.values.map String.toList ≠ [['*']] := by
    intro only
    exact notRead (by simp [only])
  -- there are values, so that the term is not the keyword for everything
  simp [words, addTerm, splitNegation_head, parseDimension, constraint, nonempty, unconstrained,
    notRead, notOnlyWildcard]

/-! ### Terms of a line -/

/-- The terms of a line with the constraints that they put on their dimensions. -/
def constraints (terms : List Term) : List (Dimension × Constraint) :=
  terms.map fun term => (term.dimension, term.constraint)

/-- Terms that complete criteria are read one by one. -/
theorem foldlM_addTerm {terms : List Term} {start criteria : Criteria}
    (writable : ∀ term ∈ terms, term.IsWritable)
    (complete : Completes start (constraints terms) criteria) :
    (terms.map words).foldlM addTerm start = .ok criteria := by
  -- `start` is what was read so far; the terms left complete it
  induction terms generalizing start with
  | nil =>
    rw [← complete.eq_of_nil]
    rfl
  | cons term terms ih =>
    obtain ⟨first, rest⟩ := List.forall_mem_cons.mp writable
    have unconstrained : start term.dimension = none := complete.free _ _ List.mem_cons_self
    rw [List.map_cons, List.foldlM_cons,
      addTerm_words first.nonempty first.noWildcard unconstrained]
    exact ih rest complete.tail

/-- Terms for criteria put constraints that can be written if those of the criteria can be. -/
theorem isWritable_of_lists {terms : List Term} {criteria : Criteria}
    (lists : Lists (constraints terms) criteria)
    (writable : criteria.IsWritable) :
    ∀ term ∈ terms, term.IsWritable := by
  intro term member
  have listed : (term.dimension, term.constraint) ∈ constraints terms :=
    List.mem_map_of_mem member
  exact isWritable_of_constraint (writable _ _ ((lists.mem_iff _ _).mp listed))

/-! ### The text of a term -/

theorem isWord_of_mem_words (writable : term.IsWritable) :
    ∀ word ∈ term.words, IsWord word := by
  intro word member
  rcases List.mem_cons.mp member with rfl | member
  · refine ⟨term.head_ne_nil, forall_mem_head (by decide) fun d => ?_⟩
    cases d <;> decide
  · obtain ⟨value, valued, rfl⟩ := List.mem_map.mp member
    exact (writable.isValue value valued).isWord

/-- The words of a term are read back. -/
theorem words_text (writable : term.IsWritable) : Lending.words term.text = term.words :=
  words_intercalate (isWord_of_mem_words writable)

/-- A term stays on its line, between the signs that end it. -/
theorem forall_mem_text (writable : term.IsWritable) :
    ∀ c ∈ term.text, isLineEnd c = false ∧ c ≠ '+' ∧ c ≠ ':' ∧ c ≠ '#' := by
  refine forall_mem_intercalate (List.all_iff_forall_prop.mp (by decide)) fun word member => ?_
  rcases List.mem_cons.mp member with rfl | member
  · refine forall_mem_head (by decide) fun d => ?_
    cases d <;> decide
  · obtain ⟨value, valued, rfl⟩ := List.mem_map.mp member
    have isValue := writable.isValue value valued
    exact fun c inside =>
      ⟨isLineEnd_eq_false (isValue.isWord.2 c inside), isValue.noSign c inside⟩

end Term

/-! ## Criteria -/

/-- Terms with plus signs between them; no terms at all ask for everything. -/
def criteriaText : List Term → List Char
  | [] => "all".toList
  | term :: terms => [' ', '+', ' '].intercalate ((term :: terms).map Term.text)

/-- Criteria begin neither with a blank nor with a comment, nor as a declaration does. -/
theorem head?_criteriaText (terms : List Term) : ∃ c, (criteriaText terms).head? = some c ∧
    isBlank c = false ∧ c ≠ '/' ∧ c ≠ 'p' ∧ c ≠ 'f' := by
  cases terms with
  | nil => exact ⟨'a', by decide⟩
  | cons term terms =>
    obtain ⟨afterTerm, split⟩ : term.text <+: criteriaText (term :: terms) := prefix_intercalate
    obtain ⟨afterHead, split'⟩ : term.head <+: term.text := prefix_intercalate
    have starts : (criteriaText (term :: terms)).head? = term.head.head? := by
      rw [← split, ← split', List.append_assoc, List.head?_append_of_ne_nil _ term.head_ne_nil]
    refine ⟨term.head.head term.head_ne_nil, ?_, ?_⟩
    · rw [starts, List.head?_eq_some_head]
    · refine Term.forall_mem_head (p := fun c => isBlank c = false ∧ c ≠ '/' ∧ c ≠ 'p' ∧ c ≠ 'f')
        (by decide) (fun d => ?_) _ (List.head_mem term.head_ne_nil)
      cases d <;> decide

section Criteria

variable {terms : List Term} {criteria : Criteria} (lists : Lists (Term.constraints terms) criteria)
  (writable : criteria.IsWritable)
include lists writable

/-- Criteria are read back. -/
theorem parseCriteria_criteriaText : parseCriteria (criteriaText terms) = .ok criteria := by
  have isWritable := Term.isWritable_of_lists lists writable
  cases terms with
  | nil =>
    rw [← lists.completes.eq_of_nil]
    rfl
  | cons term terms =>
    -- the text is cut between the terms only, and each part gives the words of its term
    have read : (splitAt '+' (criteriaText (term :: terms))).map words =
        (term :: terms).map Term.words := by
      rw [criteriaText, map_words_splitAt_intercalate (by simp), List.map_map]
      · exact List.map_congr_left fun term member => Term.words_text (isWritable term member)
      · intro part member plus
        obtain ⟨term, written, rfl⟩ := List.mem_map.mp member
        exact (Term.forall_mem_text (isWritable term written) _ plus).2.1 rfl
    rw [parseCriteria, read]
    exact Term.foldlM_addTerm isWritable lists.completes

/-- Criteria stay on their line, before the first colon, and start no comment. -/
theorem forall_mem_criteriaText :
    ∀ c ∈ criteriaText terms, isLineEnd c = false ∧ c ≠ ':' ∧ c ≠ '#' := by
  have isWritable := Term.isWritable_of_lists lists writable
  cases terms with
  | nil => exact List.all_iff_forall_prop.mp (by decide)
  | cons term terms =>
    refine forall_mem_intercalate (List.all_iff_forall_prop.mp (by decide))
      fun part member c inside => ?_
    obtain ⟨term, written, rfl⟩ := List.mem_map.mp member
    obtain ⟨onLine, -, noColon, noComment⟩ :=
      Term.forall_mem_text (isWritable term written) c inside
    exact ⟨onLine, noColon, noComment⟩

end Criteria

/-! ## Policies -/

/-- Letters and ids in turn. -/
def policyWords (policies : List (PolicyType × String)) : List (List Char) :=
  policies.flatMap fun (type, id) => [[type.letter], id.toList]

def policiesText (policies : List (PolicyType × String)) : List Char :=
  [' '].intercalate (policyWords policies)

section Policies

variable {given : List (PolicyType × String)} {policies : Assignments}

/-- Policies that complete an assignment are read one by one. -/
theorem addPolicies_policyWords {start : Assignments} (complete : Completes start given policies) :
    addPolicies start (policyWords given) = .ok policies := by
  induction given generalizing start with
  | nil =>
    rw [← complete.eq_of_nil]
    rfl
  | cons pair given ih =>
    obtain ⟨type, id⟩ := pair
    have unassigned : start type = none := complete.free _ _ List.mem_cons_self
    have words : policyWords ((type, id) :: given) =
        [type.letter] :: id.toList :: policyWords given := rfl
    rw [words, addPolicies]
    simp only [PolicyType.ofWord?_letter, unassigned, String.ofList_toList]
    exact ih complete.tail

theorem length_policyWords : (policyWords given).length = 2 * given.length := by
  induction given with
  | nil => rfl
  | cons pair given ih =>
    simp only [policyWords, List.flatMap_cons, List.length_append, List.length_cons,
      List.length_nil] at ih ⊢
    omega

variable (lists : Lists given policies) (writable : policies.IsWritable)
include lists writable

theorem forall_mem_policyWords : ∀ word ∈ policyWords given, IsWord word ∧ '#' ∉ word := by
  intro word member
  obtain ⟨⟨type, id⟩, listed, member⟩ := List.mem_flatMap.mp member
  have written := writable type id ((lists.mem_iff type id).mp listed)
  simp only [List.mem_cons, List.not_mem_nil, or_false] at member
  rcases member with rfl | rfl
  · cases type <;> decide
  · exact ⟨written.isWord, written.noComment⟩

/-- Policies are read back, also behind a blank. -/
theorem parsePolicies_policiesText : parsePolicies (' ' :: policiesText given) = .ok policies := by
  have read : words (' ' :: policiesText given) = policyWords given := by
    rw [words_cons_blank (by decide)]
    exact words_intercalate fun word member =>
      (forall_mem_policyWords lists writable word member).1
  have even : ¬ (policyWords given).length % 2 = 1 := by
    rw [length_policyWords]
    omega
  simp only [parsePolicies, read, even, if_false]
  exact addPolicies_policyWords lists.completes

/-- Policies stay on their line and start no comment. -/
theorem forall_mem_policiesText :
    ∀ c ∈ policiesText given, isLineEnd c = false ∧ c ≠ '#' := by
  refine forall_mem_intercalate (List.all_iff_forall_prop.mp (by decide))
    fun word member c inside => ?_
  obtain ⟨isWord, noComment⟩ := forall_mem_policyWords lists writable word member
  refine ⟨isLineEnd_eq_false (isWord.2 c inside), ?_⟩
  rintro rfl
  exact noComment inside

/-- Policies do not end with a blank. -/
theorem getLast?_policiesText (assigns : ∃ type id, policies type = some id) :
    ∃ c, (policiesText given).getLast? = some c ∧ isBlank c = false := by
  obtain ⟨type, id, assigned⟩ := assigns
  have listed : (type, id) ∈ given := (lists.mem_iff type id).mpr assigned
  have nonempty : policyWords given ≠ [] := by
    intro empty
    have length : (policyWords given).length = 2 * given.length := length_policyWords
    have some : 0 < given.length := List.length_pos_of_mem listed
    rw [empty, List.length_nil] at length
    omega
  -- the last word ends the text, and a word has no blanks
  have last := List.getLast?_eq_some_getLast nonempty
  have isWord := (forall_mem_policyWords lists writable _ (List.getLast_mem nonempty)).1
  obtain ⟨before, split⟩ : _ <:+ policiesText given := suffix_intercalate last
  refine ⟨_, ?_, isWord.2 _ (List.getLast_mem isWord.1)⟩
  rw [← split, List.getLast?_append, List.getLast?_eq_some_getLast isWord.1]
  rfl

end Policies

end Lending
