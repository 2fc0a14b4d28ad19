import Lending.Proofs.Rules.Acceptance
import Lending.Rules.Match
import Mathlib.Tactic.Choose

/-!
# Which requests are answered

A request is answered by the best rule that matches it, and by the fallback when none does. The
fallback is not among the rules that are ranked, so that it neither comes before a rule nor hides
one. In a text it is a line of its own, and whether a request can go unanswered is seen from the
text: it is one that no rule matches, for a kind of policy that no fallback line gives. Where a
complete fallback is required there is no such request, whatever values it lacks.

## Main definitions

* `Rulebook.Answers` — the policies that a rulebook gives, with one case for rules and one for the
  fallback
* `RuleLine.GivesFallback` — a line that gives the fallback policy of a kind

## Main results

* `Rulebook.select_eq_ok_iff`, `Rulebook.select_eq_error_iff` — when a policy is selected, and when
  none is
* `RuleSet.assigns_fallback_iff` — the fallback of a text is what its line gives
* `RuleSet.answers_of_ofText` — which requests the rules of a text answer
-/

namespace Lending

/-! ## Answers of a rulebook -/

theorem Rule.answer?_eq_some_iff {rule : Rule} {type : PolicyType} {isFallback : Bool}
    {found : RuleMatch} : rule.answer? type isFallback = some found ↔
      ∃ id, rule.policies type = some id ∧ ⟨type, id, rule, isFallback⟩ = found :=
  Option.map_eq_some_iff

theorem Rule.answer?_eq_none_iff {rule : Rule} {type : PolicyType} {isFallback : Bool} :
    rule.answer? type isFallback = none ↔ rule.assigns type = false := by
  rw [answer?, Option.map_eq_none_iff, assigns, ← Option.not_isSome_iff_eq_none, Bool.not_eq_true]

namespace Rulebook

variable {book : Rulebook} {request : Circumstances} {type : PolicyType}

theorem matching_eq_nil_iff :
    book.matching request type = [] ↔
      ∀ rule ∈ book.set.rules, rule.assigns type = true → ¬ rule.Matches request := by
  rw [List.eq_nil_iff_forall_not_mem]
  simp only [mem_matching, not_and]

/-- The policies that a rulebook gives for a request: that of the best matching rule, or that of the
fallback if no rule matches. -/
inductive Answers (book : Rulebook) (request : Circumstances) (type : PolicyType) :
    RuleMatch → Prop
  | rule {winner : Rule} {rest : List Rule} {id : String}
      (best : book.matching request type = winner :: rest)
      (given : winner.policies type = some id) : Answers book request type ⟨type, id, winner, false⟩
  | fallback {fallback : Rule} {id : String} (unmatched : book.matching request type = [])
      (declared : book.set.fallback = some fallback) (given : fallback.policies type = some id) :
      Answers book request type ⟨type, id, fallback, true⟩

theorem select_eq_ok_iff {found : RuleMatch} :
    book.select request type = .ok found ↔ book.Answers request type found := by
  unfold select
  constructor
  · intro selected
    cases ranked : book.matching request type with
    | cons winner rest =>
      rw [ranked] at selected
      cases answer : winner.answer? type false with
      | none => simp [answer] at selected
      | some result =>
        obtain ⟨id, given, rfl⟩ := Rule.answer?_eq_some_iff.mp answer
        obtain rfl : _ = found := by simpa [answer] using selected
        exact .rule ranked given
    | nil =>
      rw [ranked] at selected
      cases answer : book.set.fallback.bind (·.answer? type true) with
      | none => simp [answer] at selected
      | some result =>
        obtain ⟨fallback, declared, answer'⟩ := Option.bind_eq_some_iff.mp answer
        obtain ⟨id, given, rfl⟩ := Rule.answer?_eq_some_iff.mp answer'
        obtain rfl : _ = found := by simpa [answer] using selected
        exact .fallback ranked declared given
  · intro answers
    cases answers with
    | rule best given => simp [best, Rule.answer?, given]
    | fallback unmatched declared given => simp [unmatched, declared, Rule.answer?, given]

/-- A request goes unanswered if no rule matches it and the fallback does not give the policy. -/
theorem select_eq_error_iff {failure : Failure} :
    book.select request type = .error failure ↔
      failure = .noApplicableRule type.label (Circumstances.parameters request) ∧
        book.matching request type = [] ∧
          ∀ fallback ∈ book.set.fallback, fallback.assigns type = false := by
  unfold select
  cases ranked : book.matching request type with
  | cons winner rest =>
    -- the best rule gives the policy, or else it would not be listed
    have listed : winner ∈ book.matching request type := by simp [ranked]
    have assigns : winner.assigns type = true := (mem_matching.mp listed).2.1
    obtain ⟨id, given⟩ := Option.isSome_iff_exists.mp assigns
    simp [Rule.answer?, given]
  | nil =>
    have reported {expected : Failure} :
        (Except.error expected : Outcome RuleMatch) = .error failure ↔ failure = expected := by
      rw [Except.error.injEq, eq_comm]
    cases declared : book.set.fallback with
    | none => simp [reported]
    | some fallback =>
      cases answer : fallback.answer? type true with
      | none => simp [answer, reported, Rule.answer?_eq_none_iff.mp answer]
      | some result =>
        obtain ⟨id, given, -⟩ := Rule.answer?_eq_some_iff.mp answer
        simp [answer, Rule.assigns, given]

/-- Policies of all kinds are selected if one of each kind is. -/
theorem selectAll_eq_ok {found : PolicyType → RuleMatch}
    (each : ∀ type, book.select request type = .ok (found type)) :
    book.selectAll request = .ok (PolicyType.all.map found) := by
  unfold selectAll
  induction PolicyType.all with
  | nil => rfl
  | cons type types ih => simp [List.mapM_cons, each, ih]

end Rulebook

/-! ## Fallbacks of a text -/

open RuleLine

/-- A line that gives the fallback policy of a kind. -/
def RuleLine.GivesFallback (line : List Char) (type : PolicyType) : Prop :=
  ∃ rest policies, body line = "fallback-policy:".toList ++ rest ∧
    parsePolicies rest = .ok policies ∧ (policies type).isSome = true

theorem Assignments.missing_eq_nil_iff {policies : Assignments} :
    policies.missing = [] ↔ ∀ type, (policies type).isSome = true := by
  simp [missing, List.filter_eq_nil_iff, PolicyType.mem_all, Option.isSome_iff_ne_none]

namespace Draft

variable {draft : Draft} {lines : List (List Char)} {type : PolicyType}

/-- A required fallback suffices if it gives policies of all kinds. -/
theorem checkFallback_eq_ok_iff :
    draft.checkFallback = .ok () ↔
      ∃ fallback ∈ draft.fallback, ∀ type, fallback.assigns type = true := by
  unfold checkFallback
  cases draft.fallback with
  | none => simp
  | some fallback =>
    simp only [Option.mem_some_iff, exists_eq_left', Rule.assigns,
      ← Assignments.missing_eq_nil_iff, List.isEmpty_iff]
    split
    · next complete => simp [complete]
    · next lacking => simp [lacking]

theorem Records.assigns_fallback_iff (faultless : Faultless lines)
    (records : draft.Records lines) :
    (∃ fallback ∈ draft.fallback, fallback.assigns type = true) ↔
      ∃ line ∈ lines, GivesFallback line type := by
  constructor
  · rintro ⟨fallback, given, assigns⟩
    obtain ⟨before, line, after, rest, split, declares, parsed, -⟩ :=
      records.given fallback given
    exact ⟨line, by simp [split], rest, fallback.policies, declares, parsed, assigns⟩
  · rintro ⟨line, member, rest, policies, declares, parsed, assigns⟩
    obtain ⟨before, after, split⟩ := List.append_of_mem member
    obtain ⟨fallback, given, rfl, -⟩ := records.fallback_of_line faultless split declares parsed
    exact ⟨fallback, given, assigns⟩

end Draft

namespace RuleSet

variable {text : String} {requireFallback : Bool} {set : RuleSet}

/-- The fallback of a text gives a policy exactly if one of its lines does. -/
theorem assigns_fallback_iff (accepted : ofText text requireFallback = .ok set)
    {type : PolicyType} :
    (∃ fallback ∈ set.fallback, fallback.assigns type = true) ↔
      ∃ line ∈ splitLines text.toList, GivesFallback line type := by
  obtain ⟨draft, read, -, rfl⟩ := ofText_eq_ok_iff.mp accepted
  obtain ⟨faultless, records⟩ := Draft.records_of_addLines read
  exact records.assigns_fallback_iff faultless

theorem exists_fallback_of_required (accepted : ofText text true = .ok set) :
    ∃ fallback ∈ set.fallback, ∀ type, fallback.assigns type = true := by
  obtain ⟨draft, -, complete, rfl⟩ := ofText_eq_ok_iff.mp accepted
  exact Draft.checkFallback_eq_ok_iff.mp (complete rfl)

/-- **Answers.** The rules of an accepted text leave a request unanswered exactly if no rule that
assigns the kind of policy matches it and no line gives the fallback of that kind; this is the only
failure. A policy is said to be the fallback's exactly if no rule matches. If a complete fallback is
required, every request is answered, for each kind of policy and for all kinds at once. -/
theorem answers_of_ofText (accepted : ofText text requireFallback = .ok set)
    (tieBreak : Option TieBreak) (request : Circumstances) :
    (∀ type failure, (Rulebook.ofRules set tieBreak).select request type = .error failure ↔
        failure = .noApplicableRule type.label (Circumstances.parameters request) ∧
          (∀ rule ∈ set.rules, rule.assigns type = true → ¬ rule.Matches request) ∧
            ∀ line ∈ splitLines text.toList, ¬ GivesFallback line type) ∧
      (∀ type found, (Rulebook.ofRules set tieBreak).select request type = .ok found →
        (found.isFallback = true ↔ (Rulebook.ofRules set tieBreak).matching request type = [])) ∧
      (requireFallback = true → ∃ found : PolicyType → RuleMatch,
        (∀ type, (Rulebook.ofRules set tieBreak).select request type = .ok (found type)) ∧
          (Rulebook.ofRules set tieBreak).selectAll request =
            .ok (PolicyType.all.map found)) := by
  refine ⟨fun type failure => ?_, fun type found selected => ?_, ?_⟩
  · have lacking : (∀ fallback ∈ set.fallback, fallback.assigns type = false) ↔
        ∀ line ∈ splitLines text.toList, ¬ GivesFallback line type := by
      have given : (∃ fallback ∈ set.fallback, fallback.assigns type = true) ↔
          ∃ line ∈ splitLines text.toList, GivesFallback line type := assigns_fallback_iff accepted
      simpa using not_congr given
    rw [Rulebook.select_eq_error_iff, Rulebook.matching_eq_nil_iff]
    exact and_congr_right fun _ => and_congr_right fun _ => lacking
  · cases Rulebook.select_eq_ok_iff.mp selected with
    | rule best given => simp [best]
    | fallback unmatched declared given => simp [unmatched]
  · rintro rfl
    obtain ⟨fallback, declared, complete⟩ := exists_fallback_of_required accepted
    have answered (type : PolicyType) :
        ∃ found, (Rulebook.ofRules set tieBreak).select request type = .ok found := by
      cases selected : (Rulebook.ofRules set tieBreak).select request type with
      | ok found => exact ⟨found, rfl⟩
      | error failure =>
        obtain ⟨-, -, lacking⟩ := Rulebook.select_eq_error_iff.mp selected
        exact absurd (complete type) (by simp [lacking fallback declared])
    choose found selected using answered
    exact ⟨found, selected, Rulebook.selectAll_eq_ok selected⟩

/-- A complete fallback, and two rules of which the second one also matches requests that have no
material type. -/
def deskRules : String := "fallback-policy: l a r b n c o d i e\nm x: l f\n!m x: r g"

/-- A request without any values. -/
def stranger : Circumstances := fun _ => none

theorem deskRules_answer : ∃ set, ofText deskRules true = .ok set ∧
    set.rules.map (fun rule => (rule.line, decide (rule.Matches stranger))) =
      [(2, false), (3, true)] ∧
    (∀ type failure, (Rulebook.ofRules set none).select stranger type = .error failure ↔
        failure = .noApplicableRule type.label (Circumstances.parameters stranger) ∧
          (∀ rule ∈ set.rules, rule.assigns type = true → ¬ rule.Matches stranger) ∧
            ∀ line ∈ splitLines deskRules.toList, ¬ GivesFallback line type) ∧
      (∀ type found, (Rulebook.ofRules set none).select stranger type = .ok found →
        (found.isFallback = true ↔ (Rulebook.ofRules set none).matching stranger type = [])) ∧
      ∃ found : PolicyType → RuleMatch,
        (∀ type, (Rulebook.ofRules set none).select stranger type = .ok (found type)) ∧
          (Rulebook.ofRules set none).selectAll stranger = .ok (PolicyType.all.map found) := by
  have matched : (ofText deskRules true).toOption.map (fun set : RuleSet =>
      set.rules.map fun rule => (rule.line, decide (rule.Matches stranger))) =
      some [(2, false), (3, true)] := by decide +kernel
  cases accepted : ofText deskRules true with
  | error cause => simp [accepted, Except.toOption] at matched
  | ok set =>
    obtain ⟨unanswered, ofFallback, answered⟩ := answers_of_ofText accepted none stranger
    exact ⟨set, rfl, by simpa [accepted, Except.toOption] using matched, unanswered, ofFallback,
      answered rfl⟩

end RuleSet

end Lending
