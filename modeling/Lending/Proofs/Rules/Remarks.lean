import Lending.Proofs.Rules.Kinds
import Lending.Proofs.Rules.Precedence
import Mathlib.Order.Monotone.Basic

/-!
# Remarks in rule texts

Blank lines, comment lines and comments behind a line may be put into a rule text without changing
what it says. The lines of the rules are numbered differently then, but they keep their order, and
a matcher looks at no more than the order of lines: it ranks the same rules in the same way and
selects the same policies.

Two readings are compared step by step. The draft of the annotated text is that of the text itself
with other line numbers; a remark leaves it as it is, and any other line makes the same step in
both.

## Main definitions

* `RuleLine.IsRemark`, `RuleLine.Annotated` — lines that say nothing, and a text with remarks put in
* `Draft.renumbered`, `RuleSet.renumbered` — the same with other line numbers

## Main results

* `Draft.exists_readAlike` — the two drafts differ only in their line numbers
* `Ranking.precedes_renumbered_iff` — precedence only looks at the order of lines
* `RuleSet.ofText_annotated` — remarks do not change what a text says
-/

namespace Lending

open RuleTextError (Cause)

namespace RuleLine

variable {line remark blanks : List Char}

/-! ## Remarks -/

/-- A line that says nothing: it is blank, or its first character other than blanks starts a
comment. -/
inductive IsRemark (line : List Char) : Prop
  | blank (empty : ∀ c ∈ line, isBlank c = true)
  | comment {blanks rest : List Char} {mark : Char} (split : line = blanks ++ mark :: rest)
      (indented : ∀ c ∈ blanks, isBlank c = true) (starts : mark = '#' ∨ mark = '/')

/-- The lines of a text with remarks put in: lines of their own, or comments behind other lines. -/
inductive Annotated : List (List Char) → List (List Char) → Prop
  | nil : Annotated [] []
  | inserted {remark : List Char} {lines annotated : List (List Char)} (silent : IsRemark remark)
      (rest : Annotated lines annotated) : Annotated lines (remark :: annotated)
  | kept {line : List Char} {lines annotated : List (List Char)}
      (rest : Annotated lines annotated) : Annotated (line :: lines) (line :: annotated)
  | appended {line : List Char} {lines annotated : List (List Char)} (remark : List Char)
      (rest : Annotated lines annotated) :
      Annotated (line :: lines) ((line ++ '#' :: remark) :: annotated)

theorem takeWhile_append_remark :
    (line ++ '#' :: remark).takeWhile (· ≠ '#') = line.takeWhile (· ≠ '#') := by
  rw [List.takeWhile_append]
  split
  · next whole =>
    rw [List.takeWhile_cons_of_neg (by simp), List.append_nil]
    exact ((List.takeWhile_prefix _).eq_of_length whole).symm
  · rfl

/-- A comment behind a line is taken off with the one that the line has, if any. -/
theorem stripComment_append_remark : stripComment (line ++ '#' :: remark) = stripComment line := by
  unfold stripComment
  rw [takeWhile_append_remark, List.dropWhile_append]
  cases line.dropWhile isBlank with
  | nil => rfl
  | cons c rest =>
    -- only the first character tells whether the line is a comment as a whole
    simp only [List.isEmpty_cons, Bool.false_eq_true, if_false, List.cons_append]
    by_cases slash : c = '/'
    · subst slash
      rfl
    · simp [slash]

theorem mem_of_mem_stripComment {c : Char} (member : c ∈ stripComment line) : c ∈ line := by
  unfold stripComment at member
  split at member
  · simp at member
  · have kept : c ∈ (line.takeWhile (· ≠ '#')).reverse :=
      (List.dropWhile_sublist _).subset (List.mem_reverse.mp member)
    exact (List.takeWhile_prefix _).subset (List.mem_reverse.mp kept)

theorem IsRemark.ofText (silent : IsRemark line) : ofText line = .ok .blank := by
  refine ofText_eq_ok_iff.mpr (.blank (body_eq_nil_iff.mpr fun c member => ?_))
  cases silent with
  | blank empty => exact empty c (mem_of_mem_stripComment member)
  | @comment blanks rest mark split indented starts =>
    rw [split] at member
    rcases starts with rfl | rfl
    · rw [stripComment_append_remark] at member
      exact indented c (mem_of_mem_stripComment member)
    · -- the slash is the first character that is not a blank
      have start : (blanks ++ '/' :: rest).dropWhile isBlank = '/' :: rest := by
        rw [List.dropWhile_append_of_pos indented, List.dropWhile_cons_of_neg (by decide)]
      simp [stripComment, start] at member

end RuleLine

open RuleLine

/-! ## Other line numbers -/

section Renumbering

variable (number : Nat → Nat)

/-- A rule on another line. -/
def Rule.renumbered (rule : Rule) : Rule := { rule with line := number rule.line }

/-- A draft whose rules are on other lines. -/
def Draft.renumbered (draft : Draft) : Draft :=
  { draft with
    rules := draft.rules.map (·.renumbered number)
    fallback := draft.fallback.map (·.renumbered number) }

/-- A rule set whose rules are on other lines. -/
def RuleSet.renumbered (set : RuleSet) : RuleSet :=
  { set with
    rules := set.rules.map (·.renumbered number)
    fallback := set.fallback.map (·.renumbered number) }

/-- A selected policy whose rule is on another line. -/
def RuleMatch.renumbered (found : RuleMatch) : RuleMatch :=
  { found with rule := found.rule.renumbered number }

theorem Rule.answer?_renumbered (rule : Rule) (type : PolicyType) (isFallback : Bool) :
    (rule.renumbered number).answer? type isFallback =
      (rule.answer? type isFallback).map (·.renumbered number) := by
  simp only [answer?, Option.map_map]
  rfl

end Renumbering

namespace Draft

variable {number : Nat → Nat} {draft next final : Draft} {n m : Nat} {text other : List Char}

theorem renumbered_extendedBy (scope : Scope) :
    (draft.extendedBy n scope).renumbered number =
      (draft.renumbered number).extendedBy (number n) scope := by
  simp only [renumbered, extendedBy, List.map_append, Scope.rules]
  split <;> rfl

/-- A line makes the same step under another number and with another comment. -/
theorem Step.renumbered (step : draft.Step n text next)
    (same : stripComment other = stripComment text) :
    (draft.renumbered number).Step (number n) other (next.renumbered number) := by
  have kinds : RuleLine.ofText other = RuleLine.ofText text := ofText_congr same
  cases step with
  | blank kind => exact .blank (kinds.trans kind)
  | priority kind first parsed => exact .priority (kinds.trans kind) first parsed
  | fallback kind first parsed =>
    exact .fallback (kinds.trans kind) (by simp [Draft.renumbered, first]) parsed
  | rule kind criteriaParsed policiesParsed =>
    rw [renumbered_extendedBy]
    exact .rule (kinds.trans kind) criteriaParsed policiesParsed

/-- What the draft of some lines has in common with that of annotated lines in which they stand at
the given places: whatever the numbers of the first lines, the drafts differ only in the line
numbers of their rules. -/
def ReadAlike (lines annotated : List (List Char)) (place : Nat → Nat) : Prop :=
  ∀ (number : Nat → Nat) (n m : Nat) (draft final : Draft),
    (∀ k, number (n + k) = m + place k) → draft.addLines n lines = .ok final →
      (draft.renumbered number).addLines m annotated = .ok (final.renumbered number)

/-- The places of the lines below a line that is in both texts. -/
def placeBelow (place : Nat → Nat) : Nat → Nat
  | 0 => 0
  | k + 1 => place k + 1

theorem strictMono_placeBelow {place : Nat → Nat} (increasing : StrictMono place) :
    StrictMono (placeBelow place) := by
  refine strictMono_nat_of_lt_succ fun k => ?_
  cases k with
  | zero => exact Nat.succ_pos _
  | succ k => exact Nat.succ_lt_succ (increasing (Nat.lt_succ_self k))

variable {lines annotated : List (List Char)} {place : Nat → Nat} {line remark : List Char}

theorem ReadAlike.inserted (alike : ReadAlike lines annotated place) (silent : IsRemark remark) :
    ReadAlike lines (remark :: annotated) fun k => place k + 1 := by
  intro number n m draft final placed accepted
  -- scopes are left open by a remark, whatever its own indentation is
  have untouched : (draft.renumbered number).addLine m remark = .ok (draft.renumbered number) :=
    addLine_eq_ok_iff.mpr (.blank silent.ofText)
  simp only [addLines, untouched]
  refine alike number n (m + 1) draft final (fun k => ?_) accepted
  rw [placed k, Nat.add_assoc, Nat.add_comm 1]

theorem ReadAlike.cons (alike : ReadAlike lines annotated place)
    (same : stripComment other = stripComment line) :
    ReadAlike (line :: lines) (other :: annotated) (placeBelow place) := by
  intro number n m draft final placed accepted
  simp only [addLines] at accepted
  cases taken : draft.addLine n line with
  | error cause => simp [taken] at accepted
  | ok next =>
    rw [taken] at accepted
    have step : (draft.renumbered number).Step (number n) other (next.renumbered number) :=
      (addLine_eq_ok_iff.mp taken).renumbered same
    rw [show number n = m from placed 0] at step
    simp only [addLines, addLine_eq_ok_iff.mpr step]
    refine alike number (n + 1) (m + 1) next final (fun k => ?_) accepted
    rw [Nat.add_assoc, Nat.add_comm 1, placed (k + 1), placeBelow, Nat.add_assoc, Nat.add_comm 1]

/-- The lines of a text stand at some places of the annotated text, in their order, and both are
read alike. -/
theorem exists_readAlike (remarks : Annotated lines annotated) :
    ∃ place : Nat → Nat, StrictMono place ∧ ReadAlike lines annotated place := by
  -- a remark moves all lines below it down, and any other line stands at the same place in both
  induction remarks with
  | nil =>
    refine ⟨id, strictMono_id, fun number n m draft final _ accepted => ?_⟩
    obtain rfl := Except.ok.inj accepted
    rfl
  | inserted silent rest ih =>
    obtain ⟨place, increasing, alike⟩ := ih
    exact ⟨_, fun a b less => Nat.succ_lt_succ (increasing less), alike.inserted silent⟩
  | kept rest ih =>
    obtain ⟨place, increasing, alike⟩ := ih
    exact ⟨_, strictMono_placeBelow increasing, alike.cons rfl⟩
  | appended remark rest ih =>
    obtain ⟨place, increasing, alike⟩ := ih
    exact ⟨_, strictMono_placeBelow increasing, alike.cons stripComment_append_remark⟩

theorem checkFallback_renumbered (number : Nat → Nat) (checked : draft.checkFallback = .ok ()) :
    (draft.renumbered number).checkFallback = .ok () := by
  unfold checkFallback at checked ⊢
  cases given : draft.fallback with
  | none => simp [given] at checked
  | some fallback => simpa [given, Draft.renumbered, Rule.renumbered] using checked

end Draft

/-! ## Ranking -/

section Ranking

variable {number : Nat → Nat} {ranking : Ranking} {tieBreak : TieBreak} {a b : Rule}

theorem PriorityKey.prefers_renumbered_iff (increasing : StrictMono number) (key : PriorityKey)
    (order : List Dimension) :
    key.Prefers order tieBreak (a.renumbered number) (b.renumbered number) ↔
      key.Prefers order tieBreak a b := by
  cases key with
  | numberOfCriteria | criterium => rfl
  | line => cases tieBreak <;> exact increasing.lt_iff_lt

/-- Precedence only looks at the order of lines. -/
theorem Ranking.precedes_renumbered_iff (increasing : StrictMono number) :
    ranking.Precedes tieBreak (a.renumbered number) (b.renumbered number) ↔
      ranking.Precedes tieBreak a b := by
  simp only [Precedes, PriorityKey.prefers_renumbered_iff increasing]

end Ranking

namespace Rulebook

variable {number : Nat → Nat} {set : RuleSet} {tieBreak : Option TieBreak}
  {request : Circumstances} {type : PolicyType}

theorem goesBefore_renumbered (increasing : StrictMono number) (a b : Rule) :
    (ofRules (set.renumbered number) tieBreak).goesBefore (a.renumbered number)
        (b.renumbered number) = (ofRules set tieBreak).goesBefore a b := by
  rw [Bool.eq_iff_iff, goesBefore_eq_true_iff, goesBefore_eq_true_iff]
  exact not_congr (Ranking.precedes_renumbered_iff increasing)

/-- The rules that match are the same, in the same order. -/
theorem matching_renumbered (increasing : StrictMono number) :
    (ofRules (set.renumbered number) tieBreak).matching request type =
      ((ofRules set tieBreak).matching request type).map (·.renumbered number) := by
  unfold matching
  -- sorting compares rules only with each other, so that it may be done before or after
  rw [List.map_mergeSort fun a _ b _ => (goesBefore_renumbered increasing a b).symm]
  congr 1
  exact List.filter_map

/-- The policies that are selected are the same. -/
theorem select_renumbered (increasing : StrictMono number) :
    (ofRules (set.renumbered number) tieBreak).select request type =
      ((ofRules set tieBreak).select request type).map (·.renumbered number) := by
  have fallback : (ofRules (set.renumbered number) tieBreak).set.fallback =
      (ofRules set tieBreak).set.fallback.map (·.renumbered number) := rfl
  unfold select
  rw [matching_renumbered increasing, fallback]
  cases (ofRules set tieBreak).matching request type with
  | cons winner rest =>
    simp only [List.map_cons, Rule.answer?_renumbered]
    cases winner.answer? type false <;> rfl
  | nil =>
    cases (ofRules set tieBreak).set.fallback with
    | none => rfl
    | some fallback =>
      simp only [List.map_nil, Option.map_some, Option.bind_some, Rule.answer?_renumbered]
      cases fallback.answer? type true <;> rfl

end Rulebook

/-! ## Texts -/

/-- **Remarks.** A text that is accepted stays so when remarks are put in. It says the same, except
that its lines have other numbers, which come in the same order. Whatever tie break a matcher is
given, it ranks the same rules in the same order for every request, and selects the same
policies. -/
theorem RuleSet.ofText_annotated {text annotated : String} {requireFallback : Bool} {set : RuleSet}
    (accepted : ofText text requireFallback = .ok set)
    (remarks : Annotated (splitLines text.toList) (splitLines annotated.toList)) :
    ∃ number : Nat → Nat, StrictMono number ∧
      ofText annotated requireFallback = .ok (set.renumbered number) ∧
      ∀ (tieBreak : Option TieBreak) (request : Circumstances) (type : PolicyType),
        (Rulebook.ofRules (set.renumbered number) tieBreak).matching request type =
            ((Rulebook.ofRules set tieBreak).matching request type).map (·.renumbered number) ∧
          (Rulebook.ofRules (set.renumbered number) tieBreak).select request type =
            ((Rulebook.ofRules set tieBreak).select request type).map (·.renumbered number) := by
  obtain ⟨draft, read, complete, rfl⟩ := ofText_eq_ok_iff.mp accepted
  obtain ⟨place, increasing, alike⟩ := Draft.exists_readAlike remarks
  have below := Draft.strictMono_placeBelow increasing
  refine ⟨Draft.placeBelow place, below, ?_, fun tieBreak request type =>
    ⟨Rulebook.matching_renumbered below, Rulebook.select_renumbered below⟩⟩
  refine ofText_eq_ok_iff.mpr ⟨draft.renumbered (Draft.placeBelow place), ?_, fun required =>
    draft.checkFallback_renumbered _ (complete required), rfl⟩
  exact alike (Draft.placeBelow place) 1 1 {} draft
    (fun k => by rw [Nat.add_comm 1, Draft.placeBelow, Nat.add_comm]) read

/-- Two rules, the second one nested in the first. -/
def nestedRules : String := "m b: l x\n g u: l y"

/-- The same rules with remarks, some of them between the two and not indented. -/
def remarkedRules : String := "# rules\nm b: l x# x\n\t\n/ m b: r z\n g u: l y#: \n"

theorem nestedRules_remarked : ∃ set number, RuleSet.ofText nestedRules false = .ok set ∧
    set.rules.map (·.line) = [1, 2] ∧ StrictMono number ∧
    RuleSet.ofText remarkedRules false = .ok (set.renumbered number) ∧
    ∀ (tieBreak : Option TieBreak) (request : Circumstances) (type : PolicyType),
      (Rulebook.ofRules (set.renumbered number) tieBreak).matching request type =
          ((Rulebook.ofRules set tieBreak).matching request type).map (·.renumbered number) ∧
        (Rulebook.ofRules (set.renumbered number) tieBreak).select request type =
          ((Rulebook.ofRules set tieBreak).select request type).map (·.renumbered number) := by
  have remarks : Annotated (splitLines nestedRules.toList) (splitLines remarkedRules.toList) := by
    have title : IsRemark "# rules".toList :=
      .comment (show _ = [] ++ '#' :: " rules".toList from rfl) (by simp) (.inl rfl)
    have empty : IsRemark "\t".toList := .blank (List.all_eq_true.mp (by decide))
    have disabled : IsRemark "/ m b: r z".toList :=
      .comment (show _ = [] ++ '/' :: " m b: r z".toList from rfl) (by simp) (.inr rfl)
    exact .inserted title (.appended " x".toList (.inserted empty (.inserted disabled
      (.appended ": ".toList .nil))))
  have read : (RuleSet.ofText nestedRules false).toOption.map (fun set => set.rules.map (·.line)) =
      some [1, 2] := by
    decide +kernel
  cases accepted : RuleSet.ofText nestedRules false with
  | error error => simp [accepted, Except.toOption] at read
  | ok set =>
    obtain ⟨number, increasing, alike⟩ := RuleSet.ofText_annotated accepted remarks
    refine ⟨set, number, rfl, ?_, increasing, alike⟩
    simpa [accepted, Except.toOption] using read

end Lending
