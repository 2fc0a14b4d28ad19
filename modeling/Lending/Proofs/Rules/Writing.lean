import Lending.Proofs.Rules.Kinds
import Lending.Proofs.Rules.Reading
import Lending.Proofs.Rules.Spelling

/-!
# Writing rule texts

Every list of rules with a complete fallback can be written as a text, with the fallback on the
first line and below it one line for each rule. What is written is read back, in whatever order the
terms, values and policies of a line are put down.

A written line begins and ends with a word and has no comment, so that it is read as it stands. Its
first letter tells a rule from the declarations, and its first colon is the one before the policies.

## Main definitions

* `RuleLine.IsBare` — a line that is read as it stands
* `Wording`, `Wording.Expresses` — an order for what stands on the line of a rule
* `ruleText` — a rule list as a text

## Main results

* `Wording.Expresses.addLine_line` — the line of a rule adds the rule to a draft
* `splitLines_ruleText` — the lines of a text are read back
* `RuleSet.ofText_written` — a written rule list is read back
-/

namespace Lending

/-! ## Lines -/

/-- A line that stands as it is read: it has no comment and no blanks at its ends. -/
structure RuleLine.IsBare (line : List Char) : Prop where
  first : ∃ c, line.head? = some c ∧ isBlank c = false ∧ c ≠ '/'
  last : ∃ c, line.getLast? = some c ∧ isBlank c = false
  uncommented : '#' ∉ line

namespace RuleLine.IsBare

variable {line : List Char}

theorem stripComment_eq (bare : IsBare line) : stripComment line = line := by
  obtain ⟨c, starts, visible, notSlash⟩ := bare.first
  obtain ⟨rest, rfl⟩ := List.head?_eq_some_iff.mp starts
  have whole : (c :: rest).takeWhile (· ≠ '#') = c :: rest := by
    refine List.takeWhile_eq_self_iff.mpr fun d member => ?_
    have other : d ≠ '#' := fun same => bare.uncommented (same ▸ member)
    simpa using other
  have trimmed : dropEndWhile isBlank (c :: rest) = c :: rest := by
    obtain ⟨d, ends, visible⟩ := bare.last
    obtain ⟨before, split⟩ := List.getLast?_eq_some_iff.mp ends
    rw [split, dropEndWhile, List.reverse_append, List.reverse_singleton, List.singleton_append,
      List.dropWhile_cons_of_neg (by simp [visible])]
    simp
  unfold stripComment
  rw [List.dropWhile_cons_of_neg (by simp [visible]), whole, trimmed]
  -- only a slash at the start would make the whole line a comment
  split
  · next same => exact absurd (List.cons.inj same).1 notSlash
  · rfl

theorem body_eq (bare : IsBare line) : body line = line := by
  obtain ⟨c, starts, visible, -⟩ := bare.first
  obtain ⟨rest, split⟩ := List.head?_eq_some_iff.mp starts
  rw [body, bare.stripComment_eq, split, List.dropWhile_cons_of_neg (by simp [visible])]

theorem indentation_eq (bare : IsBare line) : indentation line = [] := by
  obtain ⟨c, starts, visible, -⟩ := bare.first
  obtain ⟨rest, split⟩ := List.head?_eq_some_iff.mp starts
  rw [indentation, bare.stripComment_eq, split, List.takeWhile_cons_of_neg (by simp [visible])]

end RuleLine.IsBare

/-- A line that ends with policies. -/
def lineOf (start : List Char) (given : List (PolicyType × String)) : List Char :=
  start ++ ':' :: ' ' :: policiesText given

theorem lineOf_ne_nil {start : List Char} {given : List (PolicyType × String)} :
    lineOf start given ≠ [] := by
  simp [lineOf]

section LineOf

variable {start : List Char} {given : List (PolicyType × String)} {policies : Assignments}
  (lists : Lists given policies) (writable : policies.IsWritable)
  (plain : ∀ c ∈ start, isLineEnd c = false ∧ c ≠ '#')
include lists writable plain

theorem forall_mem_lineOf : ∀ c ∈ lineOf start given, isLineEnd c = false ∧ c ≠ '#' := by
  refine List.forall_mem_append.mpr ⟨plain, ?_⟩
  simp only [List.forall_mem_cons]
  exact ⟨by decide, by decide, forall_mem_policiesText lists writable⟩

theorem isBare_lineOf (assigns : ∃ type id, policies type = some id)
    (first : ∃ c, start.head? = some c ∧ isBlank c = false ∧ c ≠ '/') :
    RuleLine.IsBare (lineOf start given) where
  first := by
    obtain ⟨c, starts, visible⟩ := first
    refine ⟨c, ?_, visible⟩
    rw [lineOf, List.head?_append, starts, Option.some_or]
  last := by
    obtain ⟨c, ends, visible⟩ := getLast?_policiesText lists writable assigns
    refine ⟨c, ?_, visible⟩
    have split : lineOf start given = (start ++ [':', ' ']) ++ policiesText given := by
      simp [lineOf]
    rw [split, List.getLast?_append, ends, Option.some_or]
  uncommented := fun member => (forall_mem_lineOf lists writable plain _ member).2 rfl

end LineOf

/-! ### The line of the fallback -/

/-- The line that gives policies as the fallback. -/
def fallbackLine (given : List (PolicyType × String)) : List Char :=
  lineOf "fallback-policy".toList given

theorem plain_fallback : ∀ c ∈ "fallback-policy".toList, isLineEnd c = false ∧ c ≠ '#' :=
  List.all_iff_forall_prop.mp (by decide)

section Fallback

variable {given : List (PolicyType × String)} {policies : Assignments}
  (lists : Lists given policies) (writable : policies.IsWritable)
include lists writable

theorem forall_mem_fallbackLine :
    ∀ c ∈ fallbackLine given, isLineEnd c = false ∧ c ≠ '#' :=
  forall_mem_lineOf lists writable plain_fallback

theorem addLine_fallbackLine (assigns : ∃ type id, policies type = some id) (number : Nat) :
    Draft.addLine {} number (fallbackLine given) =
      .ok { fallback := some { criteria := .none, policies, line := number } } := by
  have bare : RuleLine.IsBare (fallbackLine given) :=
    isBare_lineOf lists writable plain_fallback assigns ⟨'f', by decide⟩
  have kind : RuleLine.ofText (fallbackLine given) =
      .ok (.fallback false (' ' :: policiesText given)) := by
    refine RuleLine.ofText_eq_ok_iff.mpr (.fallback ?_ ?_ ?_)
    · simp [bare.indentation_eq]
    · simp [bare.indentation_eq]
    · rw [bare.body_eq]
      rfl
  exact Draft.addLine_eq_ok_iff.mpr (.fallback kind rfl (parsePolicies_policiesText lists writable))

end Fallback

/-! ### The lines of rules -/

/-- Criteria and policies that can be written on a line. -/
structure Writable (rule : Criteria × Assignments) : Prop where
  criteria : rule.1.IsWritable
  assigns : ∃ type id, rule.2 type = some id
  policies : rule.2.IsWritable

/-- What stands on the line of a rule, in its order. -/
structure Wording where
  terms : List Term
  policies : List (PolicyType × String)

namespace Wording

/-- The line of a rule. -/
def line (wording : Wording) : List Char := lineOf (criteriaText wording.terms) wording.policies

/-- The wording says what the criteria and the policies of a rule are, each thing once. -/
structure Expresses (wording : Wording) (rule : Criteria × Assignments) : Prop where
  terms : Lists (Term.constraints wording.terms) rule.1
  policies : Lists wording.policies rule.2

namespace Expresses

variable {wording : Wording} {rule : Criteria × Assignments} (expresses : wording.Expresses rule)
  (writable : Writable rule)
include expresses writable

theorem plain_criteriaText :
    ∀ c ∈ criteriaText wording.terms, isLineEnd c = false ∧ c ≠ '#' := by
  intro c member
  obtain ⟨onLine, -, noComment⟩ :=
    forall_mem_criteriaText expresses.terms writable.criteria c member
  exact ⟨onLine, noComment⟩

theorem forall_mem_line : ∀ c ∈ wording.line, isLineEnd c = false ∧ c ≠ '#' :=
  forall_mem_lineOf expresses.policies writable.policies (expresses.plain_criteriaText writable)

/-- The line of a rule is read as a rule that is not indented, whatever its ids look like. -/
theorem ofText_line : RuleLine.ofText wording.line =
    .ok (.rule 0 (criteriaText wording.terms) (' ' :: policiesText wording.policies)) := by
  obtain ⟨c, starts, visible, notSlash, noRanking, noFallback⟩ := head?_criteriaText wording.terms
  have bare : RuleLine.IsBare wording.line :=
    isBare_lineOf expresses.policies writable.policies (expresses.plain_criteriaText writable)
      writable.assigns ⟨c, starts, visible, notSlash⟩
  -- the first letter already tells the line from both declarations
  have first : (RuleLine.body wording.line).head? = some c := by
    rw [bare.body_eq, line, lineOf, List.head?_append, starts, Option.some_or]
  refine RuleLine.ofText_eq_ok_iff.mpr (.rule ?_ ?_ ?_ ?_ ?_ ?_)
  · simp [bare.indentation_eq]
  · simp [bare.indentation_eq]
  · intro empty
    simp [empty] at first
  · rintro ⟨rest, declares⟩
    rw [declares] at first
    exact noRanking (Option.some.inj first).symm
  · rintro ⟨rest, declares⟩
    rw [declares] at first
    exact noFallback (Option.some.inj first).symm
  · rw [bare.body_eq]
    refine cutAt_append fun colon => ?_
    exact (forall_mem_criteriaText expresses.terms writable.criteria _ colon).2.1 rfl

/-- The line of a rule adds the rule, which inherits nothing, and closes all scopes but its own. -/
theorem addLine_line (draft : Draft) (number : Nat) : draft.addLine number wording.line =
    .ok { draft with
      rules := draft.rules ++ [⟨rule.1, rule.2, number⟩]
      scopes := [⟨0, rule.1, rule.2⟩] } := by
  have step : draft.Step number wording.line
      (draft.extendedBy number (Scope.opened draft.scopes 0 rule.1 rule.2)) :=
    .rule (expresses.ofText_line writable)
      (parseCriteria_criteriaText expresses.terms writable.criteria)
      (parsePolicies_policiesText expresses.policies writable.policies)
  -- nothing is indented less than a line that is not indented
  have closed : Scope.openFor draft.scopes 0 = [] :=
    List.dropWhile_eq_nil_iff.mpr fun scope _ => by simp
  obtain ⟨type, id, assigned⟩ := writable.assigns
  have given : Assignments.isEmpty rule.2 = false :=
    Assignments.isEmpty_eq_false_iff.mpr ⟨type, by simp [assigned]⟩
  rw [Draft.addLine_eq_ok_iff.mpr step, Scope.opened_of_closed closed]
  simp [Draft.extendedBy, Scope.rules, closed, given]

end Expresses

end Wording

/-! ## Texts -/

/-- Rules on consecutive lines. -/
def numbered (first : Nat) (rules : List (Criteria × Assignments)) : List Rule :=
  rules.mapIdx fun i rule => ⟨rule.1, rule.2, first + i⟩

theorem numbered_cons (first : Nat) (rule : Criteria × Assignments)
    (rules : List (Criteria × Assignments)) :
    numbered first (rule :: rules) = ⟨rule.1, rule.2, first⟩ :: numbered (first + 1) rules := by
  simp [numbered, List.mapIdx_cons, Nat.add_assoc, Nat.add_comm 1]

/-- The lines of rules add the rules in order. The scopes that the last line leaves are of no
interest, since the next one closes them. -/
theorem addLines_map_line {wordings : List Wording} {rules : List (Criteria × Assignments)}
    (expressed : List.Forall₂ Wording.Expresses wordings rules)
    (writable : ∀ rule ∈ rules, Writable rule) (draft : Draft) (number : Nat) :
    ∃ scopes, draft.addLines number (wordings.map Wording.line) =
      .ok { draft with rules := draft.rules ++ numbered number rules, scopes } := by
  induction expressed generalizing draft number with
  | nil => exact ⟨draft.scopes, by simp [Draft.addLines, numbered]⟩
  | @cons wording rule wordings rules first rest ih =>
    obtain ⟨here, below⟩ := List.forall_mem_cons.mp writable
    simp only [List.map_cons, Draft.addLines, first.addLine_line here]
    obtain ⟨scopes, read⟩ := ih below _ (number + 1)
    refine ⟨scopes, ?_⟩
    rw [read, numbered_cons, List.append_assoc, List.singleton_append]

/-- The text of a rule list, with the line of the fallback first. -/
def ruleText (given : List (PolicyType × String)) (wordings : List Wording) : List Char :=
  ['\n'].intercalate (fallbackLine given :: wordings.map Wording.line)

theorem forall_mem_lines {wordings : List Wording} {rules : List (Criteria × Assignments)}
    (expressed : List.Forall₂ Wording.Expresses wordings rules)
    (writable : ∀ rule ∈ rules, Writable rule) :
    ∀ line ∈ wordings.map Wording.line, line ≠ [] ∧ ∀ c ∈ line, isLineEnd c = false := by
  induction expressed with
  | nil => simp
  | cons first rest ih =>
    obtain ⟨here, below⟩ := List.forall_mem_cons.mp writable
    refine List.forall_mem_cons.mpr ⟨⟨lineOf_ne_nil, fun c inside => ?_⟩, ih below⟩
    exact (first.forall_mem_line here c inside).1

/-- The lines of a written rule list are read back. -/
theorem splitLines_ruleText {fallback : Assignments} {rules : List (Criteria × Assignments)}
    {given : List (PolicyType × String)} {wordings : List Wording} {ending : List Char}
    (lists : Lists given fallback) (ids : fallback.IsWritable)
    (expressed : List.Forall₂ Wording.Expresses wordings rules)
    (writable : ∀ rule ∈ rules, Writable rule) (ends : ending = [] ∨ ending = ['\n']) :
    splitLines (ruleText given wordings ++ ending) =
      fallbackLine given :: wordings.map Wording.line := by
  have sound : ∀ line ∈ fallbackLine given :: wordings.map Wording.line,
      line ≠ [] ∧ ∀ c ∈ line, isLineEnd c = false := by
    refine List.forall_mem_cons.mpr ⟨⟨lineOf_ne_nil, fun c inside => ?_⟩,
      forall_mem_lines expressed writable⟩
    exact (forall_mem_fallbackLine lists ids c inside).1
  exact splitLines_intercalate ends (fun line member => (sound line member).1) (by simp)
    fun line member => (sound line member).2

/-! ### Every rule can be put in words -/

/-- The values of a constraint are put in order one after the other. -/
theorem Constraint.ofList_values {constraint : Constraint}
    (ascending : constraint.values.Pairwise (· < ·)) :
    ofList constraint.values constraint.negated = constraint := by
  obtain ⟨values, negated⟩ := constraint
  suffices sorted : values.foldr insertValue [] = values by rw [ofList, sorted]
  induction values with
  | nil => rfl
  | cons value values ih =>
    obtain ⟨least, ascending⟩ := List.pairwise_cons.mp ascending
    rw [List.foldr_cons, ih ascending]
    cases values with
    | nil => rfl
    | cons next values => rw [insertValue, if_pos (least next List.mem_cons_self)]

theorem exists_expresses {rule : Criteria × Assignments} (writable : Writable rule) :
    ∃ wording : Wording, wording.Expresses rule := by
  -- dimensions, values and kinds of policies are put down in their own order
  have constrained : Lists (pairsOf Dimension.all rule.1) rule.1 :=
    lists_pairsOf (by decide) Dimension.mem_all
  let terms : List Term := (pairsOf Dimension.all rule.1).map fun pair =>
    ⟨pair.1, pair.2.negated, pair.2.values⟩
  have same : Term.constraints terms = pairsOf Dimension.all rule.1 := by
    rw [Term.constraints, List.map_map]
    refine (List.map_congr_left fun pair member => ?_).trans (List.map_id _)
    have asked : rule.1 pair.1 = some pair.2 := (constrained.mem_iff _ _).mp member
    have ascending := (writable.criteria _ _ asked).ascending
    exact Prod.ext rfl (Constraint.ofList_values ascending)
  exact ⟨⟨terms, pairsOf PolicyType.all rule.2⟩, same ▸ constrained,
    lists_pairsOf (by decide) PolicyType.mem_all⟩

theorem exists_wordings {rules : List (Criteria × Assignments)}
    (writable : ∀ rule ∈ rules, Writable rule) :
    ∃ wordings, List.Forall₂ Wording.Expresses wordings rules := by
  induction rules with
  | nil => exact ⟨[], .nil⟩
  | cons rule rules ih =>
    obtain ⟨here, below⟩ := List.forall_mem_cons.mp writable
    obtain ⟨wording, expresses⟩ := exists_expresses here
    obtain ⟨wordings, expressed⟩ := ih below
    exact ⟨wording :: wordings, .cons expresses expressed⟩

/-! ### The round trip -/

/-- **Round trip.** A list of rules with a complete fallback can be written as a text, and whatever
order its lines are written in, the text is read back as these rules on the lines from the second
on and as this fallback on the first line. -/
theorem RuleSet.ofText_written {fallback : Assignments} {rules : List (Criteria × Assignments)}
    (complete : fallback.missing = []) (ids : fallback.IsWritable)
    (writable : ∀ rule ∈ rules, Writable rule) :
    (∃ given, Lists given fallback) ∧
      (∃ wordings, List.Forall₂ Wording.Expresses wordings rules) ∧
      ∀ given wordings, Lists given fallback → List.Forall₂ Wording.Expresses wordings rules →
        ∀ ending, ending = [] ∨ ending = ['\n'] → ∀ requireFallback,
          ofText (String.ofList (ruleText given wordings ++ ending)) requireFallback =
            .ok { rules := numbered 2 rules, fallback := some ⟨.none, fallback, 1⟩ } := by
  refine ⟨⟨_, lists_pairsOf (by decide) PolicyType.mem_all⟩, exists_wordings writable, ?_⟩
  intro given wordings lists expressed ending ends requireFallback
  have assigns : ∃ type id, fallback type = some id := by
    have loan : PolicyType.loan ∉ fallback.missing := by simp [complete]
    refine ⟨.loan, Option.isSome_iff_exists.mp ?_⟩
    simpa [Assignments.missing, PolicyType.mem_all, Option.isSome_iff_ne_none] using loan
  obtain ⟨scopes, read⟩ := addLines_map_line expressed writable
    { fallback := some ⟨.none, fallback, 1⟩ } 2
  refine ofText_eq_ok_iff.mpr
    ⟨{ rules := numbered 2 rules, fallback := some ⟨.none, fallback, 1⟩, scopes }, ?_, ?_, rfl⟩
  · rw [String.toList_ofList, splitLines_ruleText lists ids expressed writable ends]
    simp only [Draft.addLines, addLine_fallbackLine lists ids assigns]
    exact read
  · intro required
    simp [Draft.checkFallback, complete]

/-- A fallback whose ids look like signs and keywords. -/
def oddFallback : Assignments
  | .loan => "all"
  | .request => "+"
  | .notice => ":"
  | .overdueFine => "/"
  | .lostItemFee => "priority:"

/-- A rule for all but some odd values. -/
def oddRule : Criteria × Assignments :=
  (Criteria.none.set .materialType ⟨["!book", "all"], true⟩, Assignments.none.set .loan "l:+!")

/-- A rule for everything. -/
def plainRule : Criteria × Assignments := (.none, Assignments.none.set .notice "fallback-policy:")

theorem oddRules_ofText :
    (oddFallback.missing = [] ∧ oddFallback.IsWritable ∧
      ∀ rule ∈ [oddRule, plainRule], Writable rule) ∧
    RuleSet.ofText ("fallback-policy: l all n : r + o / i priority:\n" ++
        "!m all !book: l l:+!\nall: n fallback-policy:\n") true =
      .ok { rules := [⟨oddRule.1, oddRule.2, 2⟩, ⟨plainRule.1, plainRule.2, 3⟩]
            fallback := some ⟨.none, oddFallback, 1⟩ } := by
  have complete : oddFallback.missing = [] := by decide
  have ids : oddFallback.IsWritable := by
    intro type id assigned
    cases type <;> cases assigned <;> exact ⟨by decide, by decide⟩
  have odd : Writable oddRule := by
    refine ⟨fun d constraint asked => ?_, ⟨.loan, _, rfl⟩, fun type id assigned => ?_⟩
    · cases d <;> cases asked
      refine ⟨by decide, by decide, fun value member => ?_⟩
      rcases List.mem_pair.mp member with rfl | rfl <;>
        exact ⟨by decide, List.all_iff_forall_prop.mp (by decide), by decide⟩
    · cases type <;> cases assigned
      exact ⟨by decide, by decide⟩
  have plain : Writable plainRule := by
    refine ⟨fun d constraint asked => ?_, ⟨.notice, _, rfl⟩, fun type id assigned => ?_⟩
    · cases asked
    · cases type <;> cases assigned
      exact ⟨by decide, by decide⟩
  have writable : ∀ rule ∈ [oddRule, plainRule], Writable rule := by
    intro rule member
    rcases List.mem_pair.mp member with rfl | rfl
    · exact odd
    · exact plain
  have given : Lists [(.loan, "all"), (.notice, ":"), (.request, "+"), (.overdueFine, "/"),
      (.lostItemFee, "priority:")] oddFallback := by
    refine ⟨by decide, fun type id => ?_⟩
    cases type <;> simp [oddFallback, eq_comm]
  have oddLine : Wording.Expresses ⟨[⟨.materialType, true, ["all", "!book"]⟩], [(.loan, "l:+!")]⟩
      oddRule := by
    have sorted : Term.constraint ⟨.materialType, true, ["all", "!book"]⟩ =
        ⟨["!book", "all"], true⟩ := by decide
    refine ⟨⟨by decide, fun d constraint => ?_⟩, ⟨by decide, fun type id => ?_⟩⟩
    · cases d <;>
        simp [oddRule, Criteria.set, Criteria.none, Term.constraints, sorted, eq_comm]
    · cases type <;> simp [oddRule, Assignments.set, Assignments.none, eq_comm]
  have plainLine : Wording.Expresses ⟨[], [(.notice, "fallback-policy:")]⟩ plainRule := by
    refine ⟨⟨by decide, fun d constraint => ?_⟩, ⟨by decide, fun type id => ?_⟩⟩
    · simp [plainRule, Criteria.none, Term.constraints]
    · cases type <;> simp [plainRule, Assignments.set, Assignments.none, eq_comm]
  refine ⟨⟨complete, ids, writable⟩, ?_⟩
  exact (RuleSet.ofText_written complete ids writable).2.2 _ _ given
    (.cons oddLine (.cons plainLine .nil)) ['\n'] (.inr rfl) true

end Lending
