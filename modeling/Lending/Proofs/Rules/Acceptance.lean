import Lending.Proofs.Rules.Kinds
import Lending.Proofs.Rules.Reading

/-!
# Which rule texts are accepted

Whether a line can be read is a matter of the line alone, except that the ranking and the fallback
are declared at most once. Here this is said without the draft that is built up while a text is
read: inheritance neither causes an error nor hides one, and of all that is wrong with a text the
first line that is at fault is reported, whatever stands below it. What a required fallback lacks
is reported only when nothing is wrong with any line.

## Main definitions

* `RuleLine.Acceptable` — a line that can be read on its own
* `RuleLine.Offends` — a line that cannot be accepted below some others
* `RuleLine.Faultless`, `RuleLine.FirstOffence` — the lines of an accepted text, and the first line
  at fault
* `RuleLine.FallbackFault` — what a required fallback lacks, and where

## Main results

* `Draft.exists_step_iff` — a draft takes a line exactly if it does not offend
* `Draft.addLines_eq_error_iff` — reading ends at the first line that is not taken
* `RuleSet.ofText_ok_or_firstOffence` — which texts are accepted, and what is reported of the others
-/

namespace Lending

open RuleTextError (Cause)

namespace RuleLine

variable {line : List Char} {earlier lines before : List (List Char)}

/-! ## Lines on their own -/

/-- A line that can be read on its own. Nothing is left of it without its comment, or it declares
the ranking or the fallback without being indented, or it is a rule that is not indented with
tabs. -/
inductive Acceptable (line : List Char) : Prop
  | blank (empty : ∀ c ∈ stripComment line, isBlank c = true)
  | priority {rest : List Char} {ranking : Ranking} (flush : indentation line = [])
      (declares : body line = "priority:".toList ++ rest)
      (parsed : parsePriority rest = .ok ranking)
  | fallback {rest : List Char} {policies : Assignments} (flush : indentation line = [])
      (declares : body line = "fallback-policy:".toList ++ rest)
      (parsed : parsePolicies rest = .ok policies)
  | rule {criteriaText policiesText : List Char} {criteria : Criteria} {policies : Assignments}
      (untabbed : '\t' ∉ indentation line) (noRanking : ¬ DeclaresRanking line)
      (noFallback : ¬ DeclaresFallback line)
      (cut : cutAt ':' (body line) = (criteriaText, policiesText))
      (criteriaParsed : parseCriteria criteriaText = .ok criteria)
      (policiesParsed : parsePolicies policiesText = .ok policies)

/-- A line that cannot be accepted below some others: it cannot be read, or it declares again what
one of them declares. -/
def Offends (earlier : List (List Char)) (line : List Char) : Prop :=
  ¬ Acceptable line ∨
    (DeclaresRanking line ∧ ∃ other ∈ earlier, DeclaresRanking other) ∨
    (DeclaresFallback line ∧ ∃ other ∈ earlier, DeclaresFallback other)

/-- Lines that can all be read, with at most one declaration of the ranking and of the fallback. -/
structure Faultless (lines : List (List Char)) : Prop where
  acceptable : ∀ line ∈ lines, Acceptable line
  ranking : lines.Pairwise fun a b => ¬ (DeclaresRanking a ∧ DeclaresRanking b)
  fallback : lines.Pairwise fun a b => ¬ (DeclaresFallback a ∧ DeclaresFallback b)

theorem faultless_append_singleton_iff :
    Faultless (lines ++ [line]) ↔ Faultless lines ∧ ¬ Offends lines line := by
  have repeats (declares : List Char → Prop) :
      (lines ++ [line]).Pairwise (fun a b => ¬ (declares a ∧ declares b)) ↔
        lines.Pairwise (fun a b => ¬ (declares a ∧ declares b)) ∧
          ¬ (declares line ∧ ∃ other ∈ lines, declares other) := by
    rw [List.pairwise_append]
    simp only [List.pairwise_singleton, true_and, List.mem_singleton, forall_eq]
    exact and_congr_right fun _ => ⟨fun apart ⟨here, other, member, above⟩ =>
      apart other member ⟨above, here⟩, fun once other member ⟨above, here⟩ =>
      once ⟨here, other, member, above⟩⟩
  constructor
  · rintro ⟨acceptable, ranking, fallback⟩
    obtain ⟨rankingOnce, noRanking⟩ := (repeats _).mp ranking
    obtain ⟨fallbackOnce, noFallback⟩ := (repeats _).mp fallback
    refine ⟨⟨fun l member => acceptable l (by simp [member]), rankingOnce, fallbackOnce⟩, ?_⟩
    rintro (unreadable | again | again)
    · exact unreadable (acceptable line (by simp))
    · exact noRanking again
    · exact noFallback again
  · rintro ⟨⟨acceptable, ranking, fallback⟩, inoffensive⟩
    simp only [Offends, not_or, Classical.not_not] at inoffensive
    -- what the last line does not repeat is still declared at most once
    obtain ⟨readable, noRanking, noFallback⟩ := inoffensive
    refine ⟨fun l member => ?_, (repeats _).mpr ⟨ranking, noRanking⟩,
      (repeats _).mpr ⟨fallback, noFallback⟩⟩
    rcases List.mem_append.mp member with above | here
    · exact acceptable l above
    · rwa [List.mem_singleton.mp here]

theorem Faultless.of_append (faultless : Faultless (before ++ lines)) : Faultless before where
  acceptable := fun l member => faultless.acceptable l (List.mem_append_left _ member)
  ranking := (List.pairwise_append.mp faultless.ranking).1
  fallback := (List.pairwise_append.mp faultless.fallback).1

/-- The number of the first line at fault, counted from one: those above it are faultless. -/
def FirstOffence (lines : List (List Char)) (number : Nat) : Prop :=
  ∃ before line after, lines = before ++ line :: after ∧ number = before.length + 1 ∧
    Faultless before ∧ Offends before line

theorem FirstOffence.not_faultless {number : Nat} (offence : FirstOffence lines number) :
    ¬ Faultless lines := by
  rintro faultless
  obtain ⟨before, line, after, rfl, -, -, offends⟩ := offence
  rw [List.append_cons] at faultless
  exact (faultless_append_singleton_iff.mp faultless.of_append).2 offends

/-- What a required fallback lacks: it is not given at all, or it leaves out a kind of policy. -/
inductive FallbackFault (lines : List (List Char)) : RuleTextError → Prop
  | missing (none : ∀ line ∈ lines, ¬ DeclaresFallback line) :
      FallbackFault lines ⟨.missingFallback, .none⟩
  | incomplete {before after : List (List Char)} {line rest : List Char} {policies : Assignments}
      (split : lines = before ++ line :: after)
      (declares : body line = "fallback-policy:".toList ++ rest)
      (parsed : parsePolicies rest = .ok policies) (lacking : policies.missing ≠ []) :
      FallbackFault lines ⟨.incompleteFallback policies.missing, some ↑(before.length + 1)⟩

end RuleLine

open RuleLine

namespace Draft

variable {draft next final : Draft} {number : Nat} {line : List Char} {lines : List (List Char)}

/-! ## Lines that a draft takes -/

/-- What a draft has in common with the lines that were read: it has a ranking if one of them
declares it, and the fallback that one of them gives. -/
structure Records (draft : Draft) (lines : List (List Char)) : Prop where
  ranking : draft.ranking.isSome = true ↔ ∃ line ∈ lines, DeclaresRanking line
  fallback : draft.fallback.isSome = true ↔ ∃ line ∈ lines, DeclaresFallback line
  given : ∀ fallback ∈ draft.fallback, ∃ before line after rest, lines = before ++ line :: after ∧
    body line = "fallback-policy:".toList ++ rest ∧ parsePolicies rest = .ok fallback.policies ∧
    fallback.line = before.length + 1

/-- A draft takes a line exactly if the line does not offend. -/
theorem exists_step_iff (records : draft.Records lines) :
    (∃ next, draft.Step number line next) ↔ ¬ Offends lines line := by
  unfold Offends
  rw [← records.ranking, ← records.fallback]
  constructor
  · rintro ⟨next, step⟩ offends
    cases step with
    | blank kind =>
      cases ofText_eq_ok_iff.mp kind with
      | blank empty =>
        rcases offends with unreadable | ⟨ranking, -⟩ | ⟨fallback, -⟩
        · exact unreadable (.blank (body_eq_nil_iff.mp empty))
        · exact ranking.body_ne_nil empty
        · exact fallback.body_ne_nil empty
    | priority kind first parsed =>
      cases ofText_eq_ok_iff.mp kind with
      | priority untabbed depth declares =>
        rcases offends with unreadable | ⟨-, again⟩ | ⟨fallback, -⟩
        · exact unreadable (.priority (by simpa using depth) declares parsed)
        · simp [first] at again
        · exact DeclaresRanking.not_declaresFallback ⟨_, declares⟩ fallback
    | fallback kind first parsed =>
      cases ofText_eq_ok_iff.mp kind with
      | fallback untabbed depth declares =>
        rcases offends with unreadable | ⟨ranking, -⟩ | ⟨-, again⟩
        · exact unreadable (.fallback (by simpa using depth) declares parsed)
        · exact ranking.not_declaresFallback ⟨_, declares⟩
        · simp [first] at again
    | rule kind criteriaParsed policiesParsed =>
      cases ofText_eq_ok_iff.mp kind with
      | rule untabbed depth present noRanking noFallback cut =>
        rcases offends with unreadable | ⟨ranking, -⟩ | ⟨fallback, -⟩
        · exact unreadable (.rule untabbed noRanking noFallback cut criteriaParsed policiesParsed)
        · exact noRanking ranking
        · exact noFallback fallback
  · intro inoffensive
    simp only [not_or, Classical.not_not] at inoffensive
    obtain ⟨acceptable, noRanking, noFallback⟩ := inoffensive
    cases acceptable with
    | blank empty => exact ⟨_, .blank (ofText_eq_ok_iff.mpr (.blank (body_eq_nil_iff.mpr empty)))⟩
    | priority flush declares parsed =>
      refine ⟨_, .priority (ofText_eq_ok_iff.mpr (.priority ?_ ?_ declares)) ?_ parsed⟩
      · simp [flush]
      · simp [flush]
      · exact Option.not_isSome_iff_eq_none.mp fun again => noRanking ⟨⟨_, declares⟩, again⟩
    | fallback flush declares parsed =>
      refine ⟨_, .fallback (ofText_eq_ok_iff.mpr (.fallback ?_ ?_ declares)) ?_ parsed⟩
      · simp [flush]
      · simp [flush]
      · exact Option.not_isSome_iff_eq_none.mp fun again => noFallback ⟨⟨_, declares⟩, again⟩
    | rule untabbed noRanking noFallback cut criteriaParsed policiesParsed =>
      refine ⟨_, .rule (ofText_eq_ok_iff.mpr (.rule untabbed rfl ?_ noRanking noFallback cut))
        criteriaParsed policiesParsed⟩
      -- a rule without criteria cannot be read, so that there is something on its line
      intro empty
      rw [empty] at cut
      obtain ⟨rfl, -⟩ := Prod.mk.inj cut
      cases criteriaParsed

/-- What a line that was taken adds to the record. -/
theorem Records.append (records : draft.Records lines)
    (ranking : next.ranking.isSome = true ↔ draft.ranking.isSome = true ∨ DeclaresRanking line)
    (fallback : next.fallback.isSome = true ↔ draft.fallback.isSome = true ∨ DeclaresFallback line)
    (given : ∀ fallback ∈ next.fallback, fallback ∈ draft.fallback ∨ ∃ rest,
      body line = "fallback-policy:".toList ++ rest ∧ parsePolicies rest = .ok fallback.policies ∧
        fallback.line = lines.length + 1) :
    next.Records (lines ++ [line]) := by
  have below (declares : List Char → Prop) : (∃ l ∈ lines ++ [line], declares l) ↔
      (∃ l ∈ lines, declares l) ∨ declares line := by
    simp [or_and_right, exists_or]
  refine ⟨by rw [ranking, records.ranking, below], by rw [fallback, records.fallback, below], ?_⟩
  intro f declared
  rcases given f declared with old | ⟨rest, here, parsed, number⟩
  · obtain ⟨before, l, after, rest, rfl, above⟩ := records.given f old
    exact ⟨before, l, after ++ [line], rest, by simp, above⟩
  · exact ⟨lines, line, [], rest, rfl, here, parsed, number⟩

/-- Every step keeps the record of the lines read. -/
theorem Step.records (step : draft.Step (lines.length + 1) line next)
    (records : draft.Records lines) : next.Records (lines ++ [line]) := by
  cases step with
  | blank kind =>
    cases ofText_eq_ok_iff.mp kind with
    | blank empty =>
      refine records.append (or_iff_left ?_).symm (or_iff_left ?_).symm fun f old => .inl old
      · exact fun ranking => ranking.body_ne_nil empty
      · exact fun fallback => fallback.body_ne_nil empty
  | priority kind first parsed =>
    cases ofText_eq_ok_iff.mp kind with
    | priority untabbed depth declares =>
      have here : DeclaresRanking line := ⟨_, declares⟩
      exact records.append (iff_of_true rfl (.inr here))
        (or_iff_left here.not_declaresFallback).symm fun f old => .inl old
  | fallback kind first parsed =>
    cases ofText_eq_ok_iff.mp kind with
    | fallback untabbed depth declares =>
      have here : DeclaresFallback line := ⟨_, declares⟩
      refine records.append (or_iff_left ?_).symm (iff_of_true rfl (.inr here)) ?_
      · exact fun ranking => ranking.not_declaresFallback here
      · rintro _ ⟨⟩
        exact .inr ⟨_, declares, parsed, rfl⟩
  | rule kind criteriaParsed policiesParsed =>
    cases ofText_eq_ok_iff.mp kind with
    | rule untabbed depth present noRanking noFallback cut =>
      exact records.append (or_iff_left noRanking).symm (or_iff_left noFallback).symm
        fun f old => .inl old

/-! ## Runs that end -/

/-- Reading ends at the first line that is not taken, whatever follows. -/
theorem addLines_eq_error_iff {error : RuleTextError} :
    draft.addLines number lines = .error error ↔ ∃ before line after read cause,
      lines = before ++ line :: after ∧ draft.addLines number before = .ok read ∧
        read.addLine (number + before.length) line = .error cause ∧
        error = ⟨cause, some ↑(number + before.length)⟩ := by
  induction lines generalizing draft number with
  | nil => simp [addLines]
  | cons first rest ih =>
    simp only [addLines, List.cons_eq_append_iff]
    cases taken : draft.addLine number first with
    | error cause =>
      constructor
      · intro ended
        obtain rfl := Except.error.inj ended
        exact ⟨[], first, rest, draft, cause, .inl ⟨rfl, rfl⟩, rfl, taken, rfl⟩
      · rintro ⟨before, line, after, read, cause', ⟨rfl, split⟩ | ⟨others, rfl, -⟩, accepted, rest⟩
        · obtain ⟨rfl, -⟩ := List.cons.inj split
          obtain rfl := Except.ok.inj accepted
          obtain ⟨ended, rfl⟩ := rest
          obtain rfl := Except.error.inj (taken.symm.trans ended)
          rfl
        · simp [addLines, taken] at accepted
    | ok next =>
      -- the lines before the one that is not taken are the first one and those of the rest
      have shift (before : List (List Char)) :
          number + (first :: before).length = number + 1 + before.length := by
        simp only [List.length_cons]
        omega
      simp only [ih]
      constructor
      · rintro ⟨before, line, after, read, cause, rfl, accepted, ended, rfl⟩
        refine ⟨first :: before, line, after, read, cause, .inr ⟨before, rfl, rfl⟩, ?_, ?_, ?_⟩
        · simpa [addLines, taken] using accepted
        · rwa [shift]
        · rw [shift]
      · rintro ⟨before, line, after, read, cause, ⟨rfl, split⟩ | ⟨others, rfl, rfl⟩, accepted,
          ended, rfl⟩
        · obtain ⟨rfl, -⟩ := List.cons.inj split
          obtain rfl := Except.ok.inj accepted
          rw [List.length_nil, Nat.add_zero, taken] at ended
          cases ended
        · rw [shift] at ended ⊢
          exact ⟨others, line, after, read, cause, rfl, by simpa [addLines, taken] using accepted,
            ended, rfl⟩

theorem records_of_addLines (accepted : Draft.addLines {} 1 lines = .ok final) :
    Faultless lines ∧ final.Records lines := by
  -- the record of the lines read carries the induction: by it the next line does not offend
  refine addLines_induction (motive := fun read draft => Faultless read ∧ draft.Records read)
    ⟨⟨by simp, .nil, .nil⟩, by simp, by simp, by simp⟩ ?_ accepted
  rintro read draft line next ⟨faultless, records⟩ step
  rw [Nat.add_comm] at step
  exact ⟨faultless_append_singleton_iff.mpr
    ⟨faultless, (exists_step_iff records).mp ⟨next, step⟩⟩, step.records records⟩

theorem firstOffence_of_addLines {before after : List (List Char)} {cause : Cause} {read : Draft}
    (accepted : Draft.addLines {} 1 before = .ok read)
    (ended : read.addLine number line = .error cause) :
    FirstOffence (before ++ line :: after) (before.length + 1) := by
  obtain ⟨faultless, records⟩ := records_of_addLines accepted
  refine ⟨before, line, after, rfl, rfl, faultless, ?_⟩
  by_contra inoffensive
  obtain ⟨next, step⟩ : ∃ next, read.Step number line next :=
    (exists_step_iff records).mpr inoffensive
  rw [addLine_eq_ok_iff.mpr step] at ended
  cases ended

/-- The lines of a text are all taken exactly if they are faultless. -/
theorem exists_addLines_iff :
    (∃ final, Draft.addLines {} 1 lines = .ok final) ↔ Faultless lines := by
  constructor
  · rintro ⟨final, accepted⟩
    exact (records_of_addLines accepted).1
  · intro faultless
    cases read : Draft.addLines {} 1 lines with
    | ok final => exact ⟨final, rfl⟩
    | error error =>
      obtain ⟨before, line, after, draft, cause, rfl, accepted, ended, -⟩ :=
        addLines_eq_error_iff.mp read
      exact absurd faultless (firstOffence_of_addLines accepted ended).not_faultless

/-! ## Fallbacks that are required -/

theorem checkFallback_eq_error_iff {error : RuleTextError} :
    draft.checkFallback = .error error ↔
      draft.fallback = none ∧ error = ⟨.missingFallback, none⟩ ∨
        ∃ fallback ∈ draft.fallback, fallback.policies.missing ≠ [] ∧
          error = ⟨.incompleteFallback fallback.policies.missing, some fallback.line⟩ := by
  unfold checkFallback
  constructor
  · intro lacking
    split at lacking
    · next none => exact .inl ⟨none, (Except.error.inj lacking).symm⟩
    · next fallback given =>
      split at lacking
      · simp at lacking
      · next incomplete =>
        exact .inr ⟨fallback, given, by simpa using incomplete, (Except.error.inj lacking).symm⟩
  · rintro (⟨none, rfl⟩ | ⟨fallback, given, lacking, rfl⟩)
    · simp [none]
    · rw [Option.mem_def] at given
      simp [given, lacking]

/-- A declaration that is made at most once is found in one place only. -/
theorem eq_of_pairwise_not {declares : List Char → Prop}
    {before before' after after' : List (List Char)} {line line' : List Char}
    (once : (before ++ line :: after).Pairwise fun a b => ¬ (declares a ∧ declares b))
    (here : declares line) (here' : declares line')
    (same : before ++ line :: after = before' ++ line' :: after') :
    before = before' ∧ line = line' := by
  induction before generalizing before' with
  | nil =>
    cases before' with
    | nil => exact ⟨rfl, (List.cons.inj same).1⟩
    | cons first rest =>
      obtain ⟨rfl, rfl⟩ := List.cons.inj same
      have apart := (List.pairwise_cons.mp once).1 line' (by simp)
      exact absurd ⟨here, here'⟩ apart
  | cons first rest ih =>
    cases before' with
    | nil =>
      obtain ⟨rfl, -⟩ := List.cons.inj same
      have apart := (List.pairwise_cons.mp once).1 line (by simp)
      exact absurd ⟨here', here⟩ apart
    | cons first' rest' =>
      obtain ⟨rfl, tails⟩ := List.cons.inj same
      obtain ⟨rfl, rfl⟩ := ih (List.pairwise_cons.mp once).2 tails
      exact ⟨rfl, rfl⟩

/-- The fallback of a draft is what a line gives that declares it: there is no other such line. -/
theorem Records.fallback_of_line (faultless : Faultless lines) (records : draft.Records lines)
    {before after : List (List Char)} {rest : List Char} {policies : Assignments}
    (split : lines = before ++ line :: after)
    (declares : body line = "fallback-policy:".toList ++ rest)
    (parsed : parsePolicies rest = .ok policies) :
    ∃ fallback ∈ draft.fallback, fallback.policies = policies ∧
      fallback.line = before.length + 1 := by
  have given := records.fallback.mpr ⟨line, by simp [split], rest, declares⟩
  obtain ⟨fallback, given⟩ := Option.isSome_iff_exists.mp given
  obtain ⟨before', line', after', rest', split', declares', parsed', number⟩ :=
    records.given fallback given
  have once := faultless.fallback
  rw [split] at once
  obtain ⟨rfl, rfl⟩ :=
    eq_of_pairwise_not once ⟨rest, declares⟩ ⟨rest', declares'⟩ (split.symm.trans split')
  obtain rfl := List.append_cancel_left (declares.symm.trans declares')
  exact ⟨fallback, given, Except.ok.inj (parsed'.symm.trans parsed), number⟩

/-- What the fallback of a draft lacks is what its lines lack. -/
theorem checkFallback_iff (faultless : Faultless lines) (records : draft.Records lines)
    {error : RuleTextError} : draft.checkFallback = .error error ↔ FallbackFault lines error := by
  rw [checkFallback_eq_error_iff]
  constructor
  · rintro (⟨none, rfl⟩ | ⟨fallback, given, lacking, rfl⟩)
    · refine .missing fun line member declares => ?_
      simpa [none] using records.fallback.mpr ⟨line, member, declares⟩
    · obtain ⟨before, line, after, rest, split, declares, parsed, number⟩ :=
        records.given fallback given
      rw [number]
      exact .incomplete split declares parsed lacking
  · intro fault
    cases fault with
    | missing none =>
      refine .inl ⟨Option.not_isSome_iff_eq_none.mp fun given => ?_, rfl⟩
      obtain ⟨line, member, declares⟩ := records.fallback.mp given
      exact none line member declares
    | incomplete split declares parsed lacking =>
      obtain ⟨fallback, given, rfl, number⟩ :=
        records.fallback_of_line faultless split declares parsed
      refine .inr ⟨fallback, given, lacking, ?_⟩
      rw [number]

end Draft

namespace RuleSet

variable {text : String} {requireFallback : Bool} {error : RuleTextError}

theorem ofText_eq_error_of_addLines
    (ended : Draft.addLines {} 1 (splitLines text.toList) = .error error) :
    ofText text requireFallback = .error error := by
  simp [ofText, ended, bind, Except.bind]

theorem ofText_eq_error_iff :
    ofText text requireFallback = .error error ↔
      Draft.addLines {} 1 (splitLines text.toList) = .error error ∨
        ∃ draft : Draft, Draft.addLines {} 1 (splitLines text.toList) = .ok draft ∧
          requireFallback = true ∧ draft.checkFallback = .error error := by
  unfold ofText
  cases Draft.addLines {} 1 (splitLines text.toList) with
  | error other => simp [bind, Except.bind]
  | ok draft =>
    cases requireFallback with
    | false => simp [bind, Except.bind, pure, Except.pure]
    | true =>
      cases checked : draft.checkFallback <;> simp [checked, bind, Except.bind, pure, Except.pure]

/-- A text is accepted, when no fallback is required, exactly if its lines are faultless. -/
theorem exists_ofText_iff :
    (∃ set, ofText text false = .ok set) ↔ Faultless (splitLines text.toList) := by
  rw [← Draft.exists_addLines_iff]
  constructor
  · rintro ⟨set, accepted⟩
    obtain ⟨draft, read, -⟩ := ofText_eq_ok_iff.mp accepted
    exact ⟨draft, read⟩
  · rintro ⟨draft, read⟩
    exact ⟨draft.finish, ofText_eq_ok_iff.mpr ⟨draft, read, by simp, rfl⟩⟩

/-- What is wrong with a line is reported with the number of the first line at fault, and of every
text that has the same lines up to this one. -/
theorem exists_firstOffence (refused : ofText text false = .error error) :
    ∃ number : Nat, error.line = some ↑number ∧ FirstOffence (splitLines text.toList) number ∧
      ∀ (other : String) (requireFallback : Bool),
        (splitLines other.toList).take number = (splitLines text.toList).take number →
          ofText other requireFallback = .error error := by
  have ended : Draft.addLines {} 1 (splitLines text.toList) = .error error := by
    simpa [ofText_eq_error_iff] using refused
  obtain ⟨before, line, after, read, cause, split, accepted, stopped, rfl⟩ :=
    Draft.addLines_eq_error_iff.mp ended
  refine ⟨before.length + 1, by rw [Nat.add_comm], ?_, ?_⟩
  · rw [split]
    exact Draft.firstOffence_of_addLines accepted stopped
  · intro other required same
    -- the other text is read in the same way up to the line at fault, and no further
    have start : (splitLines other.toList).take (before.length + 1) = before ++ [line] := by
      rw [same, split, List.append_cons, List.take_left' (by simp)]
    apply ofText_eq_error_of_addLines
    rw [← List.take_append_drop (before.length + 1) (splitLines other.toList), start,
      List.append_assoc, List.singleton_append]
    exact Draft.addLines_eq_error_iff.mpr
      ⟨before, line, _, read, cause, rfl, accepted, stopped, rfl⟩

/-- A required fallback is complained of only when the lines are faultless. -/
theorem ofText_required_eq_error_iff :
    ofText text true = .error error ↔ ofText text false = .error error ∨
      Faultless (splitLines text.toList) ∧ FallbackFault (splitLines text.toList) error := by
  simp only [ofText_eq_error_iff, true_and, Bool.false_eq_true, false_and, and_false, exists_false,
    or_false]
  refine or_congr_right ⟨?_, ?_⟩
  · rintro ⟨draft, accepted, lacking⟩
    obtain ⟨faultless, records⟩ := Draft.records_of_addLines accepted
    exact ⟨faultless, (Draft.checkFallback_iff faultless records).mp lacking⟩
  · rintro ⟨faultless, fault⟩
    obtain ⟨draft, accepted⟩ := Draft.exists_addLines_iff.mpr faultless
    obtain ⟨-, records⟩ := Draft.records_of_addLines accepted
    exact ⟨draft, accepted, (Draft.checkFallback_iff faultless records).mpr fault⟩

/-- **Accepted texts.** A text is accepted, when no fallback is required, exactly if its lines are
faultless. Otherwise the number of the first line at fault is reported, and the same is reported of
every text that starts with the same lines up to this one. A required fallback is complained of only
in a text that is accepted without one, exactly if it lacks something, and on its own line; the
rules of an accepted text do not depend on whether it is required. -/
theorem ofText_ok_or_firstOffence (text : String) :
    ((∃ set, ofText text false = .ok set) ↔ Faultless (splitLines text.toList)) ∧
      (∀ error, ofText text false = .error error → ∃ number : Nat, error.line = some ↑number ∧
        FirstOffence (splitLines text.toList) number ∧
        ∀ (other : String) (requireFallback : Bool),
          (splitLines other.toList).take number = (splitLines text.toList).take number →
            ofText other requireFallback = .error error) ∧
      (∀ error, ofText text true = .error error ↔ ofText text false = .error error ∨
        Faultless (splitLines text.toList) ∧ FallbackFault (splitLines text.toList) error) ∧
      (∀ set, ofText text true = .ok set → ofText text false = .ok set) := by
  refine ⟨exists_ofText_iff, ?_, ?_, ?_⟩
  · intro error refused
    exact exists_firstOffence refused
  · intro error
    exact ofText_required_eq_error_iff
  · intro set accepted
    obtain ⟨draft, read, -, finished⟩ := ofText_eq_ok_iff.mp accepted
    exact ofText_eq_ok_iff.mpr ⟨draft, read, by simp, finished⟩

/-- The second line lacks values; the tab on the third line and the missing fallback are not
reported. -/
example : (ofText "all: l x\nm: l y\n\tall: l z" true).map (fun _ => ()) =
    .error ⟨.noValues "m", some 2⟩ := by
  decide +kernel

end RuleSet

end Lending
