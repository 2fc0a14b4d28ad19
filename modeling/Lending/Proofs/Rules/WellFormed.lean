import Lending.Proofs.Rules.Overriding
import Lending.Proofs.Text.Pieces

/-!
# What rule sets have in common

A matcher takes a rule set as it is. That the rules are in order, that each of them gives something
and asks for values that a request can have, and that the ranking can be carried out, is not checked
again when a policy is selected. Here these facts are shown of every rule set that was read from a
text.

What a rule asks is put together along the chain of its parents, so that criteria are looked at line
by line: a line loses its comment and is cut at its colon before its terms are cut at plus signs and
at blanks. The ranking is looked at as a whole. A list of letters leaves the word `criterium`
behind, and no other key of a ranking has that word in it.

## Main definitions

* `Ranking.WellFormed`, `RuleSet.WellFormed` — what can be relied on

## Main results

* `isWritable_of_parseCriteria` — the values that a line gives
* `WrittenRule.Effective.isWritable` — the values that a rule asks for in the end
* `Ranking.wellFormed_of_parsePriority` — a ranking weighs dimensions if it lists them
* `RuleSet.wellFormed_of_ofText` — rule sets that were read are well formed
-/

namespace Lending

/-! ## Rankings -/

/-- What can be relied on in a ranking: it compares lines at some point, so that it decides between
any two rules, and it weighs dimensions exactly if it lists them. -/
structure Ranking.WellFormed (ranking : Ranking) : Prop where
  compared : .line ∈ ranking.keys
  weighed : .criterium ∈ ranking.keys ↔ ranking.order ≠ []

/-- Of what is read one by one, everything gives a value. -/
theorem exists_mem_of_mapM {ε α β : Type} {read : α → Except ε β} {inputs : List α}
    {values : List β} (accepted : inputs.mapM read = .ok values) {input : α}
    (member : input ∈ inputs) : ∃ value ∈ values, read input = .ok value := by
  induction inputs generalizing values with
  | nil => simp at member
  | cons first inputs ih =>
    simp only [List.mapM_cons, bind_eq_ok, pure_eq_ok] at accepted
    obtain ⟨value, here, values, below, rfl⟩ := accepted
    rcases List.mem_cons.mp member with rfl | later
    · exact ⟨value, List.mem_cons_self, here⟩
    · obtain ⟨value', member', there⟩ := ih below later
      exact ⟨value', List.mem_cons_of_mem _ member', there⟩

section Priority

variable {text letters rest entry : List Char} {ranking : Ranking}

/-- A list of letters leaves its keyword in the text. -/
theorem infix_of_letterList? (found : letterList? text = some (letters, rest)) :
    "criterium".toList <:+: rest := by
  induction text generalizing letters rest with
  | nil => simp [letterList?] at found
  | cons c text ih =>
    rw [letterList?] at found
    split at found
    · obtain ⟨-, rfl⟩ := Prod.mk.inj (Option.some.inj found)
      exact (List.prefix_append _ _).isInfix
    · obtain ⟨⟨letters', rest'⟩, later, same⟩ := Option.map_eq_some_iff.mp found
      obtain ⟨rfl, rfl⟩ := Prod.mk.inj same
      exact List.infix_cons (ih later)

/-- A word without commas in it stands in one of the entries. -/
theorem IsWord.exists_infix_entries {word : List Char} (isWord : IsWord word) (whole : ',' ∉ word)
    (inside : word <:+: text) : ∃ entry ∈ entries text, word <:+: entry := by
  obtain ⟨part, listed, inPart⟩ := exists_infix_splitAt whole inside
  have stripped := isWord.infix_strip inPart
  refine ⟨strip part, List.mem_filter.mpr ⟨List.mem_map_of_mem listed, ?_⟩, stripped⟩
  -- an entry with a word in it is not left out as empty
  rw [Bool.not_eq_true', List.isEmpty_eq_false_iff]
  intro empty
  rw [empty] at stripped
  exact isWord.1 (List.eq_nil_of_infix_nil stripped)

/-- Of the keys only one has this word in it. -/
theorem eq_criterium_of_parseKey {key : PriorityKey} {tieBreak : Option TieBreak}
    (read : parseKey entry = .ok (key, tieBreak)) (inside : "criterium".toList <:+: entry) :
    key = .criterium := by
  have other {name : String} (same : String.ofList entry = name)
      (outside : ¬ "criterium".toList <:+: name.toList) : False := by
    have whole : name.toList = entry := by rw [← same, String.toList_ofList]
    exact outside (whole ▸ inside)
  unfold parseKey at read
  split at read
  · next same => exact (other same (by decide)).elim
  · next same => exact (other same (by decide)).elim
  · next same => exact (other same (by decide)).elim
  · next same => exact (other same (by decide)).elim
  · obtain ⟨rfl, -⟩ := Prod.mk.inj (Except.ok.inj read)
    rfl
  · cases read

theorem criterium_mem_withLine_iff {keys : List PriorityKey} :
    .criterium ∈ withLine keys ↔ .criterium ∈ keys := by
  unfold withLine
  split <;> simp

/-- A ranking that lists dimensions weighs them: either it is a list of letters as a whole, or one
of its entries is the word that the list of letters has left behind. -/
theorem Ranking.wellFormed_of_parsePriority (parsed : parsePriority text = .ok ranking) :
    ranking.WellFormed := by
  refine ⟨line_mem_keys_of_parsePriority parsed, ?_⟩
  simp only [parsePriority, bind_eq_ok] at parsed
  obtain ⟨order, orderRead, parsed⟩ := parsed
  split at parsed
  · next bare =>
    obtain ⟨listed, lettersRead, parsed⟩ := bind_eq_ok.mp parsed
    obtain rfl := pure_eq_ok.mp parsed
    have nonempty : entries ((letterList? text).getD ([], text)).2 ≠ [] := by simpa using bare.1
    obtain ⟨entry, member⟩ := List.exists_mem_of_ne_nil _ nonempty
    obtain ⟨d, inOrder, -⟩ := exists_mem_of_mapM lettersRead member
    simp [List.ne_nil_of_mem inOrder]
  · obtain ⟨keys, keysRead, parsed⟩ := bind_eq_ok.mp parsed
    obtain ⟨listed, parsed⟩ := guard_eq_ok.mp parsed
    obtain rfl := pure_eq_ok.mp parsed
    rw [criterium_mem_withLine_iff]
    constructor
    · intro weighs empty
      exact listed ⟨weighs, List.isEmpty_iff.mpr empty⟩
    · intro lists
      cases found : letterList? text with
      | none =>
        -- without a list of letters no dimension is listed
        rw [found] at orderRead
        exact absurd (Except.ok.inj orderRead).symm lists
      | some pair =>
        obtain ⟨letters, left⟩ := pair
        rw [found] at keysRead
        obtain ⟨entry, member, inEntry⟩ := IsWord.exists_infix_entries (by decide) (by decide)
          (infix_of_letterList? found)
        obtain ⟨⟨key, tieBreak⟩, read, keyRead⟩ := exists_mem_of_mapM keysRead member
        obtain rfl := eq_criterium_of_parseKey keyRead inEntry
        exact List.mem_map_of_mem read

end Priority

/-! ## Criteria -/

namespace Constraint

variable {value : String} {values : List String}

theorem pairwise_insertValue (ascending : values.Pairwise (· < ·)) :
    (insertValue value values).Pairwise (· < ·) := by
  induction values with
  | nil => simp [insertValue]
  | cons first values ih =>
    obtain ⟨least, below⟩ := List.pairwise_cons.mp ascending
    rw [insertValue]
    split
    · next before =>
      refine List.pairwise_cons.mpr ⟨fun other member => ?_, ascending⟩
      rcases List.mem_cons.mp member with rfl | later
      · exact before
      · exact String.lt_trans before (least other later)
    · next notBefore =>
      split
      · exact ascending
      · next new =>
        refine List.pairwise_cons.mpr ⟨fun other member => ?_, ih below⟩
        rcases mem_insertValue.mp member with rfl | later
        · by_contra notAfter
          exact new (String.le_antisymm (String.not_lt.mp notAfter) (String.not_lt.mp notBefore))
        · exact least other later

/-- The values of a list come in ascending order, whatever their order in the list. -/
theorem pairwise_ofList (values : List String) (negated : Bool) :
    (ofList values negated).values.Pairwise (· < ·) := by
  induction values with
  | nil => exact .nil
  | cons value values ih => exact pairwise_insertValue ih

end Constraint

section Lines

variable {text : List Char} {criteria : Criteria}

/-- Whatever is asked is asked by one of the terms. -/
theorem Asks.exists_mem {terms : List (List Char)} {demands : List Demand} {demand : Demand}
    (asks : Asks terms demands) (member : demand ∈ demands) :
    ∃ term ∈ terms, ReadsAs (words term) demand := by
  induction asks with
  | nil => simp at member
  | cons reads _ ih =>
    rcases List.mem_cons.mp member with rfl | later
    · exact ⟨_, List.mem_cons_self, reads⟩
    · obtain ⟨term, listed, reads⟩ := ih later
      exact ⟨term, List.mem_cons_of_mem _ listed, reads⟩

/-- The values that a line gives are words without signs of the rule language, other than the
wildcard. -/
theorem isWritable_of_parseCriteria (parsed : parseCriteria text = .ok criteria)
    (unsigned : ∀ c ∈ text, c ≠ ':' ∧ c ≠ '#') : criteria.IsWritable := by
  intro d constraint asked
  obtain ⟨demands, asks, -, values⟩ := parseCriteria_eq_ok_iff.mp parsed
  obtain ⟨part, listed, reads⟩ := asks.exists_mem ((values d constraint).mp asked)
  generalize spelled : words part = read at reads
  cases reads with
  | constraint term nonempty noWildcard =>
    refine ⟨?_, Constraint.pairwise_ofList _ _, fun value member => ?_⟩
    · obtain ⟨value, member⟩ := List.exists_mem_of_ne_nil _ nonempty
      exact List.ne_nil_of_mem (Constraint.mem_values_ofList.mpr member)
    · have given : value ∈ term.values := Constraint.mem_values_ofList.mp member
      have word : value.toList ∈ words part := by
        rw [spelled]
        exact List.mem_cons_of_mem _ (List.mem_map_of_mem given)
      refine ⟨of_mem_words word, fun c inside => ?_, ?_⟩
      · obtain ⟨inText, noPlus⟩ := mem_of_mem_splitAt listed (mem_of_mem_words word inside)
        exact ⟨noPlus, unsigned c inText⟩
      · rintro rfl
        exact noWildcard given

theorem Criteria.isWritable_none : Criteria.none.IsWritable := by
  rintro d constraint ⟨⟩

theorem Criteria.IsWritable.overridden {outer inner criteria : Criteria}
    (writable : outer.IsWritable) (writable' : inner.IsWritable)
    (overridden : Overrides outer inner criteria) : criteria.IsWritable := by
  intro d constraint asked
  rcases (overridden d constraint).mp asked with own | ⟨-, inherited⟩
  · exact writable' d constraint own
  · exact writable d constraint inherited

end Lines

namespace RuleLine

variable {line : List Char} {indent : Nat} {criteriaText policiesText : List Char}

theorem not_mem_stripComment : '#' ∉ stripComment line := by
  unfold stripComment
  split
  · simp
  · intro member
    have kept : '#' ∈ (line.takeWhile (· ≠ '#')).reverse :=
      (List.dropWhile_sublist _).subset (List.mem_reverse.mp member)
    simpa using List.mem_takeWhile_imp (List.mem_reverse.mp kept)

/-- The criteria of a line end before its colon and before its comment. -/
theorem unsigned_of_kind (kind : ofText line = .ok (.rule indent criteriaText policiesText)) :
    ∀ c ∈ criteriaText, c ≠ ':' ∧ c ≠ '#' := by
  intro c member
  cases ofText_eq_ok_iff.mp kind with
  | rule untabbed depth present noRanking noFallback cut =>
    obtain ⟨rfl, -⟩ := Prod.mk.inj cut
    refine ⟨by simpa using List.mem_takeWhile_imp member, ?_⟩
    rintro rfl
    have inBody : '#' ∈ body line := (List.takeWhile_prefix _).subset member
    exact not_mem_stripComment ((List.dropWhile_sublist _).subset inBody)

end RuleLine

namespace WrittenRule

variable {number : Nat} {texts : List (List Char)} {lines : List WrittenRule} {l : WrittenRule}

/-- The criteria of a rule line have neither a colon nor a comment in them. -/
def Unsigned (l : WrittenRule) : Prop := ∀ c ∈ l.criteria, c ≠ ':' ∧ c ≠ '#'

theorem unsigned_of_mem_ofLines (member : l ∈ ofLines number texts) : l.Unsigned := by
  induction texts generalizing number with
  | nil => simp [ofLines] at member
  | cons text texts ih =>
    rcases List.mem_append.mp member with here | below
    · have read := Option.mem_toList.mp here
      unfold ofLine? at read
      split at read
      · next kind =>
        obtain rfl := Option.some.inj read
        exact RuleLine.unsigned_of_kind kind
      · cases read
    · exact ih below

/-- What a rule asks in the end is what lines give: its own one, and those around it. -/
theorem Effective.isWritable {criteria : Criteria} {policies : Assignments}
    (unsigned : ∀ l ∈ lines, l.Unsigned) (effective : Effective lines l criteria policies)
    (member : l ∈ lines) : criteria.IsWritable := by
  -- induction on the chain of parents
  induction effective with
  | outermost _ criteriaParsed _ =>
    exact isWritable_of_parseCriteria criteriaParsed (unsigned _ member)
  | nested parent _ criteriaParsed _ criteriaOverridden _ ih =>
    exact (ih parent.1).overridden
      (isWritable_of_parseCriteria criteriaParsed (unsigned _ member)) criteriaOverridden

end WrittenRule

/-! ## Rule sets -/

/-- What can be relied on in a rule set. Its rules come in the order of their lines, and only the
fallback may come after them, on a line of its own. Every rule gives a policy, and asks for values
that can be written. The ranking can be carried out. -/
structure RuleSet.WellFormed (set : RuleSet) : Prop where
  increasing : set.rules.Pairwise (·.line < ·.line)
  placed : set.withFallback.Pairwise fun earlier later =>
    earlier ∈ set.rules ∧ earlier.line ≠ later.line
  assigns : ∀ rule ∈ set.rules, ∃ type, rule.assigns type = true
  criteria : ∀ rule ∈ set.withFallback, rule.criteria.IsWritable
  ranking : set.ranking.WellFormed

namespace Draft

variable {draft next : Draft} {number : Nat} {text : List Char}

/-- What can be relied on in the declarations that were read: the ranking can be carried out, and
the fallback asks nothing. -/
structure SoundlyDeclared (draft : Draft) : Prop where
  ranking : ∀ ranking ∈ draft.ranking, ranking.WellFormed
  fallback : ∀ fallback ∈ draft.fallback, fallback.criteria = .none

theorem Step.soundlyDeclared (step : draft.Step number text next) (sound : draft.SoundlyDeclared) :
    next.SoundlyDeclared := by
  cases step with
  | blank | rule => exact ⟨sound.ranking, sound.fallback⟩
  | priority _ _ parsed =>
    refine ⟨?_, sound.fallback⟩
    rintro _ ⟨⟩
    exact Ranking.wellFormed_of_parsePriority parsed
  | fallback =>
    refine ⟨sound.ranking, ?_⟩
    rintro _ ⟨⟩
    rfl

end Draft

namespace RuleSet

variable {text : String} {requireFallback : Bool} {set : RuleSet}

/-- What is declared in a text is sound; a text that declares no ranking has the usual one. -/
theorem soundlyDeclared_of_ofText (accepted : ofText text requireFallback = .ok set) :
    set.ranking.WellFormed ∧ ∀ fallback ∈ set.fallback, fallback.criteria = .none := by
  obtain ⟨draft, read, -, rfl⟩ := ofText_eq_ok_iff.mp accepted
  have sound := Draft.addLines_induction (motive := fun _ draft => draft.SoundlyDeclared)
    ⟨by simp, by simp⟩ (fun _ _ _ _ sound step => step.soundlyDeclared sound) read
  refine ⟨?_, sound.fallback⟩
  cases declared : draft.ranking with
  | none =>
    rw [Draft.finish, declared]
    exact ⟨by simp, by simp⟩
  | some ranking =>
    rw [Draft.finish, declared]
    exact sound.ranking ranking declared

theorem isWritable_of_mem_rules (accepted : ofText text requireFallback = .ok set) {rule : Rule}
    (member : rule ∈ set.rules) : rule.criteria.IsWritable := by
  obtain ⟨l, written, -, effective, -⟩ := (mem_rules_iff accepted).mp member
  exact effective.isWritable (fun _ => WrittenRule.unsigned_of_mem_ofLines) written

/-- **Well-formed rule sets.** Whatever text a rule set was read from, and whether or not a fallback
was required, its rules come in strictly increasing order of their lines, before the fallback if
there is one, whose line is none of theirs; every rule gives a policy; every constraint has values,
each a word without signs of the rule language that is not the wildcard; and the ranking compares
lines and weighs dimensions exactly if it lists some. -/
theorem wellFormed_of_ofText (accepted : ofText text requireFallback = .ok set) :
    set.WellFormed := by
  obtain ⟨increasing, apart⟩ := inLineOrder_of_ofText accepted
  obtain ⟨ranking, unconditional⟩ := soundlyDeclared_of_ofText accepted
  refine ⟨increasing, ?_, fun rule member => ?_, fun rule member => ?_, ranking⟩
  · refine List.pairwise_append.mpr ⟨?_, ?_, fun rule member fallback declared => ?_⟩
    · exact increasing.imp_of_mem fun member _ before => ⟨member, Nat.ne_of_lt before⟩
    · cases set.fallback <;> simp
    · exact ⟨member, apart rule member fallback (Option.mem_toList.mp declared)⟩
  · obtain ⟨l, -, -, -, gives⟩ := (mem_rules_iff accepted).mp member
    exact gives
  · rcases List.mem_append.mp member with listed | declared
    · exact isWritable_of_mem_rules accepted listed
    · rw [unconditional rule (Option.mem_toList.mp declared)]
      exact Criteria.isWritable_none

/-- A rule for loan types in any patron group, one inside it for all material types but one, the
fallback below them, and last of all a ranking in which dimensions only decide what lines do not. -/
def reversedRules : String :=
  "g * + t a.b x: l p # first\n  !m b: r q\nfallback-policy: o f\n\n" ++
    "priority:first-line, criterium( s , t)"

theorem reversedRules_wellFormed : ∃ set, ofText reversedRules false = .ok set ∧
    set.withFallback.map (·.line) = [1, 2, 3] ∧ set.ranking.keys = [.line, .criterium] ∧
    set.ranking.order = [.location, .loanType] ∧ set.WellFormed := by
  have read : (ofText reversedRules false).toOption.map (fun set : RuleSet =>
      (set.withFallback.map (·.line), set.ranking.keys, set.ranking.order)) =
      some ([1, 2, 3], [.line, .criterium], [.location, .loanType]) := by decide +kernel
  cases accepted : ofText reversedRules false with
  | error cause => simp [accepted, Except.toOption] at read
  | ok set =>
    obtain ⟨lines, keys, order⟩ : set.withFallback.map (·.line) = [1, 2, 3] ∧
        set.ranking.keys = [.line, .criterium] ∧ set.ranking.order = [.location, .loanType] := by
      simpa [accepted, Except.toOption] using read
    exact ⟨set, rfl, lines, keys, order, wellFormed_of_ofText accepted⟩

end RuleSet

end Lending
