import Lending.Proofs.Except
import Lending.Rules.Line
import Mathlib.Data.List.TakeWhile

/-!
# Kinds of lines

A line of a rule text is read in pieces: the comment is taken off, and what is left is split into
its indentation and its body. The body alone tells a declaration from a rule. Here the kind of a
line is said in these terms, with one case for each kind, so that later proofs do not follow the
order in which the kinds are tried.

## Main definitions

* `RuleLine.indentation`, `RuleLine.body` — the two parts of a line without its comment
* `RuleLine.DeclaresRanking`, `RuleLine.DeclaresFallback` — the lines that are not rules
* `RuleLine.OfKind` — what a line of each kind looks like

## Main results

* `RuleLine.ofText_eq_ok_iff` — a line is read as the kind of line that it looks like
* `RuleLine.ofText_congr` — comments do not matter for the kind of a line
-/

namespace Lending

open RuleTextError (Cause)

/-- What follows a word is what is left of a text that starts with it. -/
theorem afterWord?_eq_some_iff {word text rest : List Char} :
    afterWord? word text = some rest ↔ text = word ++ rest := by
  induction word generalizing text with
  | nil => simp [afterWord?]
  | cons c word ih =>
    cases text with
    | nil => simp [afterWord?]
    | cons d text =>
      simp only [afterWord?, List.cons_append, List.cons.injEq]
      split
      · next same => simp [same, ih]
      · next other => simp [Ne.symm other]

namespace RuleLine

variable {line : List Char}

/-! ## Parts of a line -/

/-- The blanks at the start of a line without its comment. -/
def indentation (line : List Char) : List Char := (stripComment line).takeWhile isBlank

/-- A line without its comment and without its indentation. -/
def body (line : List Char) : List Char := (stripComment line).dropWhile isBlank

/-- A line that declares the ranking. -/
def DeclaresRanking (line : List Char) : Prop := ∃ rest, body line = "priority:".toList ++ rest

/-- A line that gives the fallback. -/
def DeclaresFallback (line : List Char) : Prop :=
  ∃ rest, body line = "fallback-policy:".toList ++ rest

theorem body_eq_nil_iff : body line = [] ↔ ∀ c ∈ stripComment line, isBlank c = true :=
  List.dropWhile_eq_nil_iff

theorem afterWord?_eq_none {word : List Char} (other : ¬ ∃ rest, body line = word ++ rest) :
    afterWord? word (body line) = none := by
  rw [Option.eq_none_iff_forall_ne_some]
  exact fun rest found => other ⟨rest, afterWord?_eq_some_iff.mp found⟩

/-- The two declarations start with different letters. -/
theorem DeclaresRanking.not_declaresFallback (ranking : DeclaresRanking line) :
    ¬ DeclaresFallback line := by
  rintro ⟨rest, fallback⟩
  obtain ⟨rest', ranking⟩ := ranking
  rw [ranking] at fallback
  exact absurd (List.cons.inj fallback).1 (by decide)

theorem DeclaresRanking.body_ne_nil (ranking : DeclaresRanking line) : body line ≠ [] := by
  obtain ⟨rest, ranking⟩ := ranking
  simp [ranking]

theorem DeclaresFallback.body_ne_nil (fallback : DeclaresFallback line) : body line ≠ [] := by
  obtain ⟨rest, fallback⟩ := fallback
  simp [fallback]

/-! ## Kinds -/

/-- What a line of each kind looks like. -/
inductive OfKind (line : List Char) : RuleLine → Prop
  | blank (empty : body line = []) : OfKind line .blank
  | priority {indented : Bool} {rest : List Char} (untabbed : '\t' ∉ indentation line)
      (depth : indented = !(indentation line).isEmpty)
      (declares : body line = "priority:".toList ++ rest) : OfKind line (.priority indented rest)
  | fallback {indented : Bool} {rest : List Char} (untabbed : '\t' ∉ indentation line)
      (depth : indented = !(indentation line).isEmpty)
      (declares : body line = "fallback-policy:".toList ++ rest) :
      OfKind line (.fallback indented rest)
  | rule {indent : Nat} {criteria policies : List Char} (untabbed : '\t' ∉ indentation line)
      (depth : indent = (indentation line).length) (present : body line ≠ [])
      (noRanking : ¬ DeclaresRanking line) (noFallback : ¬ DeclaresFallback line)
      (cut : cutAt ':' (body line) = (criteria, policies)) :
      OfKind line (.rule indent criteria policies)

/-- How the kind of a line is told by its two parts. -/
theorem ofText_eq : ofText line =
    if (body line).isEmpty then .ok .blank
    else if '\t' ∈ indentation line then .error .tabIndentation
    else
      match afterWord? "priority:".toList (body line) with
      | some rest => .ok (.priority (!(indentation line).isEmpty) rest)
      | none =>
        match afterWord? "fallback-policy:".toList (body line) with
        | some rest => .ok (.fallback (!(indentation line).isEmpty) rest)
        | none => .ok (.rule (indentation line).length (cutAt ':' (body line)).1
            (cutAt ':' (body line)).2) :=
  rfl

/-- A line is read as the kind of line that it looks like. -/
theorem ofText_eq_ok_iff {kind : RuleLine} : ofText line = .ok kind ↔ OfKind line kind := by
  rw [ofText_eq]
  constructor
  · intro read
    split at read
    · next empty =>
      obtain rfl := Except.ok.inj read
      exact .blank (List.isEmpty_iff.mp empty)
    · next present =>
      split at read
      · simp at read
      · next untabbed =>
        split at read
        · next declares =>
          obtain rfl := Except.ok.inj read
          exact .priority untabbed rfl (afterWord?_eq_some_iff.mp declares)
        · next noRanking =>
          split at read
          · next declares =>
            obtain rfl := Except.ok.inj read
            exact .fallback untabbed rfl (afterWord?_eq_some_iff.mp declares)
          · next noFallback =>
            obtain rfl := Except.ok.inj read
            refine .rule untabbed rfl (fun empty => present (by simp [empty])) ?_ ?_ rfl
            · rintro ⟨rest, declares⟩
              rw [afterWord?_eq_some_iff.mpr declares] at noRanking
              cases noRanking
            · rintro ⟨rest, declares⟩
              rw [afterWord?_eq_some_iff.mpr declares] at noFallback
              cases noFallback
  · intro looks
    cases looks with
    | blank empty => simp [empty]
    | priority untabbed depth declares =>
      have present := DeclaresRanking.body_ne_nil ⟨_, declares⟩
      simp only [List.isEmpty_iff, present, untabbed, if_false, depth,
        afterWord?_eq_some_iff.mpr declares]
    | fallback untabbed depth declares =>
      have present := DeclaresFallback.body_ne_nil ⟨_, declares⟩
      have noRanking : ¬ DeclaresRanking line := fun ranking =>
        ranking.not_declaresFallback ⟨_, declares⟩
      simp only [List.isEmpty_iff, present, untabbed, if_false, depth, afterWord?_eq_none noRanking,
        afterWord?_eq_some_iff.mpr declares]
    | rule untabbed depth present noRanking noFallback cut =>
      simp only [List.isEmpty_iff, present, untabbed, if_false, depth, afterWord?_eq_none noRanking,
        afterWord?_eq_none noFallback, cut]

/-- The kind of a line does not depend on its comment. -/
theorem ofText_congr {other : List Char} (same : stripComment line = stripComment other) :
    ofText line = ofText other := by
  unfold ofText
  rw [same]

end RuleLine

end Lending
