import Lending.Proofs.Text.Splitting
import Mathlib.Data.List.Infix

/-!
# Pieces of a text

A text is cut into words, or into the parts between separators. What stands in a piece stood in the
text, and nothing at which the text was cut stands in a piece. The other way round, what is not cut
stays whole: a word of the text without separators in it is found again in one of the parts, and it
is still there when the blanks at the ends of the part have been taken off.

## Main results

* `mem_of_mem_words`, `mem_of_mem_splitAt` — the characters of a piece
* `exists_infix_splitAt`, `IsWord.infix_strip` — what stays whole
-/

namespace Lending

variable {word text part : List Char} {c separator : Char}

/-! ## What stands in a piece -/

theorem mem_of_mem_wordsFrom {begun : List Char} (listed : word ∈ wordsFrom begun text)
    (member : c ∈ word) : c ∈ begun ∨ c ∈ text := by
  -- a character of the text goes over to the word that was begun, or is left out
  induction text generalizing begun with
  | nil =>
    simp only [wordsFrom] at listed
    split at listed
    · simp at listed
    · obtain rfl := List.mem_singleton.mp listed
      exact .inl (List.mem_reverse.mp member)
  | cons d text ih =>
    simp only [wordsFrom] at listed
    split at listed
    · split at listed
      · exact .inr (List.mem_cons_of_mem _ ((ih listed).resolve_left (by simp)))
      · rcases List.mem_cons.mp listed with rfl | later
        · exact .inl (List.mem_reverse.mp member)
        · exact .inr (List.mem_cons_of_mem _ ((ih later).resolve_left (by simp)))
    · rcases ih listed with begun' | later
      · rcases List.mem_cons.mp begun' with rfl | old
        · exact .inr List.mem_cons_self
        · exact .inl old
      · exact .inr (List.mem_cons_of_mem _ later)

/-- The characters of a word are those of the text. -/
theorem mem_of_mem_words (listed : word ∈ words text) (member : c ∈ word) : c ∈ text :=
  (mem_of_mem_wordsFrom listed member).resolve_left (by simp)

/-- The characters of a part are those of the text, without the separator. -/
theorem mem_of_mem_splitAt (listed : part ∈ splitAt separator text) (member : c ∈ part) :
    c ∈ text ∧ c ≠ separator := by
  induction text generalizing part with
  | nil =>
    obtain rfl : part = [] := by simpa [splitAt] using listed
    simp at member
  | cons d text ih =>
    rw [splitAt] at listed
    split at listed
    · rcases List.mem_cons.mp listed with rfl | later
      · simp at member
      · exact (ih later member).imp_left (List.mem_cons_of_mem _)
    · next other =>
      split at listed
      · next none => exact absurd none splitAt_ne_nil
      · next first parts split =>
        rw [split] at ih
        rcases List.mem_cons.mp listed with rfl | later
        · rcases List.mem_cons.mp member with rfl | inFirst
          · exact ⟨List.mem_cons_self, other⟩
          · exact (ih List.mem_cons_self inFirst).imp_left (List.mem_cons_of_mem _)
        · exact (ih (List.mem_cons_of_mem _ later) member).imp_left (List.mem_cons_of_mem _)

/-! ## What stays whole -/

/-- What a text starts with, before any separator, its first part starts with. -/
theorem exists_prefix_splitAt (absent : separator ∉ word) (starts : word <+: text) :
    ∃ part parts, splitAt separator text = part :: parts ∧ word <+: part := by
  induction word generalizing text with
  | nil =>
    have nonempty : splitAt separator text ≠ [] := splitAt_ne_nil
    obtain ⟨part, parts, split⟩ := List.exists_cons_of_ne_nil nonempty
    exact ⟨part, parts, split, List.nil_prefix⟩
  | cons d word ih =>
    obtain ⟨rest, rfl, goesOn⟩ := List.cons_prefix_iff.mp starts
    rw [List.mem_cons, not_or] at absent
    obtain ⟨part, parts, split, inPart⟩ := ih absent.2 goesOn
    refine ⟨d :: part, parts, ?_, (List.prefix_cons_inj d).mpr inPart⟩
    rw [splitAt, if_neg (Ne.symm absent.1), split]

/-- What stands in a text without a separator in it stands in one of the parts. -/
theorem exists_infix_splitAt (absent : separator ∉ word) (inside : word <:+: text) :
    ∃ part ∈ splitAt separator text, word <:+: part := by
  induction text with
  | nil => exact ⟨[], by simp [splitAt], inside⟩
  | cons d text ih =>
    rcases List.infix_cons_iff.mp inside with starts | later
    · obtain ⟨part, parts, split, starts⟩ := exists_prefix_splitAt absent starts
      exact ⟨part, by simp [split], starts.isInfix⟩
    · obtain ⟨part, listed, inside⟩ := ih later
      rw [splitAt]
      split
      · exact ⟨part, List.mem_cons_of_mem _ listed, inside⟩
      · split
        · next none => exact absurd none splitAt_ne_nil
        · next first parts split =>
          -- the first part has grown by a character, the others are what they were
          rw [split] at listed
          rcases List.mem_cons.mp listed with rfl | below
          · exact ⟨d :: part, List.mem_cons_self, List.infix_cons inside⟩
          · exact ⟨part, List.mem_cons_of_mem _ below, inside⟩

namespace IsWord

theorem reverse (isWord : IsWord word) : IsWord word.reverse :=
  ⟨by simpa using isWord.1, fun c member => isWord.2 c (List.mem_reverse.mp member)⟩

/-- Taking off the blanks at the start of a text leaves its words whole. -/
theorem infix_dropWhile (isWord : IsWord word) (inside : word <:+: text) :
    word <:+: text.dropWhile isBlank := by
  induction text with
  | nil => exact inside
  | cons d text ih =>
    rw [List.dropWhile_cons]
    split
    · next blank =>
      refine ih ((List.infix_cons_iff.mp inside).resolve_left fun starts => ?_)
      -- the first character of a word is no blank
      obtain ⟨first, rest, rfl⟩ := List.exists_cons_of_ne_nil isWord.1
      obtain ⟨rfl, -⟩ := List.cons_prefix_cons.mp starts
      simp [isWord.2 first List.mem_cons_self] at blank
    · exact inside

/-- Taking off the blanks at both ends of a text leaves its words whole. -/
theorem infix_strip (isWord : IsWord word) (inside : word <:+: text) : word <:+: strip text := by
  have fromEnd := isWord.reverse.infix_dropWhile
    (List.reverse_infix.mpr (isWord.infix_dropWhile inside))
  exact List.reverse_infix.mp (by simpa [strip, dropEndWhile] using fromEnd)

end IsWord

end Lending
