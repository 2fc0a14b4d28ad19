import Lending.Text.Blank
import Mathlib.Data.List.Basic
import Mathlib.Data.List.TakeWhile

/-!
# Texts that are joined and split again

Words, parts and lines are joined by blanks, separators and line ends. Splitting the joined text
gives them back, as long as none of them contains what joins them.

## Main definitions

* `IsWord` — a text that is a word as a whole

## Main results

* `words_intercalate`, `splitAt_intercalate`, `map_words_splitAt_intercalate`,
  `splitLines_intercalate` — joined words, parts and lines are split again
* `cutAt_append` — a text is cut at the first occurrence of a separator
-/

namespace Lending

variable {word text : List Char} {c : Char}

/-! ## Joined texts -/

variable {between part : List Char} {parts : List (List Char)}

/-- What holds of the parts and of what stands between them holds of the joined text. -/
theorem forall_mem_intercalate {p : Char → Prop} (inBetween : ∀ c ∈ between, p c)
    (inParts : ∀ part ∈ parts, ∀ c ∈ part, p c) : ∀ c ∈ between.intercalate parts, p c := by
  induction parts with
  | nil => simp
  | cons part parts ih =>
    obtain ⟨here, below⟩ := List.forall_mem_cons.mp inParts
    cases parts with
    | nil => simpa using here
    | cons part' parts =>
      simp only [List.intercalate_cons_cons, List.forall_mem_append]
      exact ⟨⟨here, inBetween⟩, ih below⟩

/-- A joined text starts with the first part. -/
theorem prefix_intercalate : part <+: between.intercalate (part :: parts) := by
  cases parts with
  | nil => simp
  | cons part' parts =>
    rw [List.intercalate_cons_cons, List.append_assoc]
    exact List.prefix_append _ _

/-- A joined text ends with the last part. -/
theorem suffix_intercalate (last : parts.getLast? = some part) :
    part <:+ between.intercalate parts := by
  induction parts with
  | nil => simp at last
  | cons first parts ih =>
    cases parts with
    | nil =>
      obtain rfl : first = part := by simpa using last
      simp
    | cons second parts =>
      rw [List.getLast?_cons_cons] at last
      rw [List.intercalate_cons_cons]
      exact (ih last).trans (List.suffix_append _ _)

/-! ## Words -/

/-- A text that is a word as a whole. -/
def IsWord (word : List Char) : Prop := word ≠ [] ∧ ∀ c ∈ word, isBlank c = false

instance : DecidablePred IsWord := fun word =>
  decidable_of_iff (word ≠ [] ∧ word.all (!isBlank ·) = true) (by simp [IsWord])

theorem wordsFrom_append {begun : List Char} (unbroken : ∀ c ∈ word, isBlank c = false) :
    wordsFrom begun (word ++ text) = wordsFrom (word.reverse ++ begun) text := by
  -- the word that was begun grows by one character at a time
  induction word generalizing begun with
  | nil => rfl
  | cons c word ih =>
    obtain ⟨first, rest⟩ := List.forall_mem_cons.mp unbroken
    simp [wordsFrom, first, ih rest]

/-- A blank at the end of a text belongs to no word. -/
theorem words_append_blank (blank : isBlank c = true) : words (text ++ [c]) = words text := by
  unfold words
  -- the blank may end a word that was begun before
  suffices general : ∀ begun, wordsFrom begun (text ++ [c]) = wordsFrom begun text from general []
  induction text with
  | nil =>
    intro begun
    simp [wordsFrom, blank]
  | cons d text ih =>
    intro begun
    simp only [List.cons_append, wordsFrom, ih]

/-- A blank at the start of a text belongs to no word. -/
theorem words_cons_blank (blank : isBlank c = true) : words (c :: text) = words text := by
  simp [words, wordsFrom, blank]

theorem words_word (isWord : IsWord word) : words word = [word] := by
  have read : words (word ++ []) = wordsFrom (word.reverse ++ []) [] := wordsFrom_append isWord.2
  simpa [wordsFrom, isWord.1] using read

/-- A word before a blank is the first word. -/
theorem words_word_append (isWord : IsWord word) (blank : isBlank c = true) :
    words (word ++ c :: text) = word :: words text := by
  have read : words (word ++ c :: text) = wordsFrom (word.reverse ++ []) (c :: text) :=
    wordsFrom_append isWord.2
  rw [read, words]
  simp [wordsFrom, blank, isWord.1]

/-- Words with blanks between them are read again. -/
theorem words_intercalate {ws : List (List Char)} (areWords : ∀ w ∈ ws, IsWord w) :
    words ([' '].intercalate ws) = ws := by
  induction ws with
  | nil => rfl
  | cons w ws ih =>
    obtain ⟨first, rest⟩ := List.forall_mem_cons.mp areWords
    cases ws with
    | nil => simpa using words_word first
    | cons w' ws =>
      rw [List.intercalate_cons_cons, List.append_assoc, List.singleton_append,
        words_word_append first (by decide), ih rest]

/-! ## Parts -/

variable {separator : Char}

theorem splitAt_ne_nil : splitAt separator text ≠ [] := by
  cases text with
  | nil => simp [splitAt]
  | cons c text =>
    simp only [splitAt]
    split
    · simp
    · split <;> simp

theorem splitAt_part (absent : separator ∉ part) : splitAt separator part = [part] := by
  induction part with
  | nil => rfl
  | cons c part ih =>
    simp only [List.mem_cons, not_or] at absent
    simp [splitAt, Ne.symm absent.1, ih absent.2]

/-- What stands before the first separator is the first part. -/
theorem splitAt_part_append (absent : separator ∉ part) :
    splitAt separator (part ++ separator :: text) = part :: splitAt separator text := by
  induction part with
  | nil => simp [splitAt]
  | cons c part ih =>
    simp only [List.mem_cons, not_or] at absent
    simp [splitAt, Ne.symm absent.1, ih absent.2]

/-- Parts with separators between them are split again. -/
theorem splitAt_intercalate (nonempty : parts ≠ []) (absent : ∀ part ∈ parts, separator ∉ part) :
    splitAt separator ([separator].intercalate parts) = parts := by
  induction parts with
  | nil => exact absurd rfl nonempty
  | cons part parts ih =>
    obtain ⟨first, rest⟩ := List.forall_mem_cons.mp absent
    cases parts with
    | nil => simpa using splitAt_part first
    | cons part' parts =>
      rw [List.intercalate_cons_cons, List.append_assoc, List.singleton_append,
        splitAt_part_append first, ih (by simp) rest]

/-- A blank at the start of a text belongs to no word of the parts. -/
theorem map_words_splitAt_cons (blank : isBlank c = true) (other : c ≠ separator) :
    (splitAt separator (c :: text)).map words = (splitAt separator text).map words := by
  simp only [splitAt, other, if_false]
  split
  · next none => exact absurd none splitAt_ne_nil
  · next part parts split =>
    rw [split, List.map_cons, List.map_cons, words_cons_blank blank]

/-- The words of parts that are joined by plus signs with blanks around them are read again. -/
theorem map_words_splitAt_intercalate (nonempty : parts ≠ [])
    (absent : ∀ part ∈ parts, '+' ∉ part) :
    (splitAt '+' ([' ', '+', ' '].intercalate parts)).map words = parts.map words := by
  induction parts with
  | nil => exact absurd rfl nonempty
  | cons part parts ih =>
    obtain ⟨first, rest⟩ := List.forall_mem_cons.mp absent
    cases parts with
    | nil => simp [splitAt_part first]
    | cons part' parts =>
      have split : [' ', '+', ' '].intercalate (part :: part' :: parts) =
          (part ++ [' ']) ++ '+' :: ' ' :: [' ', '+', ' '].intercalate (part' :: parts) := by
        simp [List.intercalate_cons_cons]
      rw [split, splitAt_part_append (by simpa using first), List.map_cons,
        words_append_blank (by decide), map_words_splitAt_cons (by decide) (by decide),
        ih (by simp) rest, List.map_cons, List.map_cons, List.map_cons]

/-- A text is cut at the first occurrence of a separator. -/
theorem cutAt_append (absent : separator ∉ part) :
    cutAt separator (part ++ separator :: text) = (part, text) := by
  have before : ∀ c ∈ part, (fun c => decide (c ≠ separator)) c = true := by
    intro c member
    have other : c ≠ separator := fun same => absent (same ▸ member)
    simpa using other
  rw [cutAt, List.takeWhile_append_of_pos before, List.dropWhile_append_of_pos before]
  simp

/-! ## Lines -/

/-- Whatever ends a line is a blank. -/
theorem isLineEnd_eq_false (visible : isBlank c = false) : isLineEnd c = false := by
  simp only [isBlank, isWhiteSpace, Bool.or_eq_false_iff, Bool.and_eq_false_iff,
    decide_eq_false_iff_not, beq_eq_false_iff_ne] at visible
  simp only [isLineEnd, Bool.or_eq_false_iff, Bool.and_eq_false_iff, decide_eq_false_iff_not,
    beq_eq_false_iff_ne]
  omega

variable {line : List Char} {lines : List (List Char)}

theorem splitLinesFrom_append {begun : List Char} (unbroken : ∀ c ∈ line, isLineEnd c = false) :
    splitLinesFrom begun (line ++ text) = splitLinesFrom (line.reverse ++ begun) text := by
  induction line generalizing begun with
  | nil => rfl
  | cons c line ih =>
    obtain ⟨first, rest⟩ := List.forall_mem_cons.mp unbroken
    -- a carriage return is told apart first, and ends a line as well
    have notReturn : c ≠ '\r' := by
      rintro rfl
      exact absurd first (by decide)
    rw [List.cons_append, splitLinesFrom, first]
    · simpa using ih rest
    · exact fun _ same => absurd same notReturn

/-- What stands before a line end is a line. -/
theorem splitLines_append (unbroken : ∀ c ∈ line, isLineEnd c = false) :
    splitLines (line ++ '\n' :: text) = line :: splitLines text := by
  have read : splitLines (line ++ '\n' :: text) =
      splitLinesFrom (line.reverse ++ []) ('\n' :: text) := splitLinesFrom_append unbroken
  rw [read, splitLinesFrom]
  · simp [isLineEnd, splitLines]
  · simp

theorem splitLines_line (present : line ≠ []) (unbroken : ∀ c ∈ line, isLineEnd c = false) :
    splitLines line = [line] := by
  have read : splitLines (line ++ []) = splitLinesFrom (line.reverse ++ []) [] :=
    splitLinesFrom_append unbroken
  simpa [splitLinesFrom, present] using read

/-- Lines with line ends between them, and maybe one at the end, are read again. -/
theorem splitLines_intercalate {ending : List Char} (ends : ending = [] ∨ ending = ['\n'])
    (present : ∀ line ∈ lines, line ≠ []) (nonempty : lines ≠ [])
    (unbroken : ∀ line ∈ lines, ∀ c ∈ line, isLineEnd c = false) :
    splitLines (['\n'].intercalate lines ++ ending) = lines := by
  induction lines with
  | nil => exact absurd rfl nonempty
  | cons line lines ih =>
    obtain ⟨here, below⟩ := List.forall_mem_cons.mp present
    obtain ⟨first, rest⟩ := List.forall_mem_cons.mp unbroken
    cases lines with
    | nil =>
      rcases ends with rfl | rfl
      · simpa using splitLines_line here first
      · have read : splitLines (line ++ ['\n']) = line :: splitLines [] := splitLines_append first
        simpa [splitLines, splitLinesFrom] using read
    | cons line' lines =>
      rw [List.intercalate_cons_cons, List.append_assoc, List.append_assoc, List.singleton_append,
        splitLines_append first, ih below (by simp) rest]

end Lending
