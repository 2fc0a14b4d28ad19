/-!
# White space and lines

Rule texts and documents are cut at white space and at line ends. White space is what Unicode
calls so, and also the four separator controls, which stand between the records of a text.

## Main definitions

* `isWhiteSpace`, `isBlank`, `isLineEnd` — the classes of characters
* `strip`, `words`, `splitLines`, `splitAt` — a text without its outer white space, its words, its
  lines, its parts between separators
-/

namespace Lending

/-- White space by the Unicode property. -/
def isWhiteSpace (c : Char) : Bool :=
  let n := c.toNat
  (0x9 ≤ n && n ≤ 0xD) || n == 0x20 || n == 0x85 || n == 0xA0 || n == 0x1680 ||
    (0x2000 ≤ n && n ≤ 0x200A) || n == 0x2028 || n == 0x2029 || n == 0x202F || n == 0x205F ||
    n == 0x3000

/-- White space, or one of the controls that separate files, groups, records and units. -/
def isBlank (c : Char) : Bool :=
  isWhiteSpace c || (0x1C ≤ c.toNat && c.toNat ≤ 0x1F)

/-- The characters that end a line; a carriage return and a line feed after it end one line
together. -/
def isLineEnd (c : Char) : Bool :=
  let n := c.toNat
  (0xA ≤ n && n ≤ 0xD) || (0x1C ≤ n && n ≤ 0x1E) || n == 0x85 || n == 0x2028 || n == 0x2029

/-- The text without the characters of a class at its end. -/
def dropEndWhile (p : Char → Bool) (text : List Char) : List Char :=
  (text.reverse.dropWhile p).reverse

/-- The text without blanks at its ends. -/
def strip (text : List Char) : List Char :=
  dropEndWhile isBlank (text.dropWhile isBlank)

/-- The maximal runs of characters other than blanks; `word` is the run begun so far. -/
def wordsFrom (word : List Char) : List Char → List (List Char)
  | [] => if word.isEmpty then [] else [word.reverse]
  | c :: text =>
    if isBlank c then
      if word.isEmpty then wordsFrom [] text else word.reverse :: wordsFrom [] text
    else wordsFrom (c :: word) text

/-- The words of a text. -/
def words (text : List Char) : List (List Char) := wordsFrom [] text

private theorem mem_wordsFrom {word text : List Char} {w : List Char}
    (clean : ∀ c ∈ word, isBlank c = false) (h : w ∈ wordsFrom word text) :
    w ≠ [] ∧ ∀ c ∈ w, isBlank c = false := by
  induction text generalizing word with
  | nil =>
    cases word with
    | nil => simp [wordsFrom] at h
    | cons d ds =>
      simp only [wordsFrom, List.isEmpty_cons, Bool.false_eq_true, if_false,
        List.mem_singleton] at h
      subst h
      exact ⟨by simp, fun c hc => clean c (List.mem_reverse.1 hc)⟩
  | cons c text ih =>
    simp only [wordsFrom] at h
    split at h
    · next blank =>
      cases word with
      | nil => exact ih clean h
      | cons d ds =>
        simp only [List.isEmpty_cons, Bool.false_eq_true, if_false, List.mem_cons] at h
        rcases h with rfl | h
        · exact ⟨by simp, fun c hc => clean c (List.mem_reverse.1 hc)⟩
        · exact ih (by simp) h
    · next notBlank =>
      refine ih (fun e he => ?_) h
      rcases List.mem_cons.1 he with rfl | he
      · simpa using notBlank
      · exact clean e he

/-- A word is not empty and has no blanks in it. -/
theorem of_mem_words {text word : List Char} (h : word ∈ words text) :
    word ≠ [] ∧ ∀ c ∈ word, isBlank c = false :=
  mem_wordsFrom (by simp) h

/-- The lines of a text; `line` is the line begun so far. -/
def splitLinesFrom (line : List Char) : List Char → List (List Char)
  | [] => if line.isEmpty then [] else [line.reverse]
  | '\r' :: '\n' :: text => line.reverse :: splitLinesFrom [] text
  | c :: text =>
    if isLineEnd c then line.reverse :: splitLinesFrom [] text
    else splitLinesFrom (c :: line) text

/-- The lines of a text. A line end closes its line, so the text after the last one is a line only
if it is not empty. -/
def splitLines (text : List Char) : List (List Char) := splitLinesFrom [] text

/-- The parts of a text between the occurrences of a separator; there is always one more part than
there are separators. -/
def splitAt (separator : Char) : List Char → List (List Char)
  | [] => [[]]
  | c :: text =>
    if c = separator then [] :: splitAt separator text
    else
      match splitAt separator text with
      | [] => [[c]]
      | part :: parts => (c :: part) :: parts

/-- The text before the first occurrence of a separator and the text after it; without one, the
whole text and nothing. -/
def cutAt (separator : Char) (text : List Char) : List Char × List Char :=
  (text.takeWhile (· ≠ separator), (text.dropWhile (· ≠ separator)).drop 1)

end Lending
