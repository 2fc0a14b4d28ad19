import Lending.Text.CaseTable

/-!
# Changing the case of a text

A text is put into lower case character by character by the full mappings of Unicode: a capital I
with a dot becomes two characters, and a capital sigma takes its final form at the end of a word.
Capitalising a text puts its first character into title case and the others into lower case.

## Main definitions

* `lowercase` — a text in lower case
* `capitalize` — a text with a title-case first character
-/

namespace Lending

/-- Whether the nearest character that is not passed over has a case. -/
def nextIsCased (text : List Char) : Bool :=
  match text.dropWhile (inRanges caseIgnorableRanges) with
  | [] => false
  | c :: _ => inRanges casedRanges c

/-- The lower case of a character. A sigma between `before`, read backwards, and `after` has its
final form if a letter stands before it and none after it. -/
def lowerChar (before : List Char) (c : Char) (after : List Char) : List Char :=
  if c = 'İ' then ['i', '\u0307']
  else if c = 'Σ' ∧ nextIsCased before ∧ ¬ nextIsCased after then ['ς']
  else [mapByRuns lowerRuns c]

/-- The lower case of the rest of a text of which `before`, read backwards, has been passed. -/
def lowercaseFrom (before : List Char) : List Char → List Char
  | [] => []
  | c :: text => lowerChar before c text ++ lowercaseFrom (c :: before) text

/-- The title case of a character. -/
def titleChar (c : Char) : List Char :=
  match titleExpansions.find? (·.1 == c.toNat) with
  | some (_, codes) => codes.map Char.ofNat
  | none => [mapByRuns titleRuns c]

/-- A text in lower case. -/
def lowercase (text : String) : String :=
  String.ofList (lowercaseFrom [] text.toList)

/-- A text whose first character is in title case and whose others are in lower case. -/
def capitalize (text : String) : String :=
  match text.toList with
  | [] => ""
  | c :: rest => String.ofList (titleChar c ++ lowercaseFrom [c] rest)

end Lending
