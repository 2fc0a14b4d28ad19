import Lending.Document.Value
import Lending.Text.Blank
import Lending.Time.Iso

/-!
# Single values of documents

Documents are written by many hands, so a number may come as a text, a flag as a number, and a date
with a time. What is accepted is what leaves no doubt about the value.

## Main definitions

* `Reading.text`, `Reading.whole`, `Reading.flag`, `Reading.choice` — texts, numbers, flags, names
* `Reading.dateTime`, `Reading.date`, `Reading.time` — written dates and times
-/

namespace Lending.Reading

/-- A text. -/
def text : Document → Reading String
  | .text s => clear s
  | _ => flaw .notText

/-! ## Numbers -/

/-- The digits of a number, with single low lines between digits left out; `some` only if there are
digits and a low line always has one on either side. -/
def ungrouped? : List Char → Option (List Char)
  | [] => none
  | [c] => if (Iso.digit? c).isSome then some [c] else none
  | c :: d :: rest =>
    if (Iso.digit? c).isSome then
      if d = '_' then (ungrouped? rest).map (c :: ·) else (ungrouped? (d :: rest)).map (c :: ·)
    else none

/-- The number of a list of digits. -/
def ofDigits (digits : List Char) : Nat :=
  digits.foldl (fun n c => 10 * n + (c.toNat - 48)) 0

/-- A text without its fraction, if that is a point and one or more zeros. A text with any other
fraction keeps it, a bare point at the end included. -/
def withoutZeroFraction (text : List Char) : List Char :=
  let (before, after) := cutAt '.' text
  if after ≠ [] ∧ after.all (· = '0') then before else text

/-- The number of an unsigned text. -/
def natural? (text : List Char) : Option Nat :=
  (ungrouped? (withoutZeroFraction text)).map ofDigits

/-- The whole number that a text stands for: digits after an optional sign, with white space around
them. -/
def wholeOfText? (text : List Char) : Option Int :=
  match dropEndWhile isWhiteSpace (text.dropWhile isWhiteSpace) with
  | '+' :: rest => (natural? rest).map Int.ofNat
  | '-' :: rest => (natural? rest).map fun n => -(n : Int)
  | rest => (natural? rest).map Int.ofNat

/-- A whole number, which may be written as a flag, with a zero fraction or as a text. -/
def whole : Document → Reading Int
  | .flag b => clear (if b then 1 else 0)
  | .whole n => clear n
  | .fractional mantissa places =>
    if mantissa % (Nat.pow 10 places : Int) = 0 then clear (mantissa / (Nat.pow 10 places : Int))
    else flaw .notWholeNumber
  | .text s =>
    match wholeOfText? s.toList with
    | some n => clear n
    | none => flaw .notWholeText
  | _ => flaw .notWhole

/-- A whole number that is not negative. -/
def count (d : Document) : Reading Int :=
  match whole d with
  | clear n => if n < 0 then flaw .tooSmall else clear n
  | flawed flaws => flawed flaws

/-! ## Flags and names -/

/-- A letter of the English alphabet in lower case; other characters stay. -/
def lowerLetter (c : Char) : Char :=
  if 'A' ≤ c ∧ c ≤ 'Z' then Char.ofNat (c.toNat + 32) else c

/-- The flag that a word stands for, in any letter case. -/
def flagOfText? (text : String) : Option Bool :=
  let word := String.ofList (text.toList.map lowerLetter)
  if word ∈ ["1", "true", "t", "yes", "y", "on"] then some true
  else if word ∈ ["0", "false", "f", "no", "n", "off"] then some false
  else none

/-- A flag, which may be written as a number or a word. -/
def flag : Document → Reading Bool
  | .flag b => clear b
  | .whole n => if n = 1 then clear true else if n = 0 then clear false else flaw .notFlagText
  | .fractional mantissa places =>
    if mantissa = (Nat.pow 10 places : Int) then clear true
    else if mantissa = 0 then clear false
    else flaw .notFlag
  | .text s =>
    match flagOfText? s with
    | some b => clear b
    | none => flaw .notFlagText
  | _ => flaw .notFlag

/-- One of a number of names, written exactly. -/
def choice {α : Type} (named? : String → Option α) : Document → Reading α
  | .text s =>
    match named? s with
    | some a => clear a
    | none => flaw .notChoice
  | _ => flaw .notChoice

/-! ## Dates and times -/

/-- The wall clock of a written date and time, and its offset from universal time if it has one. A
date alone stands for its midnight. -/
def dateTimeOfText? (text : String) : Option (WallClock × Option Int) :=
  match Iso.whole? Iso.date? text with
  | some date => some (.showing date startOfDay, none)
  | none => do
    let (wall, rest) ← Iso.wallClock? text.toList
    match rest with
    | [] => some (wall, none)
    | rest =>
      let (offset, rest) ← Iso.offset? rest
      if rest.isEmpty then some (wall, some offset) else none

/-- A date and time. -/
def dateTime : Document → Reading (WallClock × Option Int)
  | .text s =>
    match dateTimeOfText? s with
    | some t => clear t
    | none => flaw .notDateTimeText
  | _ => flaw .notDateTime

/-- A date, which may be written with a time if that is midnight. -/
def date : Document → Reading Date
  | .text s =>
    match dateTimeOfText? s with
    | some (wall, _) => if wall.time = startOfDay then clear wall.date else flaw .notMidnight
    | none => flaw .notDateText
  | _ => flaw .notDate

/-- A time of day. -/
def time : Document → Reading TimeOfDay
  | .text s =>
    match Iso.whole? Iso.time? s with
    | some t => clear t
    | none => flaw .notTimeText
  | _ => flaw .notTime

end Lending.Reading
