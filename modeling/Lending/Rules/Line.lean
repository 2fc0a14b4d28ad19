import Lending.Rules.Basic
import Lending.Text.Blank

/-!
# Lines of a rule text

A line of a rule text is blank, declares the ranking, gives the fallback, or is a rule: criteria
such as `m book dvd + !g staff`, then a colon and policies such as `l loan-id r request-id`.

## Main definitions

* `RuleTextError` — what is wrong with a rule text, by cause and line
* `parseCriteria`, `parsePolicies`, `parsePriority` — the three small languages
* `RuleLine`, `RuleLine.ofText` — a line without its comment, told apart by kind
-/

namespace Lending

/-! ## Errors -/

/-- What is wrong with a rule text. -/
inductive RuleTextError.Cause
  | tabIndentation
  | emptyCriterion
  | unknownCriterion (word : String)
  | noValues (word : String)
  | repeatedCriterion (word : String)
  | negatedWildcard (word : String)
  | mixedWildcard (word : String)
  | unknownPolicyType (word : String)
  | noPolicyId (word : String)
  | repeatedPolicyType (word : String)
  | unknownPriority (entry : String)
  | noLetterList
  | indentedPriority
  | repeatedPriority
  | indentedFallback
  | repeatedFallback
  | missingFallback
  | incompleteFallback (missing : List PolicyType)
deriving DecidableEq, Repr

/-- What is wrong, in words. -/
def RuleTextError.Cause.message : Cause → String
  | tabIndentation => "Tab character is not allowed for indentation"
  | emptyCriterion => "Empty criterion"
  | unknownCriterion word => "Unknown criterion type: " ++ word
  | noValues word => "Criterion " ++ word ++ " needs at least one value"
  | repeatedCriterion word => "Criterion " ++ word ++ " is repeated"
  | negatedWildcard word => "Wildcard cannot be negated for " ++ word
  | mixedWildcard word => "Wildcard cannot be combined with values for " ++ word
  | unknownPolicyType word => "Unknown policy type: " ++ word
  | noPolicyId word => "Policy type " ++ word ++ " has no policy id"
  | repeatedPolicyType word => "Policy type " ++ word ++ " is assigned twice"
  | unknownPriority entry => "Unknown priority entry: " ++ entry
  | noLetterList => "criterium priority needs a letter list"
  | indentedPriority => "priority line cannot be indented"
  | repeatedPriority => "priority is declared twice"
  | indentedFallback => "fallback-policy line cannot be indented"
  | repeatedFallback => "fallback-policy is declared twice"
  | missingFallback => "fallback-policy is missing"
  | incompleteFallback missing =>
    "fallback-policy must assign every policy type, missing: " ++
      ", ".intercalate (missing.map fun t => String.ofList [t.letter])

/-- What is wrong with a rule text, and on which line if it is on one. -/
structure RuleTextError where
  cause : RuleTextError.Cause
  line : Option Int
deriving DecidableEq, Repr

/-- The line and what is wrong with it. -/
def RuleTextError.message (error : RuleTextError) : String :=
  match error.line with
  | none => error.cause.message
  | some line => "line " ++ toString line ++ ": " ++ error.cause.message

open RuleTextError (Cause)

/-! ## Criteria -/

/-- The dimension of a word. -/
def parseDimension (word : List Char) : Except Cause Dimension :=
  match Dimension.ofWord? word with
  | some d => .ok d
  | none => .error (.unknownCriterion (String.ofList word))

/-- A letter without the mark of negation, and whether it had one. -/
def splitNegation : List Char → List Char × Bool
  | '!' :: word => (word, true)
  | word => (word, false)

/-- The criteria with those of one term, given by its words. A wildcard leaves its dimension
open. -/
def addTerm (criteria : Criteria) : List (List Char) → Except Cause Criteria
  | [] => .error .emptyCriterion
  | head :: values => do
    if head = "all".toList ∧ values = [] then return criteria
    let (word, negated) := splitNegation head
    let letter := String.ofList word
    let d ← parseDimension word
    if values.isEmpty then throw (.noValues letter)
    if (criteria d).isSome then throw (.repeatedCriterion letter)
    if values = [['*']] then
      if negated then throw (.negatedWildcard letter) else return criteria
    if ['*'] ∈ values then throw (.mixedWildcard letter)
    return criteria.set d (.ofList (values.map String.ofList) negated)

/-- Criteria written as terms with plus signs between them. -/
def parseCriteria (text : List Char) : Except Cause Criteria :=
  ((splitAt '+' text).map words).foldlM addTerm .none

/-! ## Policies -/

/-- The policies with those of a list of words, which are letters and ids in turn. -/
def addPolicies (policies : Assignments) : List (List Char) → Except Cause Assignments
  | letter :: id :: rest =>
    match PolicyType.ofWord? letter with
    | none => .error (.unknownPolicyType (String.ofList letter))
    | some t =>
      if (policies t).isSome then .error (.repeatedPolicyType (String.ofList letter))
      else addPolicies (policies.set t (String.ofList id)) rest
  | _ => .ok policies

/-- Policies written as letters, each with an id. -/
def parsePolicies (text : List Char) : Except Cause Assignments :=
  let tokens := words text
  if tokens.length % 2 = 1 then .error (.noPolicyId (String.ofList (tokens.getLastD [])))
  else addPolicies .none tokens

/-! ## Priority -/

/-- The parts of a text between commas, without blanks around them; empty parts are left out. -/
def entries (text : List Char) : List (List Char) :=
  ((splitAt ',' text).map strip).filter (!·.isEmpty)

/-- The dimensions of a list of letters. -/
def parseOrder (letters : List (List Char)) : Except Cause (List Dimension) :=
  letters.mapM parseDimension

/-- What follows a word at the start of a text. -/
def afterWord? : (word text : List Char) → Option (List Char)
  | [], text => some text
  | _ :: _, [] => none
  | c :: word, d :: text => if c = d then afterWord? word text else none

/-- The letter list of a `criterium( … )` with which a text starts, and what follows it. -/
def letterListHere? (text : List Char) : Option (List Char × List Char) := do
  let rest ← afterWord? "criterium".toList text
  match rest.dropWhile isBlank with
  | '(' :: inner =>
    match inner.dropWhile (· ≠ ')') with
    | ')' :: rest => some (inner.takeWhile (· ≠ ')'), rest)
    | _ => none
  | _ => none

/-- The first letter list of a text, and the text with the bare word in its place. -/
def letterList? : List Char → Option (List Char × List Char)
  | [] => none
  | c :: text =>
    match letterListHere? (c :: text) with
    | some (letters, rest) => some (letters, "criterium".toList ++ rest)
    | none => (letterList? text).map fun (letters, rest) => (letters, c :: rest)

/-- The key of an entry, with the tie break that the entry declares. -/
def parseKey (entry : List Char) : Except Cause (PriorityKey × Option TieBreak) :=
  match String.ofList entry with
  | "line" | "last-line" => .ok (.line, some .lastWins)
  | "first-line" => .ok (.line, some .firstWins)
  | "number-of-criteria" => .ok (.numberOfCriteria, none)
  | "criterium" => .ok (.criterium, none)
  | name => .error (.unknownPriority name)

/-- The last tie break that a list of keys declares. -/
def declaredTieBreak (keys : List (PriorityKey × Option TieBreak)) : Option TieBreak :=
  (keys.filterMap (·.2)).getLast?

/-- The keys with the line added at the end unless it is among them. -/
def withLine (keys : List PriorityKey) : List PriorityKey :=
  if .line ∈ keys then keys else keys ++ [.line]

/-- A ranking written as keys, or as a bare list of letters. -/
def parsePriority (text : List Char) : Except Cause Ranking := do
  let (letters, text) := (letterList? text).getD ([], text)
  let order ← parseOrder (entries letters)
  let parts := entries text
  if !parts.isEmpty ∧ parts.all (·.length = 1) then
    return { keys := [.criterium, .line], order := ← parseOrder parts }
  let keys ← parts.mapM parseKey
  if .criterium ∈ keys.map (·.1) ∧ order.isEmpty then throw .noLetterList
  return { keys := withLine (keys.map (·.1)), order, tieBreak := declaredTieBreak keys }

/-! ## Lines -/

/-- A line of a rule text by its kind, with its indentation and what is left to read. -/
inductive RuleLine
  | blank
  | priority (indented : Bool) (body : List Char)
  | fallback (indented : Bool) (body : List Char)
  | rule (indent : Nat) (criteria policies : List Char)
deriving DecidableEq, Repr

/-- A line without its comment: a line that starts with a slash is a comment as a whole, and any
other has one from its first number sign on. -/
def stripComment (line : List Char) : List Char :=
  match line.dropWhile isBlank with
  | '/' :: _ => []
  | _ => dropEndWhile isBlank (line.takeWhile (· ≠ '#'))

/-- The kind of a line. Lines are indented with blanks other than tabs. -/
def RuleLine.ofText (line : List Char) : Except Cause RuleLine :=
  let text := stripComment line
  let indentation := text.takeWhile isBlank
  let body := text.dropWhile isBlank
  if body.isEmpty then .ok .blank
  else if '\t' ∈ indentation then .error .tabIndentation
  else
    match afterWord? "priority:".toList body with
    | some rest => .ok (.priority (!indentation.isEmpty) rest)
    | none =>
      match afterWord? "fallback-policy:".toList body with
      | some rest => .ok (.fallback (!indentation.isEmpty) rest)
      | none =>
        let (criteria, policies) := cutAt ':' body
        .ok (.rule indentation.length criteria policies)

end Lending
