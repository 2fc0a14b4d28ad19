/-!
# Documents

Policies, schedules and calendars come as documents: texts, numbers and flags in lists and records.
Reading a document finds all its flaws at once, each with the path to the place where it is.

## Main definitions

* `Document` — a value of a document
* `Flaw` — a place in a document and what is wrong there
* `Reading` — what was read, or all flaws
* `Reading.required`, `Reading.optional` — reading the fields of a record
-/

namespace Lending

/-! ## Values -/

/-- A value of a document. A number written with a fraction is kept apart from a whole number, as
`mantissa` divided by ten to the power of `places`. -/
inductive Document
  | null
  | flag (value : Bool)
  | whole (value : Int)
  | fractional (mantissa : Int) (places : Nat)
  | text (value : String)
  | list (items : List Document)
  | record (fields : List (String × Document))
deriving Inhabited

/-! ## Flaws -/

/-- A step into a document: to the field of a name or to the item of a number. -/
inductive PathStep
  | field (name : String)
  | item (index : Nat)
deriving DecidableEq, Repr

/-- What is wrong at a place. -/
inductive FlawKind
  | missing | notRecord | notList | notText
  | notWhole | notWholeText | notWholeNumber | tooSmall
  | notFlag | notFlagText
  | notChoice
  | notDateTime | notDateTimeText
  | notDate | notDateText | notMidnight
  | notTime | notTimeText
deriving DecidableEq, Repr

/-- The name under which a flaw is reported. -/
def FlawKind.name : FlawKind → String
  | missing => "missing"
  | notRecord => "model_type"
  | notList => "list_type"
  | notText => "string_type"
  | notWhole => "int_type"
  | notWholeText => "int_parsing"
  | notWholeNumber => "int_from_float"
  | tooSmall => "greater_than_equal"
  | notFlag => "bool_type"
  | notFlagText => "bool_parsing"
  | notChoice => "enum"
  | notDateTime => "datetime_type"
  | notDateTimeText => "datetime_from_date_parsing"
  | notDate => "date_type"
  | notDateText => "date_from_datetime_parsing"
  | notMidnight => "date_from_datetime_inexact"
  | notTime => "time_type"
  | notTimeText => "time_parsing"

/-- A place in a document and what is wrong there. -/
structure Flaw where
  path : List PathStep
  kind : FlawKind
deriving DecidableEq, Repr

/-! ## Reading -/

/-- What was read of a document, or all flaws that stand in the way. -/
inductive Reading (α : Type)
  | clear (value : α)
  | flawed (flaws : List Flaw)

namespace Reading

variable {α β : Type}

/-- A flaw at the place that is being read. -/
def flaw (kind : FlawKind) : Reading α := flawed [⟨[], kind⟩]

/-- A reading of a part, seen from the whole. -/
def under (step : PathStep) : Reading α → Reading α
  | clear a => clear a
  | flawed flaws => flawed (flaws.map fun f => { f with path := step :: f.path })

/-- Two readings together; the flaws of both are kept. -/
def apply (f : Reading (α → β)) (a : Unit → Reading α) : Reading β :=
  match f, a () with
  | clear f, clear a => clear (f a)
  | clear _, flawed flaws => flawed flaws
  | flawed flaws, clear _ => flawed flaws
  | flawed flaws, flawed more => flawed (flaws ++ more)

instance : Applicative Reading where
  pure := clear
  seq := apply

/-- The readings of all items of a list, together. -/
def all (read : Document → Reading α) (index : Nat) : List Document → Reading (List α)
  | [] => clear []
  | d :: ds => List.cons <$> (read d).under (.item index) <*> all read (index + 1) ds

/-- A list of values. -/
def list (read : Document → Reading α) : Document → Reading (List α)
  | .list items => all read 0 items
  | _ => flaw .notList

/-- A value that may be null. -/
def nullable (read : Document → Reading α) : Document → Reading (Option α)
  | .null => clear none
  | d => some <$> read d

/-! ### Records -/

/-- The fields of a record. -/
abbrev Fields := List (String × Document)

/-- A value made of the fields of a record. -/
def record (read : Fields → Reading α) : Document → Reading α
  | .record fields => read fields
  | _ => flaw .notRecord

/-- The value of a field, which may also be given under a second name. -/
def lookup (fields : Fields) (name second : String) : Option Document :=
  (fields.lookup name).or (fields.lookup second)

/-- A field that has to be there. -/
def required (fields : Fields) (name second : String) (read : Document → Reading α) : Reading α :=
  match lookup fields name second with
  | none => (flaw .missing).under (.field name)
  | some d => (read d).under (.field name)

/-- A field with a default. -/
def optional (fields : Fields) (name second : String) (read : Document → Reading α) (default : α) :
    Reading α :=
  match lookup fields name second with
  | none => clear default
  | some d => (read d).under (.field name)

end Reading

end Lending
