import Lending.Fault
import Lending.Rules.Basic

/-!
# Settings

The time zone in which due dates are reckoned, and how rules are read and ranked. Settings come from
variables of the environment; a variable that is empty counts as not set.

## Main definitions

* `Settings` — the settings with their defaults
* `Settings.ofEnvironment` — the settings of an environment
-/

namespace Lending

/-- The settings of a library. -/
structure Settings where
  zoneName : String := "UTC"
  zone : Zone := .utc
  tieBreak : Option TieBreak := none
  requireFallback : Bool := true
deriving DecidableEq, Repr

namespace Settings

/-- The value of a variable that is set and not empty. -/
def setting? (environment : List (String × String)) (name : String) : Option String :=
  (environment.lookup name).filter (· ≠ "")

/-- The settings with the time zone of a name, which the known regions are asked for. -/
def withZone (settings : Settings) (regions : List Region) (name : String) :
    Except Fault Settings := do
  let zone ← (Fault.unknownZone name).require (Zone.named? regions name)
  return { settings with zoneName := name, zone }

/-- The settings with the tie break of a name in any letter case. -/
def withTieBreak (settings : Settings) (text : String) : Except Fault Settings := do
  let name := lowercase text
  let tieBreak ← (Fault.unknownTieBreak name).require (TieBreak.named? name)
  return { settings with tieBreak := some tieBreak }

/-- What the names of the variables begin with unless another lead is chosen. -/
def standardLead : String := "CIRCULATION_"

/-- The settings of an environment, whose variables have names that begin with `lead`. -/
def ofEnvironment (regions : List Region) (environment : List (String × String)) (lead : String) :
    Except Fault Settings := do
  let value? (name : String) := setting? environment (lead ++ name)
  let settings ← match value? "TIMEZONE" with
    | none => pure {}
    | some name => withZone {} regions name
  let settings ← match value? "RULE_TIE_BREAK" with
    | none => pure settings
    | some text => settings.withTieBreak text
  match value? "REQUIRE_FALLBACK" with
  | none => return settings
  | some text => return { settings with requireFallback := lowercase text = "true" }

end Settings

end Lending
