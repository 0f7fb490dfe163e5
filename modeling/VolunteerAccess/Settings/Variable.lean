import VolunteerAccess.Decimal.Reader
import VolunteerAccess.Environment
import VolunteerAccess.Settings.Key

/-!
# Settings in variables

A setting may be given by a variable of the environment: `logging.level` by
`VLY_ABILITY_LOGGING__LEVEL`.

- `Settings.Variable.key?`: what a variable of some name sets.
- `Settings.Variable.value`: the value of its text.
- `Settings.ofVariables`: all settings given by variables.
-/

namespace VolunteerAccess.Settings

namespace Variable

/-- The lower-case letter of a letter. Besides those of ASCII it is the sign of the kelvin
that has one in ASCII; no other letter can be part of a key. -/
def lower (c : Char) : Char := if c == '\u212a' then 'k' else c.toLower

/-- What the name of a variable starts with if it gives a setting. -/
def start : List Char := "vly_ability_".toList

/-- Pairs of underscores are points, taken from the left. -/
def points : List Char → List Char
  | '_' :: '_' :: cs => '.' :: points cs
  | c :: cs => c :: points cs
  | [] => []

/-- The name of the setting that a variable gives. -/
def key? (name : String) : Option String :=
  let cs := name.toList.map lower
  if start.isPrefixOf cs then some (String.ofList (points (cs.drop start.length))) else none

/-- The value of a text: a truth value, a number or else the text itself. -/
def value (s : String) : Tree :=
  let name := Text.lowerAscii s
  if name == "true" then .bool true
  else if name == "false" then .bool false
  else
    match Decimal.wholeNumber? s with
    | some n => .integer n
    | none =>
      match Binary64.ofText? s with
      | some x => .real x
      | none => .text s

end Variable

/-- The settings given by variables, each under the name of its setting. Names of variables that
differ in case alone give the same setting, and then the one that was set last counts. -/
def ofVariables (environment : Environment) : List (String × Tree) :=
  environment.entries.foldl (fun settings v =>
    match Variable.key? v.1 with
    | some key => Entries.put key (Variable.value v.2) settings
    | none => settings) []

end VolunteerAccess.Settings
