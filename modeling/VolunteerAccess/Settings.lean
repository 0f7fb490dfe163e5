import VolunteerAccess.Host
import VolunteerAccess.Settings.Variable
import VolunteerAccess.Text.Basic
import VolunteerAccess.Toml.Reader
import VolunteerAccess.Transition

/-!
# Settings

Settings are read from a TOML file, over which the variables of the environment
are laid. Whatever neither of them sets has a default. The values of one source
are kept under their names and have no order of their own, so that the order in
which they are laid one over the other may change between two starts of a program.

- `Settings`: the settings.
- `Settings.decode?`: settings in a tree.
- `Settings.check`: the rules that settings obey once they are decoded.
- `Settings.Order`: an order in which the values of a source are laid.
- `Settings.ofTextIn`, `Settings.ofText`: the settings of a TOML text, in any order
  and in that of the text.
- `Settings.loadIn`, `Settings.load`: the settings of a machine, from the file that
  is asked for or the first default one there is.
-/

namespace VolunteerAccess

/-- How log lines look. -/
inductive LogFormat where
  | pretty
  | json
deriving DecidableEq, Repr, Inhabited

namespace LogFormat

def all : List LogFormat := [.pretty, .json]

def name : LogFormat → String
  | .pretty => "pretty"
  | .json => "json"

/-- A format in a document. -/
def decode? {τ : Type} [Document τ] (v : τ) : Option LogFormat := Document.enum? all name v

end LogFormat

/-- What is logged and how. -/
structure Logging where
  level : String
  format : LogFormat
deriving DecidableEq, Inhabited

/-- The settings of the library's program. -/
structure Settings where
  /-- Whether the rule builders of several roles run interleaved. -/
  concurrentBuilders : Bool
  /-- Transition tables by the name of their resource. -/
  transitions : Dict TransitionConfig
  /-- The path of the file with fixtures. -/
  fixtures : Option String
  logging : Logging
deriving Inhabited

namespace Settings

/-- The settings of nobody's choice. -/
def default : Settings :=
  { concurrentBuilders := true, transitions := .empty, fixtures := none,
    logging := { level := "info", format := .pretty } }

/-! ## Decoding -/

section
variable {τ : Type} [Document τ]

def decodeEngine? (v : τ) : Option Bool := do
  let field ← Document.fields? ["concurrent_builders"] v
  Document.orDefault default.concurrentBuilders Document.flag? (field "concurrent_builders")

def decodeStore? (v : τ) : Option (Option String) := do
  let field ← Document.fields? ["fixtures"] v
  Document.optional Document.text? (field "fixtures")

def decodeLogging? (v : τ) : Option Logging := do
  let field ← Document.fields? ["level", "format"] v
  return {
    level := ← Document.orDefault default.logging.level Document.text? (field "level")
    format := ← Document.orDefault default.logging.format LogFormat.decode? (field "format")
  }

/-- Settings in a document; whatever is left out is as in the default. -/
def decode? (v : τ) : Option Settings := do
  let field ← Document.fields? ["engine", "transitions", "store", "logging"] v
  return {
    concurrentBuilders := ←
      Document.orDefault default.concurrentBuilders decodeEngine? (field "engine")
    transitions := ←
      Document.orDefault default.transitions (Document.dict? TransitionConfig.decode?)
        (field "transitions")
    fixtures := ← Document.orDefault default.fixtures decodeStore? (field "store")
    logging := ← Document.orDefault default.logging decodeLogging? (field "logging")
  }

end

/-! ## Rules -/

/-- The guard that the settings configure. -/
def guard (s : Settings) : Except ConfigFailure Guard := Guard.ofConfig s.transitions.entries

/-- Refuse settings without a log level, with a blank path of fixtures, or whose transition
tables make no guard. -/
def check (s : Settings) : Except ConfigFailure Unit :=
  if Text.isBlank s.logging.level then .error (.missing "logging.level")
  else if s.fixtures.any Text.isBlank then
    .error (.invalid "store.fixtures must not be empty when set")
  else s.guard.map (fun _ => ())

/-- The settings in the entries of an outermost table. -/
def ofEntries (root : List (String × Tree)) : Except ConfigFailure Settings :=
  match decode? (Tree.table root) with
  | none => .error (.load "a setting has a value of another kind")
  | some s => s.check.map (fun _ => s)

/-! ## Sources -/

/-- The entries of the outermost table of a TOML text, each under the name of its setting. -/
def entriesOfText? (s : String) : Option (List (String × Tree)) := do
  return (← Tree.ofToml? (← Toml.parse? .lenient s)).entries

/-- The settings that some named values give, one laid over the other. -/
def ofValues (values : List (String × Tree)) : Except ConfigFailure Settings :=
  if values.all (fun v => (Key.ofText v.1).fits) then ofEntries (assignAll values [])
  else .error .exhausted

/-- An order in which the values of a source are laid. -/
structure Order where
  arrange : List (String × Tree) → List (String × Tree)
  perm (values : List (String × Tree)) : (arrange values).Perm values

/-- The order in which the values of a source are written. -/
def Order.written : Order := ⟨id, .refl⟩

/-- The settings of a TOML text with the variables of an environment laid over them, each of the
two in an order of its own. -/
def ofSources (file given : Order) (s : String) (environment : Environment) :
    Except ConfigFailure Settings :=
  match entriesOfText? s with
  | none => .error (.load "the settings are not a TOML document")
  | some entries =>
    ofValues (file.arrange entries ++ given.arrange (ofVariables environment))

/-- The settings of a TOML text and of an environment, in the orders of both. -/
def ofTextAndVariables (s : String) (environment : Environment) : Except ConfigFailure Settings :=
  ofSources .written .written s environment

/-- The settings of a TOML text alone, its entries being laid in some order. -/
def ofTextIn (file : Order) (s : String) : Except ConfigFailure Settings :=
  ofSources file .written s .empty

/-- The settings of a TOML text alone. -/
def ofText (s : String) : Except ConfigFailure Settings := ofTextAndVariables s .empty

/-! ## Files -/

/-- Where a file of settings is looked for if none is asked for. -/
def defaultPaths : List String :=
  ["vly-ability.toml", ".vly-ability.toml", "~/.config/vly-ability/config.toml",
    "/etc/vly-ability/config.toml"]

section
variable {m : Type → Type} [Monad m]

/-- The first of some paths that leads to anything. -/
def firstHeld? (h : Host m) : List String → m (Option String)
  | [] => return none
  | path :: paths => do
    if ← h.holds path then return some path else firstHeld? h paths

/-- The path of the file of settings. One that is asked for must lead to something. -/
def path? (h : Host m) (asked : Option String) : m (Except ConfigFailure (Option String)) := do
  match asked with
  | none => return .ok (← firstHeld? h (defaultPaths.map h.expand))
  | some path =>
    if ← h.holds path then return .ok (some path)
    else return .error (.load ("Configuration file not found: " ++ path))

/-- The text of a regular file. A mark of the byte order at its start does not count, beside
the one that a document may have of its own. -/
def readRegular? (h : Host m) (path : String) : m (Option String) := do
  if ← h.isRegular path then return (← h.read path).toOption.map Text.dropByteOrderMark
  else return none

/-- The text of a file of settings, or of the file that stands in for it when the path leads
to something else. -/
def read? (h : Host m) (path : String) : m (Option String) := do
  if ← h.isRegular path then readRegular? h path
  else
    match Path.standIn? path "toml" with
    | none => return none
    | some path => readRegular? h path

/-- The settings of a machine, those of the file and those of the variables being laid in some
order. A file that is asked for must be there; without one and without a default file the
variables alone count. -/
def loadIn (file given : Order) (h : Host m) (asked : Option String) :
    m (Except ConfigFailure Settings) := do
  match ← path? h asked with
  | .error failure => return .error failure
  | .ok none => return ofSources file given "" h.environment
  | .ok (some path) =>
    match ← read? h path with
    | none => return .error (.load ("file cannot be read: " ++ path))
    | some s => return ofSources file given s h.environment

/-- The settings of a machine, in the order of the file and of the variables. -/
def load (h : Host m) (asked : Option String) : m (Except ConfigFailure Settings) :=
  loadIn .written .written h asked

end

end Settings

end VolunteerAccess
