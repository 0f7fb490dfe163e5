import VolunteerAccess.CommandLine.Command

/-!
# Arguments

The words after the name of the program: options that every command knows, the
name of a command, and its own options, among which the common ones may stand
too.

- `Switch`: an option and how it is written.
- `Words.read`: the values of options, up to a word that is none.
- `Arguments`: a command with the common options.
- `Arguments.read`: the arguments of a list of words. An option in the part of
  the command counts before the same one in front of it, and either before a
  variable of the environment.
-/

namespace VolunteerAccess

/-! ## Options -/

/-- An option, which always takes a value. -/
structure Switch where
  /-- The name after two dashes. -/
  long : String
  /-- The letter after one dash. -/
  short : Option Char
  /-- The variable that stands in for the option. -/
  envName : Option String
  /-- The value if nothing else gives one. -/
  default : Option String
  /-- Whether the option may be left out. -/
  isOptional : Bool
  /-- What the option is for. -/
  purpose : String
deriving Inhabited

namespace Switch

/-- An option that must be given. -/
def needed (long : String) (short : Option Char) (purpose : String) : Switch :=
  { long, short, envName := none, default := none, isOptional := false, purpose }

/-- The options of every command. -/
def common : List Switch :=
  [{ long := "config", short := some 'c', envName := some "VLY_ABILITY_CONFIG",
     default := none, isOptional := true, purpose := "Path to configuration file" },
   { long := "log-level", short := none, envName := some "VLY_ABILITY_LOG_LEVEL",
     default := none, isOptional := true,
     purpose := "Log level (trace, debug, info, warn, error); overrides the config file" },
   { long := "fixtures", short := some 'f', envName := some "VLY_ABILITY_FIXTURES",
     default := none, isOptional := true,
     purpose := "Fixture file (JSON or TOML); overrides store.fixtures" }]

def session : Switch :=
  needed "session" (some 's') "Session name from the fixtures (anonymous always exists)"

def resource : Switch :=
  { long := "resource", short := some 'r', envName := none, default := some "interest",
    isOptional := true, purpose := "Resource type (interest, interest_archive)" }

def action : Switch :=
  needed "action" (some 'a') "Action (list, read, create, update, delete)"

end Switch

/-! ## Commands by name -/

/-- The name of a command. -/
inductive CommandName where
  | can
  | filter
  | transition
deriving DecidableEq, Repr, Inhabited

namespace CommandName

def all : List CommandName := [.can, .filter, .transition]

def name : CommandName → String
  | .can => "can"
  | .filter => "filter"
  | .transition => "transition"

def ofText? (s : String) : Option CommandName := all.find? (fun c => c.name == s)

/-- The options of its own. -/
def switches : CommandName → List Switch
  | .can =>
    [.session, .resource, .action, .needed "id" none "Interest id"]
  | .filter => [.session, .resource, .action]
  | .transition =>
    [.resource, .needed "from" none "State before", .needed "to" none "State after",
      .needed "role" none "Acting role"]

/-- What the command is for. -/
def purpose : CommandName → String
  | .can => "Check whether a session may perform an action on a stored interest"
  | .filter => "Print the query filter a session gets for an action"
  | .transition => "Check a status transition against the transition tables"

/-- The command with the values of its options. -/
def command? (value : String → Option String) : CommandName → Option Command
  | .can =>
    return .can (← value "session") (← value "resource") (← value "action") (← value "id")
  | .filter => return .filter (← value "session") (← value "resource") (← value "action")
  | .transition =>
    return .transition (← value "resource") (← value "from") (← value "to") (← value "role")

end CommandName

/-! ## Words -/

/-- Values of options, each under the long name of its option. -/
abbrev Values := List (String × String)

namespace Words

/-- What a word is. -/
inductive Kind where
  /-- Not an option. -/
  | plain
  /-- Two dashes, after which no option follows. -/
  | endOfOptions
  | help
  | version
  /-- An option with the value that is attached to it. -/
  | switch (option : Switch) (attached : Option String)
  | unknown
deriving Inhabited

/-- A word after two dashes: a name, and a value after a sign of equality. -/
def longKind (switches : List Switch) (cs : List Char) : Kind :=
  let name := String.ofList (cs.takeWhile (· != '='))
  let attached : Option String := match cs.dropWhile (· != '=') with
    | [] => none
    | _ :: value => some (String.ofList value)
  match switches.find? (fun o => o.long == name), attached with
  | some o, _ => .switch o attached
  | none, some _ => .unknown
  | none, none =>
    if name == "help" then .help else if name == "version" then .version else .unknown

/-- A word after one dash: a letter, and a value that follows at once or after a sign of
equality. -/
def shortKind (switches : List Switch) (c : Char) (cs : List Char) : Kind :=
  match switches.find? (fun o => o.short == some c) with
  | some o =>
    .switch o (match cs with
      | [] => none
      | '=' :: value => some (String.ofList value)
      | value => some (String.ofList value))
  | none => if c == 'h' then .help else if c == 'V' then .version else .unknown

/-- What a word is. A single dash is a plain word. -/
def kind (switches : List Switch) (word : String) : Kind :=
  match word.toList with
  | ['-', '-'] => .endOfOptions
  | '-' :: '-' :: cs => longKind switches cs
  | '-' :: c :: cs => shortKind switches c cs
  | _ => .plain

/-- How the reading of words ends. -/
inductive Ending where
  /-- At the first word that is no option, or with no words left. -/
  | values (given : Values) (rest : List String)
  | help
  | version
  | wrong
deriving Inhabited

/-- Read options and their values. An option is given once at most. A value that is a word of
its own does not look like an option. -/
def read (switches : List Switch) (given : Values) : List String → Ending
  | [] => .values given []
  | word :: words =>
    match kind switches word with
    | .plain => .values given (word :: words)
    | .endOfOptions => if words.isEmpty then .values given [] else .wrong
    | .help => .help
    | .version => .version
    | .unknown => .wrong
    | .switch o (some value) =>
      if (given.lookup o.long).isSome then .wrong
      else read switches ((o.long, value) :: given) words
    | .switch o none =>
      match words with
      | [] => .wrong
      | value :: words =>
        match kind switches value with
        | .plain =>
          if (given.lookup o.long).isSome then .wrong
          else read switches ((o.long, value) :: given) words
        | _ => .wrong

end Words

/-! ## Arguments -/

/-- A command with the common options. -/
structure Arguments where
  config : Option String
  logLevel : Option String
  fixtures : Option String
  command : Command
deriving DecidableEq, Repr, Inhabited

/-- What is asked of the program. -/
inductive Invocation where
  | run (arguments : Arguments)
  /-- How to use the program, or one command of it. -/
  | help (command : Option CommandName)
  | version
  /-- The words are not put together as they should be. -/
  | misuse
deriving DecidableEq, Repr, Inhabited

namespace Arguments

/-- The value of an option: the first of the given ones, or else that of its variable, or else
its default. -/
def valueOf? (environment : Environment) (given : Values) (o : Switch) : Option String :=
  match given.lookup o.long with
  | some value => some value
  | none =>
    match o.envName.bind environment.get? with
    | some value => some value
    | none => o.default

/-- The values of some options by name. -/
def valuesOf (environment : Environment) (given : Values) (switches : List Switch)
    (name : String) : Option String :=
  (switches.find? (fun o => o.long == name)).bind (valueOf? environment given)

/-- The arguments of a command with the values of its options and the common ones. -/
def ofValues (c : CommandName) (value : String → Option String) : Invocation :=
  match c.command? value with
  | none => .misuse
  | some command =>
    .run { config := value "config", logLevel := value "log-level", fixtures := value "fixtures",
           command }

/-- The words after the name of a command, with what was given before it. -/
def readCommand (environment : Environment) (before : Values) (c : CommandName)
    (words : List String) : Invocation :=
  let switches := c.switches ++ Switch.common
  match Words.read switches [] words with
  | .help => .help (some c)
  | .values given [] => ofValues c (valuesOf environment (given ++ before) switches)
  | _ => .misuse

/-- The words after the word `help`. -/
def readHelp : List String → Invocation
  | [] | ["help"] => .help none
  | [word] => (CommandName.ofText? word).elim .misuse (fun c => .help (some c))
  | _ => .misuse

/-- What the words after the name of the program ask for. -/
def read (environment : Environment) (words : List String) : Invocation :=
  match Words.read Switch.common [] words with
  | .help => .help none
  | .version => .version
  | .values given (word :: words) =>
    if word == "help" then readHelp words
    else
      match CommandName.ofText? word with
      | some c => readCommand environment given c words
      | none => .misuse
  | _ => .misuse

end Arguments

end VolunteerAccess
