import VolunteerAccess.CommandLine.Arguments
import VolunteerAccess.EnvFile
import VolunteerAccess.Json.Writer

/-!
# The program

What the program does on a machine, from the words it is started with to the
text it prints and its exit status.

- `Outcome`: how a run ends.
- `Program.answer`: the answer to a command. The settings come first, then the
  question is read, and fixtures are loaded last and only for a question about
  records.
- `Program.run`: a run. A file of variables beside the program counts as part
  of its environment.
-/

namespace VolunteerAccess

/-- How a run of the program ends. -/
inductive Outcome where
  | found (finding : Finding)
  | failed (failure : CommandFailure)
  /-- A text about the program itself was asked for. -/
  | told (text : String)
  /-- The words make no command. -/
  | misused
  /-- The run ended before there was an answer, since the machine could not do what it took. -/
  | stopped
deriving Inhabited

namespace Outcome

/-- What is printed. -/
def output : Outcome → String
  | .found finding => finding.encode.pretty ++ "\n"
  | .told text => text
  | .failed _ | .misused | .stopped => ""

/-- The exit status. An unfavourable answer has that of a failure. -/
def status : Outcome → Nat
  | .found finding => if finding.isFavourable then 0 else 1
  | .told _ => 0
  | .failed _ => 1
  | .misused => 2
  | .stopped => 101

end Outcome

namespace Program

def name : String := "vly-ability"

def version : String := "0.1.0"

def purpose : String :=
  "Attribute-based ability engine for volunteer interests: rule builders, query-filter " ++
    "compilation and status transition guards"

/-! ## Help -/

/-- The name that stands for the value of an option. -/
def valueName (o : Switch) : String :=
  String.ofList (o.long.toList.map (fun c => if c == '-' then '_' else c.toUpper))

/-- An option by its long name, with its value. -/
def longForm (o : Switch) : String := "--" ++ o.long ++ " <" ++ valueName o ++ ">"

/-- An option by its two names, with its value. -/
def bothForms (o : Switch) : String :=
  (match o.short with
    | some c => "-" ++ c.toString ++ ", "
    | none => "    ") ++ longForm o

/-- Two columns, the second one aligned. -/
def columns (rows : List (String × String)) : String :=
  let width := rows.foldl (fun n r => max n r.1.length) 0
  String.join (rows.map fun r =>
    "  " ++ r.1 ++ String.ofList (List.replicate (width + 2 - r.1.length) ' ') ++ r.2 ++ "\n")

def optionRows (switches : List Switch) : List (String × String) :=
  switches.map (fun o =>
    (bothForms o, o.purpose ++ o.default.elim "" (fun v => " [default: " ++ v ++ "]") ++
      o.envName.elim "" (fun v => " [env: " ++ v ++ "]")))

/-- How to use a command. -/
def commandHelp (c : CommandName) : String :=
  let needed := c.switches.filter (!·.isOptional)
  c.purpose ++ "\n\nUsage: " ++ name ++ " " ++ c.name ++ " [OPTIONS]" ++
    String.join (needed.map (fun o => " " ++ longForm o)) ++
    "\n\nOptions:\n" ++
    columns (optionRows (c.switches ++ Switch.common) ++ [("-h, --help", "Print help")])

/-- How to use the program. -/
def help : String :=
  purpose ++ "\n\nUsage: " ++ name ++ " [OPTIONS] <COMMAND>\n\nCommands:\n" ++
    columns (CommandName.all.map (fun c => (c.name, c.purpose)) ++
      [("help", "Print this message or the help of the given subcommand(s)")]) ++
    "\nOptions:\n" ++
    columns (optionRows Switch.common ++
      [("-h, --help", "Print help"), ("-V, --version", "Print version")])

/-! ## Runs -/

section
variable {m : Type → Type} [Monad m]

/-- The fixtures of a run. A path among the arguments counts before one of the settings. -/
def fixtures (h : Host m) (asked configured : Option String) :
    m (Except CommandFailure Fixtures) := do
  match asked.or configured with
  | none => return .error .noFixtures
  | some path => return (← Fixtures.load h (h.expand path)).mapError (.badFixtures path)

/-- The answer to a command. -/
def answer (h : Host m) (arguments : Arguments) : m (Except CommandFailure Finding) := do
  match ← Settings.load h arguments.config with
  | .error cause => return .error (.config cause)
  | .ok settings =>
    match settings.guard, arguments.command.question with
    | .error cause, _ => return .error (.config cause)
    | .ok _, .error failure => return .error failure
    | .ok guard, .ok question =>
      question.answer settings.concurrentBuilders guard
        (fixtures h arguments.fixtures settings.fixtures)

/-- Run the program with some words on a machine whose variables are complete. -/
def runWith (h : Host m) (words : List String) : m Outcome := do
  match Arguments.read h.environment words with
  | .help none => return .told help
  | .help (some c) => return .told (commandHelp c)
  | .version => return .told (name ++ " " ++ version ++ "\n")
  | .misuse => return .misused
  | .run arguments =>
    match ← answer h arguments with
    | .ok finding => return .found finding
    | .error (.config .exhausted) => return .stopped
    | .error failure => return .failed failure

/-- Run the program with some words; `file` is the text of the file of variables beside it. -/
def run (h : Host m) (file : Option String) (words : List String) : m Outcome := do
  match file.elim (some h.environment) (EnvFile.load? · h.environment) with
  | none => return .stopped
  | some environment => runWith { h with environment } words

end

end Program

end VolunteerAccess
