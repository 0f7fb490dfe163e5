import VolunteerAccess.CommandLine.Program

/-!
# The executable

The program of `CommandLine.Program` on the machine it is started on.
-/

namespace VolunteerAccess.Executable

/-- The problem that an error of the file system stands for. -/
def problemOf : IO.Error → FileProblem
  | .noFileOrDirectory .. => .notFound
  | .inappropriateType none _ _ => .isDirectory
  | .inappropriateType (some _) _ _ => .notDirectory
  | .invalidArgument (some _) _ _ => .nameTooLong
  | e => .unreadable e.toString

/-- The text of the file at a path, or why there is none. -/
def readText (path : String) : IO (Except FileProblem String) := do
  if path.contains '\x00' then return .error .nullInName
  else
    try return .ok (← IO.FS.readFile path)
    catch e => return .error (problemOf e)

/-- Whether a path leads to a regular file. -/
def isRegular (path : String) : IO Bool := do
  if path.contains '\x00' then return false
  else
    try return (← (← IO.FS.realPath path).metadata).type == .file
    catch _ => return false

/-- The variables of a list of assignments that end in null characters. -/
def variablesOf (s : String) : Environment :=
  .ofList ((s.splitOn "\x00").filterMap fun assignment =>
    match assignment.splitOn "=" with
    | [] | [_] => none
    | name :: value => some (name, "=".intercalate value))

/-- The variables that this program was started with. -/
def readVariables : IO Environment := do
  match String.fromUTF8? (← IO.FS.readBinFile "/proc/self/environ") with
  | some s => return variablesOf s
  | none => return .empty

/-- The rest of the first line that starts with a text. -/
def afterStart? (start s : String) : Option String :=
  (s.splitOn "\n").findSome? (fun line =>
    match line.splitOn start with
    | "" :: rest => some (start.intercalate rest)
    | _ => none)

/-- The home directory of a user in a list of accounts, each a line of seven parts. -/
def homeOf? (user accounts : String) : Option String :=
  (accounts.splitOn "\n").findSome? (fun line =>
    match line.splitOn ":" with
    | [_, _, number, _, _, home, _] => if number == user then some home else none
    | _ => none)

/-- The home directory of the account that runs this program. -/
def readAccountHome : IO (Option String) := do
  match ← readText "/proc/self/status", ← readText "/etc/passwd" with
  | .ok status, .ok accounts =>
    return do
      let users ← afterStart? "Uid:\t" status
      homeOf? (← (users.splitOn "\t").head?) accounts
  | _, _ => return none

/-- The text of the file of variables in a directory, or else in the nearest one above it,
at most `levels` up. -/
def nearestVariables? (directory : String) : Nat → IO (Option String)
  | 0 => return none
  | levels + 1 => do
    match ← readText (directory ++ ".env") with
    | .ok s => return some s
    | .error .notFound | .error .isDirectory =>
      nearestVariables? (directory ++ "../") levels
    | .error _ => return none

/-- What is said about an outcome beside its output. -/
def complaint : Outcome → String
  | .failed failure => "Error: " ++ failure.message ++ "\n"
  | .misused => Program.help
  | .stopped => "Stopped: a value is too large, or cannot be given to a variable\n"
  | .found _ | .told _ => ""

end VolunteerAccess.Executable

open VolunteerAccess in
def main (words : List String) : IO UInt32 := do
  let host : Host IO := {
    read := Executable.readText
    isRegular := Executable.isRegular
    environment := ← Executable.readVariables
    accountHome := ← Executable.readAccountHome
  }
  let depth := (Path.parts (← IO.currentDir).toString).length
  let file ← Executable.nearestVariables? "" depth
  let outcome ← Program.run host file words
  IO.print outcome.output
  IO.eprint (Executable.complaint outcome)
  return outcome.status.toUInt32
