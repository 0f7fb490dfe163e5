import VolunteerAccess.Environment
import VolunteerAccess.Failure

/-!
# The host of a program

What a program can learn from the machine it runs on: the texts of files and the
variables it was started with. Reading is an action of any monad, so that the
same program runs over a real machine and over files held in memory.

- `Host`: what can be asked of the machine.
- `Host.expand`: a path with a leading `~` replaced by the home directory.
- `Path.extension?`: the extension of the last part of a path.
- `Path.standIn?`: the file that is read when a path leads to a directory.
-/

namespace VolunteerAccess

/-- A machine on which files are read by actions of `m`. -/
structure Host (m : Type → Type) where
  /-- The text of the file at a path, or why there is none. -/
  read : String → m (Except FileProblem String)
  /-- Whether a path leads to a regular file, which a device is not although it can be read. -/
  isRegular : String → m Bool
  /-- The variables of the environment. -/
  environment : Environment
  /-- The home directory of the account that runs the program, which counts if no variable
  names one. -/
  accountHome : Option String

namespace FileProblem

/-- Whether something is there, although it is not a file that can be read. -/
def isPresent : FileProblem → Bool
  | .notFound | .notDirectory | .nameTooLong | .nullInName => false
  | .isDirectory | .unreadable _ => true

end FileProblem

namespace Path

/-- The parts of a path between its slashes. -/
def parts (path : String) : List String := (path.splitOn "/")

/-- The extension of a file name. A name that only starts with a point has none. -/
def extension? (path : String) : Option String :=
  let name := (parts path).getLast?.getD ""
  match (name.splitOn ".").reverse with
  | last :: before :: rest => if rest.isEmpty && before.isEmpty then none else some last
  | _ => none

/-- The name that stands in for an empty last part of a path. -/
def placeholder : String := ".placeholder"

/-- The path of the file that stands in for what a path names: the name has an extension added
to it. If the name has an extension already, then it is the last part of the path as written
to which the other one is added, even if that part is empty or a point. A path that ends in
`..` or names nothing has no such file. -/
def standIn? (path extension : String) : Option String :=
  match (parts path).reverse.dropWhile (fun p => p.isEmpty || p == ".") with
  | [] => none
  | ".." :: _ => none
  | name :: above =>
    if (extension? name).isNone then
      some ("/".intercalate (name :: above).reverse ++ "." ++ extension)
    else if path.endsWith "/" then some (path ++ placeholder ++ "." ++ extension)
    else some (path ++ "." ++ extension)

/-- A path without its leading `~`, which must stand alone or before a slash. -/
def afterHome? (path : String) : Option String :=
  match path.toList with
  | ['~'] => some ""
  | '~' :: '/' :: rest => some (String.ofList ('/' :: rest))
  | _ => none

end Path

namespace Host

variable {m : Type → Type}

/-- The home directory. -/
def home? (h : Host m) : Option String :=
  ((h.environment.get? "HOME").filter (!·.isEmpty)).or h.accountHome

/-- A path whose leading `~` is replaced by the home directory, if there is one. -/
def expand (h : Host m) (path : String) : String :=
  match Path.afterHome? path, h.home? with
  | some rest, some home => home ++ rest
  | _, _ => path

/-- Whether a path leads to anything. -/
def holds [Monad m] (h : Host m) (path : String) : m Bool := do
  match ← h.read path with
  | .ok _ => return true
  | .error problem => return problem.isPresent

end Host

end VolunteerAccess
