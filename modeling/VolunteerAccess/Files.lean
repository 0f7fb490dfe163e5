import VolunteerAccess.Host

/-!
# Files held in memory

A tree of files below a working directory. Paths are relative to that directory,
or else start at the root of the machine, of which no more is known than what
every machine has.

- `Files`: texts by path, and directories that exist without a file.
- `Files.read`: follows a path part by part, as a file system does: `.` and an
  empty part stay, `..` goes up, and any part needs a directory to start from.
-/

namespace VolunteerAccess

/-- A tree of files. The parts of a path that starts at the root of the machine are those
after a part that is a slash, which no other path has. -/
structure Files where
  /-- The text of each file under the parts of its path. -/
  texts : List (List String × String)
  /-- Directories that exist although they may hold no file. -/
  directories : List (List String)

namespace Files

/-- Whether a part of a path leads to where it started from. -/
def isStay (part : String) : Bool := part.isEmpty || part == "."

/-- The part that stands for the root of the machine. -/
def root : String := "/"

/-- Where a path starts. -/
def start (path : String) : List String := if path.startsWith root then [root] else []

/-- The parts of a path that lead somewhere. -/
def partsOf (path : String) : List String :=
  start path ++ (Path.parts path).filter (!isStay ·)

/-- Directories of every machine. -/
def systemDirectories : List (List String) :=
  ["/", "/bin", "/dev", "/etc", "/home", "/lib", "/proc", "/root", "/sys", "/tmp", "/usr", "/var"]
    |>.map partsOf

/-- The device that has no text, on every machine. -/
def nullDevice : List String := partsOf "/dev/null"

/-- The tree of files at the given paths, with some directories that always exist. -/
def ofTexts (texts : List (String × String)) (directories : List String) : Files :=
  { texts := texts.map (fun t => (partsOf t.1, t.2)), directories := directories.map partsOf }

/-- Where a walk along a path has come to. -/
inductive Place where
  /-- Above the working directory, about which nothing is known. -/
  | outside
  /-- The directory of some parts, the deepest first. -/
  | directory (parts : List String)
  | file (text : String)
  | device

/-- What is at the given parts, the deepest first. -/
def place? (fs : Files) (parts : List String) : Option Place :=
  let path := parts.reverse
  match fs.texts.lookup path with
  | some s => some (.file s)
  | none =>
    if path == nullDevice then some .device
    else if path.isEmpty || systemDirectories.contains path ||
        fs.texts.any (fun t => path.isPrefixOf t.1) ||
        fs.directories.any (path.isPrefixOf ·) then some (.directory parts)
    else none

/-- How many bytes a part of a path may take. -/
def maxPart : Nat := 255

/-- How many bytes a path may take. -/
def maxPath : Nat := 4095

/-- Why there is nothing of some name in a directory. -/
def missing (part : String) : FileProblem :=
  if maxPart < part.utf8ByteSize then .nameTooLong else .notFound

/-- One part of a path. -/
def step (fs : Files) (part : String) : Place → Except FileProblem Place
  | .file _ | .device => .error .notDirectory
  | .outside => if isStay part || part == ".." then .ok .outside else .error (missing part)
  | .directory parts =>
    if isStay part then .ok (.directory parts)
    else if part == ".." then
      match parts with
      | [] => .ok .outside
      | [part] => .ok (.directory (start part))
      | _ :: above => .ok (.directory above)
    else
      match fs.place? (part :: parts) with
      | some p => .ok p
      | none => .error (missing part)

/-- Follow a path. An empty path leads nowhere. -/
def follow (fs : Files) (path : String) : Except FileProblem Place :=
  if path.isEmpty then .error .notFound
  else if path.contains '\x00' then .error .nullInName
  else if maxPath < path.utf8ByteSize then .error .nameTooLong
  else (Path.parts path).foldlM (fun p part => fs.step part p) (.directory (start path))

/-- The text of the file at a path. -/
def read (fs : Files) (path : String) : Except FileProblem String :=
  match fs.follow path with
  | .ok (.file s) => .ok s
  | .ok .device => .ok ""
  | .ok (.directory _) | .ok .outside => .error .isDirectory
  | .error problem => .error problem

/-- Whether a path leads to a file of the tree. -/
def isRegular (fs : Files) (path : String) : Bool :=
  match fs.follow path with
  | .ok (.file _) => true
  | _ => false

/-- A machine that has these files and variables. Its accounts are at home outside the
working directory. -/
def host (fs : Files) (environment : Environment) : Host Id :=
  { read := fs.read, isRegular := fs.isRegular, environment, accountHome := some root }

end Files

end VolunteerAccess
