import VolunteerAccess.Entries
import VolunteerAccess.Text.Basic
import VolunteerAccess.Toml.Lexeme

/-!
# Reading TOML

A document is a sequence of lines that fill one table. What a line may add
depends on how the tables on its way came to be.

- `Toml.Node`: a table under construction.
- `Toml.Dialect`: what dotted keys may do to a table on the way to a header, on
  which readers of the format differ.
- `Toml.openTable?`, `Toml.openElement?`, `Toml.assign?`: what a header, a
  header of an array and a key with a value do to it. A table is opened by a
  header once, and a table made by dotted keys by none.
- `Toml.parse?`: the table of a text.
-/

namespace VolunteerAccess.Toml

open Entries (put)

/-! ## Tables under construction -/

/-- How a table came to be. -/
inductive Origin where
  /-- By a header of its own. -/
  | header
  /-- On the way to a table with a header. -/
  | passage
  /-- By a dotted key. -/
  | dotted
deriving DecidableEq, Repr, Inhabited

/-- What a name stands for in a table under construction. -/
inductive Node where
  /-- A value that nothing can be added to. -/
  | closed (value : Value)
  | table (origin : Origin) (members : List (String × Node))
  /-- An array of tables, each with a header of its own. -/
  | elements (tables : List (List (String × Node)))
deriving Inhabited

/-- The members of a table under construction. -/
abbrev Members := List (String × Node)

/-- What dotted keys may do to a table on the way to a header. -/
inductive Dialect where
  /-- They pass through it. -/
  | strict
  /-- They pass through it and add to it, as if they had made it. -/
  | lenient
deriving DecidableEq, Repr, Inhabited

/-- What leads through tables. -/
inductive Way where
  /-- The parts of a header. -/
  | header
  /-- The parts of a dotted key. -/
  | dotted (dialect : Dialect)
deriving DecidableEq, Repr, Inhabited

namespace Way

/-- How a table comes to be that is missing on the way. -/
def made : Way → Origin
  | .header => .passage
  | .dotted _ => .dotted

/-- What a table of some origin becomes by being entered. A table that has a header of its
own is closed to dotted keys. -/
def enter? : Way → Origin → Option Origin
  | .header, origin => some origin
  | .dotted _, .header => none
  | .dotted .strict, origin => some origin
  | .dotted .lenient, _ => some .dotted

end Way

/-- Change the table at the end of a path. Tables that are missing on the way are made;
of an array of tables the last one is taken. -/
def change? (way : Way) : List String → (Origin → Members → Option Members) →
    Origin → Members → Option Members
  | [], f, origin, ms => f origin ms
  | k :: ks, f, _, ms =>
    match ms.lookup k with
    | none => do
      let sub ← change? way ks f way.made []
      return put k (.table way.made sub) ms
    | some (.table origin sub) => do
      let origin ← way.enter? origin
      let sub ← change? way ks f origin sub
      return put k (.table origin sub) ms
    | some (.elements tables) =>
      match tables.getLast? with
      | none => none
      | some last => do
        let last ← change? way ks f .header last
        return put k (.elements (tables.dropLast ++ [last])) ms
    | some (.closed _) => none

/-- Open the table of a header. It must not have been made before, except on the way to
another one. -/
def openTable? (path : List String) (root : Members) : Option Members :=
  match path.getLast? with
  | none => none
  | some k =>
    change? .header path.dropLast (fun _ ms =>
      match ms.lookup k with
      | none => some (put k (.table .header []) ms)
      | some (.table .passage sub) => some (put k (.table .header sub) ms)
      | some _ => none) .header root

/-- Open a further element of an array of tables. -/
def openElement? (path : List String) (root : Members) : Option Members :=
  match path.getLast? with
  | none => none
  | some k =>
    change? .header path.dropLast (fun _ ms =>
      match ms.lookup k with
      | none => some (put k (.elements [[]]) ms)
      | some (.elements tables) => some (put k (.elements (tables ++ [[]])) ms)
      | some _ => none) .header root

/-- Give a key of a table its value. The key must be new, and dotted keys and plain ones do
not share a table. -/
def assign? (d : Dialect) (path : List String) (v : Value) (origin : Origin) (ms : Members) :
    Option Members :=
  match path.getLast? with
  | none => none
  | some k =>
    let dotted := !path.dropLast.isEmpty
    change? (.dotted d) path.dropLast (fun origin ms =>
      if (origin == .dotted) != dotted then none
      else if (ms.lookup k).isSome then none
      else some (put k (.closed v) ms)) origin ms

mutual

/-- The value of what a name stands for. -/
def Node.toValue : Node → Value
  | .closed v => v
  | .table _ ms => .table (membersOf ms)
  | .elements ts => .array (tablesOf ts)

def membersOf : List (String × Node) → List (String × Value)
  | [] => []
  | (k, n) :: ms => (k, n.toValue) :: membersOf ms

def tablesOf : List (List (String × Node)) → List Value
  | [] => []
  | ms :: ts => .table (membersOf ms) :: tablesOf ts

end

/-! ## Values -/

/-- How deep arrays and inline tables may nest, and how many parts a key may have. -/
def maxDepth : Nat := 80

mutual

/-- A value, and the rest. Arrays and inline tables may nest `depth` deep. -/
def readValue? : Nat → Nat → List Char → Option (Value × List Char)
  | 0, _, _ => none
  | fuel + 1, depth, cs =>
    match cs with
    | '"' :: rest => (readQuoted? '"' rest).map (fun r => (.text r.1, r.2))
    | '\'' :: rest => (readQuoted? '\'' rest).map (fun r => (.text r.1, r.2))
    | '[' :: rest =>
      match depth with
      | 0 => none
      | depth + 1 => (readItems? fuel depth rest).map (fun r => (.array r.1, r.2))
    | '\x7b' :: rest =>
      match depth with
      | 0 => none
      | depth + 1 => do
        let (ms, rest) ← readInline? fuel depth [] rest
        return (.table (membersOf ms), rest)
    | cs => do
      let (front, rest) := scalarChars cs
      return (← scalar? front, rest)

/-- The items of an array up to its closing bracket; a comma may follow the last one. -/
def readItems? : Nat → Nat → List Char → Option (List Value × List Char)
  | 0, _, _ => none
  | fuel + 1, depth, cs => do
    match ← skipTrivia? false cs with
    | ']' :: rest => return ([], rest)
    | cs =>
      let (v, rest) ← readValue? fuel depth cs
      match ← skipTrivia? false rest with
      | ',' :: rest =>
        let (vs, rest) ← readItems? fuel depth rest
        return (v :: vs, rest)
      | ']' :: rest => return ([v], rest)
      | _ => none

/-- The members of an inline table up to its closing brace. No header leads into it, so that
it is the same in all dialects. -/
def readInline? : Nat → Nat → Members → List Char → Option (Members × List Char)
  | 0, _, _, _ => none
  | fuel + 1, depth, ms, cs => do
    match ← skipTrivia? false cs with
    | '\x7d' :: rest => return (ms, rest)
    | cs =>
      let (path, rest) ← readPath? maxDepth cs
      let rest ← mark? '=' (← skipTrivia? false rest)
      let (v, rest) ← readValue? fuel depth (← skipTrivia? false rest)
      let ms ← assign? .strict path v .header ms
      match ← skipTrivia? false rest with
      | ',' :: rest => readInline? fuel depth ms rest
      | '\x7d' :: rest => return (ms, rest)
      | _ => none

end

/-! ## Documents -/

/-- A header after its opening brackets, with its closing ones. -/
def readHeader? (closing : List Char) (cs : List Char) : Option (List String × List Char) := do
  let (path, rest) ← readPath? maxDepth cs
  if closing.isPrefixOf rest then return (path, ← endOfLine? false (rest.drop closing.length))
  else none

/-- A key with its value, put into the table whose header is `current`. -/
def readEntry? (d : Dialect) (current : List String) (root : Members) (cs : List Char) :
    Option (Members × List Char) := do
  let (path, rest) ← readPath? maxDepth cs
  let rest := skipBlank (← mark? '=' rest)
  let (v, rest) ← readValue? (2 * rest.length + 2) maxDepth rest
  let rest ← endOfLine? false rest
  let root ← change? .header current (assign? d path v) .header root
  return (root, rest)

/-- The lines of a document, each of which takes at least one character. -/
def readLines? (d : Dialect) : Nat → List String → Members → List Char → Option Members
  | 0, _, _, _ => none
  | fuel + 1, current, root, cs => do
    match ← skipTrivia? false cs with
    | [] => return root
    | '[' :: '[' :: rest =>
      let (path, rest) ← readHeader? [']', ']'] rest
      readLines? d fuel path (← openElement? path root) rest
    | '[' :: rest =>
      let (path, rest) ← readHeader? [']'] rest
      readLines? d fuel path (← openTable? path root) rest
    | cs =>
      let (root, rest) ← readEntry? d current root cs
      readLines? d fuel current root rest

/-- The table of a TOML text. A mark of the byte order at its start does not count. -/
def parse? (d : Dialect) (s : String) : Option Value := do
  let cs := (Text.dropByteOrderMark s).toList
  return .table (membersOf (← readLines? d (cs.length + 1) [] [] cs))

end VolunteerAccess.Toml
