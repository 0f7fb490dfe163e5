import VolunteerAccess.Settings.Tree
import VolunteerAccess.Text.Basic

/-!
# Keys of settings

A setting is named by a key such as `logging.level` or `list[0].name`, which
leads from the outermost table through tables and lists.

- `Settings.Key`: a name and the steps from there.
- `Settings.Key.read?`: the key of a text.
- `Settings.Key.fits`: whether the lists that a key leads through can be held.
- `Settings.Key.update`: changes the value that a key leads to. What is missing
  on the way is made, and a value that cannot be entered gives way.
- `Settings.assign`: lays a value over what a text names. A text that is no key
  is the name of an outermost entry as it stands.
-/

namespace VolunteerAccess.Settings

/-- A step into a value. -/
inductive Step where
  /-- Into a table. -/
  | entry (name : String)
  /-- Into a list; a negative index counts from its end. -/
  | item (index : Int)
deriving DecidableEq, Repr, Inhabited

/-- The way to a setting. -/
structure Key where
  root : String
  steps : List Step
deriving DecidableEq, Repr, Inhabited

namespace Key

/-! ## Reading -/

def isNameChar (c : Char) : Bool := c.isAlphanum || c == '_' || c == '-'

def isBlank (c : Char) : Bool := c == ' ' || c == '\t'

/-- The index in brackets, after the opening one: digits, perhaps with a minus in front and
blanks around, in the range of 64 bits. -/
def readIndex? (cs : List Char) : Option (Int × List Char) :=
  let cs := cs.dropWhile isBlank
  let (negative, cs) : Bool × List Char := match cs with
    | '-' :: cs => (true, cs)
    | cs => (false, cs)
  match Text.digits cs with
  | ([], _) => none
  | (ds, cs) =>
    match cs.dropWhile isBlank with
    | ']' :: cs =>
      let n : Int := Text.digitsValue ds
      let n := if negative then -n else n
      if Decimal.isSigned64 n then some (n, cs) else none
    | _ => none

/-- A name of one character or more, and the rest. -/
def readName? (cs : List Char) : Option (String × List Char) :=
  let name := cs.takeWhile isNameChar
  if name.isEmpty then none else some (String.ofList name, cs.dropWhile isNameChar)

/-- Steps up to the end of the text; each takes a character, so that its length is enough
`fuel`. -/
def readSteps? : Nat → List Char → Option (List Step)
  | _, [] => some []
  | fuel + 1, '.' :: cs => do
    let (name, cs) ← readName? cs
    return .entry name :: (← readSteps? fuel cs)
  | fuel + 1, '[' :: cs => do
    let (index, cs) ← readIndex? cs
    return .item index :: (← readSteps? fuel cs)
  | _, _ => none

/-- The key of a text: names joined by points, with indices in brackets after any of them. -/
def read? (s : String) : Option Key := do
  let (root, cs) ← readName? s.toList
  return { root, steps := ← readSteps? cs.length cs }

/-! ## Size -/

/-- How many items a list may be filled up to. -/
def maxItems : Nat := Nat.pow 2 25

/-- Whether memory can hold the lists that a key leads through. -/
def fits (key : Key) : Bool :=
  key.steps.all fun
    | .entry _ => true
    | .item index => index.natAbs < maxItems

/-! ## Following -/

/-- The list with the item at an index changed. A list that is too short is filled up, at
its end for an index from the start and at its start for an index from the end. -/
def updateItem (index : Int) (f : Tree → Tree) (xs : List Tree) : List Tree :=
  let n := index.natAbs
  if 0 ≤ index then
    (xs ++ List.replicate (n + 1 - xs.length) Tree.absent).modify n f
  else
    (List.replicate (n - xs.length) Tree.absent ++ xs).modify (xs.length - n) f

/-- The value with what lies at the end of some steps changed. -/
def updateSteps : List Step → (Tree → Tree) → Tree → Tree
  | [], f, t => f t
  | .entry name :: steps, f, t =>
    let own := t.entries
    .table (Entries.put name (updateSteps steps f ((own.lookup name).getD .absent)) own)
  | .item index :: steps, f, t => .list (updateItem index (updateSteps steps f) t.items)

/-- The outermost table with what a key leads to changed. -/
def update (key : Key) (f : Tree → Tree) (root : List (String × Tree)) :
    List (String × Tree) :=
  Entries.put key.root (updateSteps key.steps f ((root.lookup key.root).getD .absent)) root

end Key

/-- The key of a text, which stands for itself if it is none. -/
def Key.ofText (s : String) : Key := (Key.read? s).getD { root := s, steps := [] }

/-- The outermost table with a value laid over what a text names. -/
def assign (name : String) (value : Tree) (root : List (String × Tree)) :
    List (String × Tree) :=
  (Key.ofText name).update value.merge root

/-- The outermost table with named values laid over it, one after another. -/
def assignAll (values : List (String × Tree)) (root : List (String × Tree)) :
    List (String × Tree) :=
  values.foldl (fun root v => assign v.1 v.2 root) root

end VolunteerAccess.Settings
