import VolunteerAccess.Decimal.Layout
import VolunteerAccess.Entries
import VolunteerAccess.Text.Basic
import VolunteerAccess.Toml.Basic

/-!
# Trees of settings

Settings come from several sources, each of which is a tree of values. Unlike a
document of one format, such a tree is read leniently: the sources cannot all
tell a number from its text.

- `Settings.Tree`: the values.
- `Settings.Tree.ofToml?`: the tree of a TOML value.
- `Settings.Tree.merge`: the tree with another one laid over it. Tables are
  merged entry by entry, and any other value takes the place of what was there.
-/

namespace VolunteerAccess.Settings

/-- A value of the settings. -/
inductive Tree where
  /-- The place of an item of a list that was never set. -/
  | absent
  | bool (value : Bool)
  | integer (value : Int)
  | real (value : Binary64)
  | text (value : String)
  | list (items : List Tree)
  | table (entries : List (String × Tree))
deriving Inhabited

namespace Tree

/-! ## What a value may stand for -/

/-- The truth value that a text names, in any case. -/
def flagOfText? (s : String) : Option Bool :=
  let s := Text.lowerAscii s
  if ["1", "true", "on", "yes"].contains s then some true
  else if ["0", "false", "off", "no"].contains s then some false
  else none

/-- A text may be given as a truth value or a number and a truth value as a number or a text;
a case of an enumeration is its name, or a table whose only entry is the name. -/
instance : Document Tree where
  text?
    | .text s => some s
    | .bool b => some (if b then "true" else "false")
    | .integer n => some (toString n)
    | .real x => some x.display
    | _ => none
  flag?
    | .bool b => some b
    | .integer n => some (n != 0)
    | .real x => some (!x.isZero)
    | .text s => flagOfText? s
    | _ => none
  count?
    | .integer n => Decimal.natural64? n
    | _ => none
  items?
    | .list xs => some xs
    | _ => none
  members?
    | .table es => some es
    | _ => none
  isNull
    | .absent => true
    | _ => false
  case?
    | .text s => some s
    | .table [(name, _)] => some name
    | _ => none
  allowsSurplus := true

/-! ## Trees of TOML values -/

mutual

/-- The tree of a TOML value. A moment becomes its text; a whole number must fit 64 bits
with a sign. -/
def ofToml? : Toml.Value → Option Tree
  | .text s => some (.text s)
  | .integer n => if Decimal.isSigned64 n then some (.integer n) else none
  | .real x => some (.real x)
  | .bool b => some (.bool b)
  | .moment m => some (.text m.display)
  | .array xs => (itemsOfToml? xs).map .list
  | .table ms => (entriesOfToml? ms).map .table

def itemsOfToml? : List Toml.Value → Option (List Tree)
  | [] => some []
  | v :: vs => do return (← ofToml? v) :: (← itemsOfToml? vs)

def entriesOfToml? : List (String × Toml.Value) → Option (List (String × Tree))
  | [] => some []
  | (k, v) :: ms => do return (k, ← ofToml? v) :: (← entriesOfToml? ms)

end

/-! ## Laying one tree over another -/

/-- The entries of a table; any other value has none. -/
def entries : Tree → List (String × Tree)
  | .table es => es
  | _ => []

/-- The items of a list; any other value has none. -/
def items : Tree → List Tree
  | .list xs => xs
  | _ => []

mutual

/-- The second tree with the first one laid over it. -/
def merge : Tree → Tree → Tree
  | .table es, t => .table (mergeEntries es t.entries)
  | v, _ => v

/-- A table with some entries laid over its own. -/
def mergeEntries : List (String × Tree) → List (String × Tree) → List (String × Tree)
  | [], own => own
  | (k, v) :: es, own =>
    mergeEntries es (Entries.put k (merge v ((own.lookup k).getD .absent)) own)

end

end Tree

end VolunteerAccess.Settings
