import VolunteerAccess.Decimal.Reader
import VolunteerAccess.Json.Reader

/-!
# Reading typed values from documents

Records, rules and settings are read from trees of several formats: JSON values,
JSON texts whose unknown members are skipped, TOML documents, and settings put
together from several sources. The formats differ in what they let stand for a
text, a number or a case of an enumeration; the reading of a structure is the
same for all of them and is written once against this interface.

- `Document τ`: how a tree of type `τ` is looked at.
- `Document.fields?`: the fields of a structure, given by name in a table or by
  position in an array. An unknown name is skipped; a known one that occurs
  twice, or an array longer than the structure, is refused.
- `Document.required`, `Document.orDefault`, `Document.optional`: the ways a
  field may be read.
-/

namespace VolunteerAccess

/-- How a tree of some format is looked at when a typed value is read from it. -/
class Document (τ : Type) where
  /-- The text a tree stands for. -/
  text? : τ → Option String
  /-- The truth value a tree stands for. -/
  flag? : τ → Option Bool
  /-- The 64-bit natural number a tree stands for. -/
  count? : τ → Option UInt64
  /-- The items of an array. -/
  items? : τ → Option (List τ)
  /-- The members of a table in the order of the document; a name may occur twice. -/
  members? : τ → Option (List (String × τ))
  /-- Whether the tree stands for an absent value. -/
  isNull : τ → Bool
  /-- The name of the enumeration case a tree stands for. -/
  case? : τ → Option String
  /-- Whether an array that stands for a structure may have items beyond its fields. -/
  allowsSurplus : Bool

namespace Document

variable {τ : Type} [Document τ] {α : Type}

/-- Whether one of the names occurs twice among the members. -/
def repeats (names : List String) (members : List (String × τ)) : Bool :=
  names.any (fun n => 1 < members.countP (fun m => m.1 == n))

/-- The fields of a structure with the given names, as a look-up by name. -/
def fields? (names : List String) (v : τ) : Option (String → Option τ) :=
  match members? v with
  | some ms => if repeats names ms then none else some (fun n => ms.lookup n)
  | none =>
    match items? v with
    | some xs =>
      if allowsSurplus τ || xs.length ≤ names.length then
        some (fun n => (names.zip xs).lookup n)
      else none
    | none => none

/-- A field that must be there. -/
def required (read : τ → Option α) (v : Option τ) : Option α := v.bind read

/-- A field that may be left out and then has a default. -/
def orDefault (default : α) (read : τ → Option α) : Option τ → Option α
  | none => some default
  | some v => read v

/-- A field that may be left out, or be present as an absent value. -/
def optional (read : τ → Option α) : Option τ → Option (Option α)
  | none => some none
  | some v => if isNull v then some none else (read v).map some

/-- An array of values. -/
def list? (read : τ → Option α) (v : τ) : Option (List α) := do
  (← items? v).mapM read

/-- A table of values; of two members of one name the later counts. -/
def dict? (read : τ → Option α) (v : τ) : Option (Dict α) := do
  let entries ← (← members? v).mapM (fun m => (read m.2).map (fun x => (m.1, x)))
  return Dict.ofList entries

/-- A case of an enumeration, found by its exact name. -/
def enum? (cases : List α) (name : α → String) (v : τ) : Option α := do
  let n ← case? v
  cases.find? (fun c => name c == n)

end Document

namespace Json

/-! ## JSON values and JSON texts as documents -/

/-- A whole number in the range of 64-bit naturals. -/
def Number.count? : Number → Option UInt64
  | .integer n => Decimal.natural64? n
  | .real _ => none

/-- In a JSON value a case of an enumeration is its name, or an object whose only
member is the name with the value `null`. -/
instance : Document Json where
  text?
    | .text s => some s
    | _ => none
  flag?
    | .bool b => some b
    | _ => none
  count?
    | .number n => n.count?
    | _ => none
  items?
    | .array xs => some xs
    | _ => none
  members?
    | .object ms => some ms
    | _ => none
  isNull := isNull
  case?
    | .text s => some s
    | .object [(name, .null)] => some name
    | _ => none
  allowsSurplus := false

/-- A JSON text is looked at as its value would be, except that members with equal
names are all seen and that what no reader asks for is never evaluated. -/
instance : Document Tree where
  text?
    | .text s => s
    | _ => none
  flag?
    | .bool b => some b
    | _ => none
  count?
    | .number l => l.value?.bind Number.count?
    | _ => none
  items?
    | .array xs => some xs
    | _ => none
  members?
    | .object ms => ms.mapM (fun m => m.1.map (fun k => (k, m.2)))
    | _ => none
  isNull
    | .null => true
    | _ => false
  case?
    | .text s => s
    | .object [(name, .null)] => name
    | _ => none
  allowsSurplus := false

end Json

end VolunteerAccess
