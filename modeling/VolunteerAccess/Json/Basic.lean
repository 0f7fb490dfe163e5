import VolunteerAccess.Decimal.Binary64
import VolunteerAccess.Dict

/-!
# JSON values

Rule conditions compare fields of a record with arbitrary JSON values, so the
library holds them as values of one type.

- `Json`: the value type. The members of an object come in key order when they
  are built through `Json.ofDict`, as the reader and all encoders do.
- `Json.Number`: whole numbers are kept apart from numbers that were written
  with a fraction or an exponent; the two kinds are never equal.
- `Json.same`: the equality that conditions use. It is equality of values but
  for the two floating-point zeros, which it takes for one.
-/

namespace VolunteerAccess

namespace Json

/-- A number of a JSON document. -/
inductive Number where
  /-- Written as a whole number, within 64 bits. -/
  | integer (value : Int)
  /-- Written with a fraction or an exponent, or too large to be whole. -/
  | real (value : Binary64)
deriving DecidableEq, Inhabited

/-- Equality of values within one kind of number. -/
def Number.same : Number → Number → Bool
  | .integer a, .integer b => a == b
  | .real a, .real b => a.same b
  | _, _ => false

end Json

/-- A JSON value. -/
inductive Json where
  | null
  | bool (value : Bool)
  | number (value : Json.Number)
  | text (value : String)
  | array (items : List Json)
  | object (members : List (String × Json))
deriving Inhabited

namespace Json

/-! ## Construction -/

/-- The object with the members of a map. -/
def ofDict (d : Dict Json) : Json := .object d.entries

/-- The object with the given members, the later of two with one name counting. -/
def mkObject (members : List (String × Json)) : Json := ofDict (Dict.ofList members)

def ofInt (n : Int) : Json := .number (.integer n)

def ofNat (n : Nat) : Json := ofInt n

/-- An optional text, absence being `null`. -/
def ofText? (s : Option String) : Json := s.elim .null .text

/-! ## Access -/

/-- The member of an object with the given name. -/
def get? (name : String) : Json → Option Json
  | .object members => (members.find? (fun m => m.1 == name)).map Prod.snd
  | _ => none

def isNull : Json → Bool
  | .null => true
  | _ => false

/-- The first of the members of an object with the given name, `null` counting as absent. -/
def field? (name : String) (j : Json) : Option Json :=
  (j.get? name).filter (fun v => !v.isNull)

/-! ## Equality of values -/

mutual

/-- Equality of values, arrays and objects member by member. -/
def same : Json → Json → Bool
  | .null, .null => true
  | .bool a, .bool b => a == b
  | .number a, .number b => a.same b
  | .text a, .text b => a == b
  | .array as, .array bs => sameItems as bs
  | .object as, .object bs => sameMembers as bs
  | _, _ => false

def sameItems : List Json → List Json → Bool
  | [], [] => true
  | a :: as, b :: bs => same a b && sameItems as bs
  | _, _ => false

def sameMembers : List (String × Json) → List (String × Json) → Bool
  | [], [] => true
  | (k, a) :: as, (l, b) :: bs => k == l && same a b && sameMembers as bs
  | _, _ => false

end

@[simp] theorem same_text (a b : String) : same (.text a) (.text b) = (a == b) := by
  simp [same]

end Json

end VolunteerAccess
