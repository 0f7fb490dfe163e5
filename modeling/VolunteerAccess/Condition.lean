import VolunteerAccess.Target

/-!
# Conditions

A condition restricts a rule to some of the records of a resource.

- `Matcher`: a test of one field, equality with a value or membership in a list.
- `Condition`: tests of several fields, all of which must hold. A field that is
  unset passes no test.
- `Condition.isUnsatisfiable`: whether some test asks for membership in the
  empty list, which nothing passes.
-/

namespace VolunteerAccess

/-- A test of one field. -/
inductive Matcher where
  /-- The field equals the value. -/
  | eq (value : Json)
  /-- The field is one of the values. -/
  | isIn (values : List Json)
deriving Inhabited

namespace Matcher

/-- Whether a value passes the test. -/
def holds : Matcher → Json → Bool
  | .eq expected, actual => expected.same actual
  | .isIn values, actual => values.any (fun v => v.same actual)

/-- Whether the list to choose from is empty. -/
def isUnsatisfiable : Matcher → Bool
  | .eq _ => false
  | .isIn values => values.isEmpty

/-- An object with an array under `$in` is a list to choose from; anything else is a
value to equal. -/
def ofJson (v : Json) : Matcher :=
  match v.get? "$in" with
  | some (.array values) => .isIn values
  | _ => .eq v

def encode : Matcher → Json
  | .eq value => value
  | .isIn values => .object [("$in", .array values)]

end Matcher

/-- Tests of fields by name, all of which must hold. -/
structure Condition where
  tests : Dict Matcher
deriving Inhabited

namespace Condition

/-- The condition without tests, which every record meets. -/
def empty : Condition := ⟨.empty⟩

/-- The condition with the further test that a field equals a value. A test that it
had for the field is replaced. -/
def eq (c : Condition) (field : String) (value : Json) : Condition :=
  ⟨c.tests.insert field (.eq value)⟩

/-- The condition with the further test that a field is one of some values. -/
def isIn (c : Condition) (field : String) (values : List Json) : Condition :=
  ⟨c.tests.insert field (.isIn values)⟩

/-- The names of the tested fields, in order. -/
def fields (c : Condition) : List String := c.tests.keys

def isEmpty (c : Condition) : Bool := c.tests.isEmpty

def isUnsatisfiable (c : Condition) : Bool := c.tests.values.any Matcher.isUnsatisfiable

/-- Whether a field is set and passes its test. -/
def passes (t : Target) (test : String × Matcher) : Bool :=
  (t.field test.1).any test.2.holds

/-- Whether every test holds. -/
def holds (c : Condition) (t : Target) : Bool := c.tests.entries.all (passes t)

/-- A condition in a document is an object of tests. -/
def decode? : Json → Option Condition
  | .object ms => some ⟨.ofList (ms.map (fun m => (m.1, Matcher.ofJson m.2)))⟩
  | _ => none

def encode (c : Condition) : Json := .ofDict (c.tests.map Matcher.encode)

end Condition

end VolunteerAccess
