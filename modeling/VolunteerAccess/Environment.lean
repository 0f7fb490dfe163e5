import VolunteerAccess.Entries

/-!
# The environment of a program

A program starts with variables and may set further ones. The order in which
they were set is kept, because two of them may give the same setting under
different names, and then the one that was set last counts.

- `Environment`: the variables.
- `Environment.set`: a variable that is set already keeps its place.
- `Environment.isStorable`: whether a machine can give a variable some value.
- `Environment.get?`: the value of a variable.
-/

namespace VolunteerAccess

/-- The variables that a program sees. -/
structure Environment where
  /-- Names with their values, the variable that was set first in front. -/
  entries : List (String × String)
deriving DecidableEq, Repr, Inhabited

namespace Environment

/-- No variables. -/
def empty : Environment := ⟨[]⟩

/-- The environment with one variable set. -/
def set (e : Environment) (name value : String) : Environment := ⟨Entries.put name value e.entries⟩

/-- The environment in which some variables have been set one after another. -/
def ofList (es : List (String × String)) : Environment :=
  es.foldl (fun e v => e.set v.1 v.2) empty

/-- Whether a variable can have a value. On a machine a null character ends it. -/
def isStorable (value : String) : Bool := !value.contains '\x00'

/-- The value of a variable. -/
def get? (e : Environment) (name : String) : Option String := e.entries.lookup name

/-- Whether a variable is set. -/
def contains (e : Environment) (name : String) : Bool := (e.get? name).isSome

end Environment

end VolunteerAccess
