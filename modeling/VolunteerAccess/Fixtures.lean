import VolunteerAccess.Host
import VolunteerAccess.Interest
import VolunteerAccess.Session
import VolunteerAccess.Toml.Reader

/-!
# Fixtures

Fixtures seed a store with opportunities and interests, live and archived, and
name sessions to try it with.

- `Fixtures.decode?`: fixtures in a document of any format.
- `Fixtures.ofJsonText`, `Fixtures.ofTomlText`: fixtures in a text.
- `Fixtures.load`: fixtures in a file, whose extension tells the format.
- `Fixtures.session?`: a session by name.
-/

namespace VolunteerAccess

/-- What a store starts with, and sessions by name. -/
structure Fixtures where
  opportunities : List Opportunity
  archivedOpportunities : List Opportunity
  interests : List Interest
  archivedInterests : List Interest
  sessions : Dict Session
deriving Inhabited

namespace Fixtures

/-- No records and no named sessions. -/
def empty : Fixtures :=
  { opportunities := [], archivedOpportunities := [], interests := [], archivedInterests := [],
    sessions := .empty }

/-- Fixtures in a document; whatever is left out is empty. -/
def decode? {τ : Type} [Document τ] (v : τ) : Option Fixtures := do
  let field ← Document.fields?
    ["opportunities", "archivedOpportunities", "interests", "archivedInterests", "sessions"] v
  return {
    opportunities := ←
      Document.orDefault [] (Document.list? Opportunity.decode?) (field "opportunities")
    archivedOpportunities := ←
      Document.orDefault [] (Document.list? Opportunity.decode?) (field "archivedOpportunities")
    interests := ←
      Document.orDefault [] (Document.list? Interest.decode?) (field "interests")
    archivedInterests := ←
      Document.orDefault [] (Document.list? Interest.decode?) (field "archivedInterests")
    sessions := ←
      Document.orDefault .empty (Document.dict? Session.decode?) (field "sessions")
  }

/-- Fixtures that were read from a document, or the failure to read it. -/
def orFailure (f : Option Fixtures) : Except ConfigFailure Fixtures :=
  match f with
  | some f => .ok f
  | none => .error (.load "fixtures: malformed document")

/-- Fixtures from a JSON text. -/
def ofJsonText (s : String) : Except ConfigFailure Fixtures :=
  orFailure (do decode? (← Json.Tree.ofText? s))

/-- Fixtures from a TOML text. -/
def ofTomlText (s : String) : Except ConfigFailure Fixtures :=
  orFailure (do decode? (← Toml.parse? .strict s))

/-- Fixtures from a file: TOML if its extension is `toml`, and else JSON. -/
def load {m : Type → Type} [Monad m] (h : Host m) (path : String) :
    m (Except ConfigFailure Fixtures) := do
  match ← h.read path with
  | .error problem => return .error (.file problem)
  | .ok s =>
    return if Path.extension? path == some "toml" then ofTomlText s else ofJsonText s

/-- The session of a name. The anonymous one has a name always, which a fixture may give
to another session. -/
def session? (f : Fixtures) (name : String) : Option Session :=
  match f.sessions.get? name with
  | some s => some s
  | none => if name == "anonymous" then some .anonymous else none

end Fixtures

end VolunteerAccess
