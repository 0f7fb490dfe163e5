import VolunteerAccess.Role

/-!
# Sessions

A session is what the rest of the library knows of whoever makes a request: an
identity, roles, and the organisations that a session with the role of an
organisation administrator answers for.
-/

namespace VolunteerAccess

/-- Who makes a request. -/
structure Session where
  /-- The person, unless the request is anonymous. -/
  identity : Option String
  roles : RoleSet
  /-- The organisations that the person administers. -/
  orgAdminFor : List String
deriving Inhabited

namespace Session

/-- The session of a request without a person. -/
def anonymous : Session :=
  { identity := none, roles := .ofList [.anonymous], orgAdminFor := [] }

/-- The session of a person. -/
def ofPerson (identity : String) (roles : List Role) (orgs : List String) : Session :=
  { identity := some identity, roles := .ofList roles, orgAdminFor := orgs }

def holds (s : Session) (r : Role) : Bool := s.roles.contains r

/-- A session in a document; whatever is left out is empty. -/
def decode? {τ : Type} [Document τ] (v : τ) : Option Session := do
  let field ← Document.fields? ["identity", "roles", "orgAdminFor"] v
  return {
    identity := ← Document.optional Document.text? (field "identity")
    roles := ← Document.orDefault .empty RoleSet.decode? (field "roles")
    orgAdminFor := ← Document.orDefault [] (Document.list? Document.text?) (field "orgAdminFor")
  }

def encode (s : Session) : Json :=
  .mkObject [
    ("identity", .ofText? s.identity),
    ("roles", s.roles.encode),
    ("orgAdminFor", .array (s.orgAdminFor.map .text))]

end Session

end VolunteerAccess
