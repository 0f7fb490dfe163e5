import VolunteerAccess.Resource

/-!
# What a rule is checked against

- `Target`: a record as conditions see it, a resource and the fields that are
  set. Every kind of record has such a view.
- `Record`: a record given by the members of a JSON object, of which the ones
  that are `null` count as unset.
-/

namespace VolunteerAccess

/-- A record as conditions see it. -/
structure Target where
  resource : Resource
  /-- The value of a field, or `none` where it is unset. -/
  field : String → Option Json

/-- A record given by a JSON object. -/
structure Record where
  subject : Resource
  fields : Dict Json
deriving Inhabited

namespace Record

def empty (subject : Resource) : Record := { subject, fields := .empty }

/-- The record whose fields are the members of an object; other values are no record. -/
def ofJson? (subject : Resource) : Json → Option Record
  | .object ms => some { subject, fields := .ofList ms }
  | _ => none

/-- The record with one field set anew. -/
def set (r : Record) (name : String) (value : Json) : Record :=
  { r with fields := r.fields.insert name value }

/-- The value of a field; one that is `null` counts as unset. -/
def field (r : Record) (name : String) : Option Json :=
  (r.fields.get? name).filter (fun v => !v.isNull)

def target (r : Record) : Target := { resource := r.subject, field := r.field }

/-- A record in a document names its resource beside its fields. -/
def decode? (v : Json) : Option Record := do
  let field ← Document.fields? ["subject", "fields"] v
  let subject ← Document.required Resource.decode? (field "subject")
  let value ← field "fields"
  ofJson? subject value

def encode (r : Record) : Json :=
  .mkObject [("subject", r.subject.encode), ("fields", .ofDict r.fields)]

end Record

end VolunteerAccess
