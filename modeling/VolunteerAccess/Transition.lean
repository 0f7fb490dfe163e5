import VolunteerAccess.Failure
import VolunteerAccess.Interest

/-!
# Status transitions

A transition table restricts which changes of status one role may make to
records of one resource. It judges a pair of states, not a record, and roles
that it does not name are not restricted by it.

- `TransitionTable`: the permitted pairs of one resource and role.
- `TransitionConfig`: a table as it is configured; `TransitionTable.ofConfig`
  refuses a field that the resource does not have, and states without a name.
- `Guard`: at most one table for each resource. `Guard.ofConfig` replaces the
  built-in tables by the configured ones.
- `Guard.allows`, `Guard.check`: the judgement on a pair of states.
-/

namespace VolunteerAccess

/-- The changes of state that a role may make. -/
structure TransitionTable where
  subject : Resource
  /-- The role that is restricted. -/
  actor : Role
  /-- The field that holds the state. -/
  field : String
  /-- For each state the set of states that may follow it. -/
  allowed : Dict (Dict Unit)

/-- A table as it is configured. -/
structure TransitionConfig where
  actor : Role
  field : String
  /-- For each state the states that may follow it, in the order of the document. -/
  allowed : List (String × List String)
deriving Inhabited

namespace TransitionConfig

/-- The table of volunteers for the status, with no permitted pair. -/
def default : TransitionConfig := { actor := .volunteer, field := "status", allowed := [] }

/-- A configured table in a document; whatever is left out is as in the default. -/
def decode? {τ : Type} [Document τ] (v : τ) : Option TransitionConfig := do
  let field ← Document.fields? ["actor", "field", "allowed"] v
  return {
    actor := ← Document.orDefault default.actor Role.decode? (field "actor")
    field := ← Document.orDefault default.field Document.text? (field "field")
    allowed := ← Document.orDefault default.allowed
      (fun a => (Document.dict? (Document.list? Document.text?) a).map Dict.entries)
      (field "allowed")
  }

end TransitionConfig

namespace TransitionTable

/-- The table that permits nothing. -/
def empty (subject : Resource) (actor : Role) (field : String) : TransitionTable :=
  { subject, actor, field, allowed := .empty }

/-- The table that permits one more pair. -/
def allow (t : TransitionTable) (source target : String) : TransitionTable :=
  let targets := (t.allowed.get? source).getD .empty
  { t with allowed := t.allowed.insert source (targets.insert target ()) }

/-- Whether a pair is permitted. Staying in a state is a pair like any other. -/
def permits (t : TransitionTable) (source target : String) : Bool :=
  (t.allowed.get? source).any (·.contains target)

/-- The built-in table: a volunteer who is invited may commit, and one who is
committed may go back to being interested. -/
def interest : TransitionTable :=
  ((empty .interest .volunteer "status").allow Status.invited.name Status.committed.name).allow
    Status.committed.name Status.interested.name

/-- Permit all pairs of a state with some targets, none of which may lack a name. -/
def allowAll (source : String) (t : TransitionTable) :
    List String → Except ConfigFailure TransitionTable
  | [] => .ok t
  | target :: targets =>
    if source.isEmpty || target.isEmpty then
      .error (.invalid ("transitions." ++ t.subject.name ++ ": empty state name"))
    else allowAll source (t.allow source target) targets

/-- The table of a configured one. -/
def ofConfig (subject : Resource) (c : TransitionConfig) :
    Except ConfigFailure TransitionTable :=
  if !subject.hasField c.field then
    .error (.invalid ("transitions." ++ subject.name ++ ".field '" ++ c.field ++
      "' is not a field of " ++ subject.name))
  else
    c.allowed.foldlM (fun t entry => allowAll entry.1 t entry.2) (empty subject c.actor c.field)

end TransitionTable

/-! ## Guards -/

/-- At most one transition table for each resource. -/
structure Guard where
  table? : Resource → Option TransitionTable

namespace Guard

/-- The guard without tables. -/
def none : Guard := ⟨fun _ => .none⟩

/-- The guard with a table in place of any other for its resource. -/
def set (g : Guard) (t : TransitionTable) : Guard :=
  ⟨fun r => if r = t.subject then some t else g.table? r⟩

/-- The guard of some tables, the later of two for one resource counting. -/
def ofTables (ts : List TransitionTable) : Guard := ts.foldl set none

/-- The guard with the built-in table. -/
def standard : Guard := ofTables [.interest]

/-- Put a configured table into a guard, under the name of its resource. -/
def configure (g : Guard) (entry : String × TransitionConfig) : Except ConfigFailure Guard :=
  match Resource.ofText? entry.1 with
  | .none => .error (.invalid ("Unknown resource in transitions: " ++ entry.1))
  | some subject => (TransitionTable.ofConfig subject entry.2).map g.set

/-- The built-in tables, replaced by configured ones where there are some. -/
def ofConfig (entries : List (String × TransitionConfig)) : Except ConfigFailure Guard :=
  entries.foldlM configure standard

/-- Whether the guard restricts what a role does to records of a resource. -/
def governs (g : Guard) (subject : Resource) (actor : Role) : Bool :=
  (g.table? subject).any (fun t => t.actor == actor)

/-- Whether a role may move a record from one state to another. -/
def allows (g : Guard) (subject : Resource) (source target : String) (actor : Role) : Bool :=
  match g.table? subject with
  | some t => if t.actor = actor then t.permits source target else true
  | .none => true

/-- The rejection of a move that is not allowed. -/
def check (g : Guard) (subject : Resource) (source target : String) (actor : Role) :
    Except InvalidTransition Unit :=
  if g.allows subject source target actor then .ok ()
  else .error { subject, source, target }

end Guard

end VolunteerAccess
