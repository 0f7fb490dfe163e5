import VolunteerAccess.Filter.Query
import VolunteerAccess.Policy
import VolunteerAccess.Settings
import VolunteerAccess.Store

/-!
# Commands

The program answers three questions about a policy: whether a session may do
something with a stored interest, which interests an action selects for it, and
whether a role may move an interest from one status to another.

- `Command`: a question in the words of the command line.
- `CommandFailure`: why it has no answer.
- `Question`: a question whose resource, action and role are known.
  `Command.question` reads them in the order in which they are reported.
- `Question.answer`: the answer, from fixtures or from a guard alone.
- `Finding`: an answer, with its JSON form and whether it is favourable.
-/

namespace VolunteerAccess

/-- A question in the words of the command line. -/
inductive Command where
  | can (session resource action id : String)
  | filter (session resource action : String)
  | transition (resource source target role : String)
deriving DecidableEq, Repr, Inhabited

/-- Why a command has no answer. -/
inductive CommandFailure where
  | config (cause : ConfigFailure)
  | unknownResource (text : String)
  | unknownAction (text : String)
  | unknownRole (text : String)
  | unknownSession (name : String)
  /-- No file of fixtures is given. -/
  | noFixtures
  | badFixtures (path : String) (cause : ConfigFailure)
  | build (cause : BuildFailure)
  | noRecord (resource : Resource) (id : String)
deriving DecidableEq, Inhabited

namespace CommandFailure

def message : CommandFailure → String
  | .config cause => cause.message
  | .unknownResource text => "unknown resource: " ++ text
  | .unknownAction text => "unknown action: " ++ text
  | .unknownRole text => "unknown role: " ++ text
  | .unknownSession name => "unknown session: " ++ name
  | .noFixtures => "no fixture file given (use --fixtures or store.fixtures)"
  | .badFixtures path _ => "failed to load fixtures from " ++ path
  | .build cause => cause.message
  | .noRecord resource id => "no " ++ resource.name ++ " with id " ++ id

end CommandFailure

/-- A question about a policy. -/
inductive Question where
  /-- May a session do something with the record of an id? -/
  | check (session : String) (resource : Resource) (action : Action) (id : String)
  /-- Which records may a session do something with? -/
  | select (session : String) (resource : Resource) (action : Action)
  /-- May a role move a record from one state to another? -/
  | move (resource : Resource) (source target : String) (role : Role)
deriving DecidableEq, Inhabited

namespace Command

private def resource (s : String) : Except CommandFailure Resource :=
  (Resource.ofText? s).elim (.error (.unknownResource s)) .ok

private def action (s : String) : Except CommandFailure Action :=
  (Action.ofText? s).elim (.error (.unknownAction s)) .ok

private def role (s : String) : Except CommandFailure Role :=
  (Role.ofText? s).elim (.error (.unknownRole s)) .ok

/-- The question that a command asks. -/
def question : Command → Except CommandFailure Question
  | .can who r a id => do return .check who (← resource r) (← action a) id
  | .filter who r a => do return .select who (← resource r) (← action a)
  | .transition r source target actor => do
    return .move (← resource r) source target (← role actor)

end Command

/-- An answer of the program. -/
inductive Finding where
  /-- Whether an action is granted, and whether any record would be. -/
  | verdict (resource : Resource) (action : Action) (id : String) (granted grantable : Bool)
  | selection (filter : Filter)
  /-- Whether a move is allowed, and whether a table restricts the role. -/
  | move (resource : Resource) (source target : String) (role : Role) (governed allowed : Bool)
deriving Inhabited

namespace Finding

/-- Whether the answer is favourable. A selection always is. -/
def isFavourable : Finding → Bool
  | .verdict _ _ _ granted _ => granted
  | .selection _ => true
  | .move _ _ _ _ _ allowed => allowed

def encode : Finding → Json
  | .verdict resource action id granted grantable =>
    .mkObject [("resource", resource.encode), ("action", action.encode), ("id", .text id),
      ("granted", .bool granted), ("categorical", .bool (!grantable))]
  | .selection filter => filter.toQuery
  | .move resource source target role governed allowed =>
    .mkObject [("resource", resource.encode), ("from", .text source), ("to", .text target),
      ("role", role.encode), ("governed", .bool governed), ("allowed", .bool allowed)]

end Finding

namespace Question

/-- The ability of a session that fixtures name, over a store that starts with them. -/
def ability (concurrent : Bool) (f : Fixtures) (who : String) (resource : Resource) :
    Except CommandFailure Ability := do
  let session ← (f.session? who).elim (.error (.unknownSession who)) .ok
  let lookup := (Store.ofFixtures f).ownership .none
  ((Policy.standard concurrent lookup).compile session resource).mapError .build

/-- Whether a session may do something with a record. The record is judged by its JSON form. -/
def checkRecord (concurrent : Bool) (f : Fixtures) (who : String) (resource : Resource)
    (action : Action) (id : String) : Except CommandFailure Finding := do
  let a ← ability concurrent f who resource
  match (Store.ofFixtures f).findById resource id with
  | none => throw (.noRecord resource id)
  | some i =>
    match Record.ofJson? resource i.encode with
    | none => throw (.noRecord resource id)
    | some r => return .verdict resource action id (a.can action r.target) (a.hasGrant action)

/-- The filter of the records that a session may do something with. -/
def selectRecords (concurrent : Bool) (f : Fixtures) (who : String) (resource : Resource)
    (action : Action) : Except CommandFailure Finding := do
  return .selection ((← ability concurrent f who resource).filterFor action)

/-- Whether a guard lets a role make a move. -/
def judgeMove (g : Guard) (resource : Resource) (source target : String) (role : Role) :
    Finding :=
  .move resource source target role (g.governs resource role)
    (g.allows resource source target role)

/-- The answer to a question. The fixtures are loaded by `fixtures` if it is about records. -/
def answer {m : Type → Type} [Monad m] (concurrent : Bool) (g : Guard)
    (fixtures : m (Except CommandFailure Fixtures)) :
    Question → m (Except CommandFailure Finding)
  | .check who resource action id => do
    return (← fixtures) >>= (checkRecord concurrent · who resource action id)
  | .select who resource action => do
    return (← fixtures) >>= (selectRecords concurrent · who resource action)
  | .move resource source target role =>
    return .ok (judgeMove g resource source target role)

end Question

end VolunteerAccess
