import VolunteerAccess.Events
import VolunteerAccess.Store
import VolunteerAccess.Text.Basic
import VolunteerAccess.Transition

/-!
# The interest service

Requests of sessions on the interests of a store. A denial is shown in one of
two ways: as forbidden when the session may do the action with no record at all,
and as not found when it may with some but not with this one, so that the
existence of a hidden record is not told.

- `Request`, `Answer`: what is asked and what is given back.
- `Call`: who asks, when, and what is out of order meanwhile.
- `Service.listed`, `Service.visible`, `Service.drafted`, `Service.revised`,
  `Service.doomed`: what each request decides, by reading the store only.
- `Service.handle`: the decision carried out, with the resulting store and the
  events that are announced; `Service.run` does so for a sequence of requests.
-/

namespace VolunteerAccess

/-- The operations of a store that may be out of order. -/
inductive StoreOperation where
  | query
  | findOne
  | save
  | deleteOne
deriving DecidableEq, Repr, Inhabited

def StoreOperation.name : StoreOperation → String
  | .query => "query"
  | .findOne => "find_one"
  | .save => "save"
  | .deleteOne => "delete_one"

/-- What is out of order, with the reasons. -/
structure Outages where
  lookups : Store.Refusals
  operation : StoreOperation → Option String

/-- Everything works. -/
def Outages.none : Outages := { lookups := .none, operation := fun _ => .none }

/-- Who asks, when, and what is out of order meanwhile. -/
structure Call where
  session : Session
  /-- The time in milliseconds since 1970. -/
  now : UInt64
  outages : Outages

/-- A narrowing of the interests to list. -/
structure ListQuery where
  opportunity : Option String
  person : Option String
deriving DecidableEq, Inhabited

namespace ListQuery

/-- All interests. -/
def unrestricted : ListQuery := { opportunity := none, person := none }

def forOpportunity (id : String) : ListQuery := { unrestricted with opportunity := some id }

def forPerson (id : String) : ListQuery := { unrestricted with person := some id }

/-- The condition of the fields that are given. -/
def condition (q : ListQuery) : Condition :=
  let c := q.opportunity.elim .empty (fun o => Condition.empty.eq "opportunity" (.text o))
  q.person.elim c (fun p => c.eq "person" (.text p))

def toFilter (q : ListQuery) : Filter := .ofCondition q.condition

/-- A narrowing in a document has short field names. -/
def decode? {τ : Type} [Document τ] (v : τ) : Option ListQuery := do
  let field ← Document.fields? ["op", "me"] v
  return {
    opportunity := ← Document.optional Document.text? (field "op")
    person := ← Document.optional Document.text? (field "me")
  }

end ListQuery

/-- What a session may ask for. -/
inductive Request where
  | list (query : ListQuery)
  | get (id : String)
  | create (data : NewInterest)
  | update (id : String) (change : InterestUpdate)
  | delete (id : String)
deriving Inhabited

/-- What is given back when a request is carried out. -/
inductive Answer where
  | interests (found : List Interest)
  | interest (value : Interest)
  | done
deriving DecidableEq, Inhabited

/-- The outcome of a request. -/
structure Reply where
  answer : Except Failure Answer
  store : Store
  /-- The events that are announced. -/
  events : List Event

/-- Abilities, and the guard of status changes. -/
structure Service where
  /-- The compiler that works with given look-ups. -/
  compiler : Ownership → Compiler
  guard : Guard

namespace Service

/-! ## Checks -/

/-- An operation of the store that is out of order fails. -/
def reach (call : Call) (op : StoreOperation) : Except Failure Unit :=
  match call.outages.operation op with
  | none => .ok ()
  | some reason => .error (.store { operation := op.name, reason })

/-- The ability of the session that asks. -/
def ability (svc : Service) (call : Call) (store : Store) : Except Failure Ability :=
  ((svc.compiler (store.ownership call.outages.lookups)).compile call.session .interest).mapError
    .build

/-- The action must be possible with some record. -/
def requireGrant (a : Ability) (action : Action) : Except Failure Unit :=
  if a.hasGrant action then .ok () else .error (.denied (.forbidden action .interest))

/-- No message may be blank. -/
def checkMessages (ms : List Message) : Except Failure Unit :=
  if ms.any (fun m => Text.isBlank m.body) then .error (.validation .emptyMessage) else .ok ()

/-- The status that a caller names. -/
def parseStatus (s : String) : Except Failure Status :=
  match Status.ofText? s with
  | some st => .ok st
  | none => .error (.validation (.unknownStatus s))

/-- The field that an update can change and that a guard of status changes must be for. -/
def statusField : String := "status"

/-- The guard judges a change of status by the person whose interest it is, if that person
holds the role that the guard restricts. -/
def checkTransition (svc : Service) (session : Session) (i : Interest) (target : Status) :
    Except Failure Unit :=
  match svc.guard.table? .interest with
  | none => .ok ()
  | some table =>
    if table.field == statusField && session.holds table.actor &&
        session.identity == some i.person then
      (svc.guard.check .interest i.status.name target.name table.actor).mapError .transition
    else .ok ()

/-! ## Decisions -/

/-- The interests that a session is shown, oldest first. -/
def listed (svc : Service) (call : Call) (q : ListQuery) (store : Store) :
    Except Failure (List Interest) := do
  let a ← svc.ability call store
  requireGrant a .list
  reach call .query
  return store.query ((a.filterFor .list).and q.toFilter)

/-- The interest of an id, if an ability allows an action with it. -/
def findVisible (call : Call) (a : Ability) (action : Action) (id : String) (store : Store) :
    Except Failure Interest := do
  requireGrant a action
  reach call .findOne
  match store.findOne ((a.filterFor action).and (.byId (.text id))) with
  | some i => return i
  | none => throw (.denied (.notFound action .interest))

/-- The interest of an id that a session may read. -/
def visible (svc : Service) (call : Call) (id : String) (store : Store) :
    Except Failure Interest := do
  let a ← svc.ability call store
  findVisible call a .read id store

/-- The record that a creation asks for, before its data is checked. -/
def requestedRecord (person opportunity : Option String) (status : String) : Record :=
  ((Record.empty .interest).set "person" (.ofText? person)
    |>.set "opportunity" (.ofText? opportunity)).set "status" (.text status)

/-- The new interest that a session may store, without an id. Permission is judged before
the data is checked. -/
def drafted (svc : Service) (call : Call) (data : NewInterest) (store : Store) :
    Except Failure Interest := do
  let a ← svc.ability call store
  requireGrant a .create
  let person := data.person.or call.session.identity
  let statusText := data.status.getD Status.initial.name
  unless a.can .create (requestedRecord person data.opportunity statusText).target do
    throw (.denied (.forbidden .create .interest))
  let some person := person | throw (.validation (.missingField "person"))
  let some opportunity := data.opportunity | throw (.validation (.missingField "opportunity"))
  let status ← parseStatus statusText
  checkMessages data.messages
  reach call .save
  return { id := "", person, opportunity, status, messages := data.messages,
           dateAdded := call.now }

/-- The changed interest that a session may store. The change must be permitted by the guard,
and the record be allowed after it. -/
def revised (svc : Service) (call : Call) (id : String) (change : InterestUpdate) (store : Store) :
    Except Failure Interest := do
  let a ← svc.ability call store
  let i ← findVisible call a .read id store
  let target ← change.status.mapM parseStatus
  checkMessages change.messages
  if let some st := target then
    svc.checkTransition call.session i st
  let i := { i with status := target.getD i.status, messages := i.messages ++ change.messages }
  unless a.can .update i.target do
    throw (.denied (.forbiddenBecause .update .interest "invalid update attempted"))
  reach call .save
  return i

/-- The filter by which a session may delete the interest of an id. -/
def doomed (svc : Service) (call : Call) (id : String) (store : Store) :
    Except Failure Filter := do
  let a ← svc.ability call store
  requireGrant a .delete
  reach call .deleteOne
  return (a.filterFor .delete).and (.byId (.text id))

/-! ## Carrying out -/

/-- The announcement of a stored interest: its record, tagged with the kind of the update. -/
def announcement (i : Interest) (kind : UpdateKind) : Event :=
  let topic := match kind with
    | .message => .interestMessage
    | .accept | .reject | .invite => .interestUpdate
  { topic
    payload := match i.encode with
      | .object ms => .mkObject (ms ++ [("type", kind.encode)])
      | v => v }

/-- The announcement that the interest of an id is gone. -/
def deletion (id : String) : Event :=
  { topic := .interestDelete, payload := .object [("_id", .text id)] }

/-- A request that is answered without any change. -/
def unchanged (store : Store) (answer : Except Failure Answer) : Reply :=
  { answer, store, events := [] }

/-- Store an interest and announce it. -/
def commit (store : Store) (i : Interest) (kind : UpdateKind) : Reply :=
  let saved := store.save i
  { answer := .ok (.interest saved.1), store := saved.2, events := [announcement saved.1 kind] }

/-- Answer a request. -/
def handle (svc : Service) (call : Call) (request : Request) (store : Store) : Reply :=
  match request with
  | .list q => unchanged store ((svc.listed call q store).map .interests)
  | .get id => unchanged store ((svc.visible call id store).map .interest)
  | .create data =>
    match svc.drafted call data store with
    | .error e => unchanged store (.error e)
    | .ok i => commit store i .accept
  | .update id change =>
    match svc.revised call id change store with
    | .error e => unchanged store (.error e)
    | .ok i => commit store i change.kind
  | .delete id =>
    match svc.doomed call id store with
    | .error e => unchanged store (.error e)
    | .ok f =>
      match store.deleteOne f with
      | (0, store) => unchanged store (.error (.denied (.notFound .delete .interest)))
      | (_ + 1, store) => { answer := .ok .done, store, events := [deletion id] }

/-- Answer requests one after another: the answers in order, the store at the end, and all
events that were announced. -/
def run (svc : Service) :
    List (Call × Request) → Store → List (Except Failure Answer) × Store × List Event
  | [], store => ([], store, [])
  | (call, request) :: rest, store =>
    let reply := svc.handle call request store
    let (answers, last, events) := svc.run rest reply.store
    (reply.answer :: answers, last, reply.events ++ events)

/-- The service of the standard policy. -/
def standard (concurrent : Bool) (guard : Guard) : Service :=
  { compiler := Policy.standard concurrent, guard }

end Service

end VolunteerAccess
