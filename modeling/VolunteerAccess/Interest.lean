import VolunteerAccess.Target

/-!
# Interests and opportunities

An interest links a person to an opportunity. It carries a status and a thread
of messages.

- `Status`, `Message`, `Interest`: the stored record and its parts.
- `NewInterest`, `InterestUpdate`: what a caller supplies to make or change one.
- `Opportunity`: whose interests they are, for the roles that own opportunities.
-/

namespace VolunteerAccess

/-- Where an interest stands. -/
inductive Status where
  | interested
  | invited
  | committed
  | declined
  | completed
  | cancelled
deriving DecidableEq, Repr, Inhabited

namespace Status

def all : List Status := [.interested, .invited, .committed, .declined, .completed, .cancelled]

theorem mem_all (s : Status) : s ∈ all := by cases s <;> simp [all]

/-- The name that documents use. -/
def name : Status → String
  | .interested => "interested"
  | .invited => "invited"
  | .committed => "committed"
  | .declined => "declined"
  | .completed => "completed"
  | .cancelled => "cancelled"

/-- The status of an interest for which none is given. -/
def initial : Status := .interested

/-- A status by its exact name. -/
def ofText? (s : String) : Option Status := all.find? (fun st => st.name == s)

def decode? {τ : Type} [Document τ] : τ → Option Status := Document.enum? all name

def encode (s : Status) : Json := .text s.name

end Status

/-- An entry of a message thread. -/
structure Message where
  body : String
  author : String
deriving DecidableEq, Inhabited

namespace Message

def decode? {τ : Type} [Document τ] (v : τ) : Option Message := do
  let field ← Document.fields? ["body", "author"] v
  return {
    body := ← Document.required Document.text? (field "body")
    author := ← Document.required Document.text? (field "author")
  }

def encode (m : Message) : Json :=
  .mkObject [("body", .text m.body), ("author", .text m.author)]

end Message

/-- A stored interest. -/
structure Interest where
  id : String
  person : String
  opportunity : String
  status : Status
  messages : List Message
  /-- When it was made, in milliseconds since 1970. -/
  dateAdded : UInt64
deriving DecidableEq, Inhabited

namespace Interest

/-- The value of a field that conditions may name. -/
def field (i : Interest) : String → Option Json
  | "_id" => some (.text i.id)
  | "person" => some (.text i.person)
  | "opportunity" => some (.text i.opportunity)
  | "status" => some (.text i.status.name)
  | "dateAdded" => some (.ofNat i.dateAdded.toNat)
  | _ => none

def target (i : Interest) : Target := { resource := .interest, field := i.field }

def decode? {τ : Type} [Document τ] (v : τ) : Option Interest := do
  let field ← Document.fields?
    ["_id", "person", "opportunity", "status", "messages", "dateAdded"] v
  return {
    id := ← Document.required Document.text? (field "_id")
    person := ← Document.required Document.text? (field "person")
    opportunity := ← Document.required Document.text? (field "opportunity")
    status := ← Document.orDefault .initial Status.decode? (field "status")
    messages := ← Document.orDefault [] (Document.list? Message.decode?) (field "messages")
    dateAdded := ← Document.orDefault 0 Document.count? (field "dateAdded")
  }

def encode (i : Interest) : Json :=
  .mkObject [
    ("_id", .text i.id),
    ("person", .text i.person),
    ("opportunity", .text i.opportunity),
    ("status", i.status.encode),
    ("messages", .array (i.messages.map Message.encode)),
    ("dateAdded", .ofNat i.dateAdded.toNat)]

end Interest

/-! ## What callers supply -/

/-- The data of a new interest. -/
structure NewInterest where
  /-- The person; when left out, the one who asks. -/
  person : Option String
  opportunity : Option String
  /-- The name of a status; when left out, that of the initial one. -/
  status : Option String
  messages : List Message
deriving DecidableEq, Inhabited

namespace NewInterest

def decode? {τ : Type} [Document τ] (v : τ) : Option NewInterest := do
  let field ← Document.fields? ["person", "opportunity", "status", "messages"] v
  return {
    person := ← Document.optional Document.text? (field "person")
    opportunity := ← Document.optional Document.text? (field "opportunity")
    status := ← Document.optional Document.text? (field "status")
    messages := ← Document.orDefault [] (Document.list? Message.decode?) (field "messages")
  }

def encode (n : NewInterest) : Json :=
  .mkObject [
    ("person", .ofText? n.person),
    ("opportunity", .ofText? n.opportunity),
    ("status", .ofText? n.status),
    ("messages", .array (n.messages.map Message.encode))]

end NewInterest

/-- What an update is about. -/
inductive UpdateKind where
  | accept
  | reject
  | invite
  | message
deriving DecidableEq, Repr, Inhabited

namespace UpdateKind

def all : List UpdateKind := [.accept, .reject, .invite, .message]

/-- The name that documents use. -/
def name : UpdateKind → String
  | .accept => "accept"
  | .reject => "reject"
  | .invite => "invite"
  | .message => "message"

def decode? {τ : Type} [Document τ] : τ → Option UpdateKind := Document.enum? all name

def encode (k : UpdateKind) : Json := .text k.name

end UpdateKind

/-- Changes to a stored interest. -/
structure InterestUpdate where
  /-- The name of the status to move to. -/
  status : Option String
  /-- Messages to add to the thread. -/
  messages : List Message
  kind : UpdateKind
deriving DecidableEq, Inhabited

namespace InterestUpdate

def decode? {τ : Type} [Document τ] (v : τ) : Option InterestUpdate := do
  let field ← Document.fields? ["status", "messages", "type"] v
  return {
    status := ← Document.optional Document.text? (field "status")
    messages := ← Document.orDefault [] (Document.list? Message.decode?) (field "messages")
    kind := ← Document.orDefault .accept UpdateKind.decode? (field "type")
  }

def encode (u : InterestUpdate) : Json :=
  .mkObject [
    ("status", .ofText? u.status),
    ("messages", .array (u.messages.map Message.encode)),
    ("type", u.kind.encode)]

end InterestUpdate

/-! ## Opportunities -/

/-- Something to volunteer for, requested by a person for an organisation. -/
structure Opportunity where
  id : String
  /-- The person who requested it, and so owns it. -/
  requestor : String
  /-- The organisation that offers it. -/
  offerOrg : Option String
deriving DecidableEq, Inhabited

namespace Opportunity

def decode? {τ : Type} [Document τ] (v : τ) : Option Opportunity := do
  let field ← Document.fields? ["_id", "requestor", "offerOrg"] v
  return {
    id := ← Document.required Document.text? (field "_id")
    requestor := ← Document.required Document.text? (field "requestor")
    offerOrg := ← Document.optional Document.text? (field "offerOrg")
  }

def encode (o : Opportunity) : Json :=
  .mkObject [
    ("_id", .text o.id),
    ("requestor", .text o.requestor),
    ("offerOrg", .ofText? o.offerOrg)]

end Opportunity

end VolunteerAccess
