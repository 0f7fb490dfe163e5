import VolunteerAccess.Json.Basic

/-!
# Events

Changes of interests are announced on a bus that subscribers read at their own
pace. The bus keeps a bounded number of events; a subscriber that falls behind
is told how many it lost, once, and goes on with the oldest event kept.

- `Topic`, `Event`: what is announced.
- `Bus`: the events since someone listens, and how far each subscriber has read.
-/

namespace VolunteerAccess

/-- What an event is about. -/
inductive Topic where
  | interestUpdate
  | interestMessage
  | interestDelete
deriving DecidableEq, Repr, Inhabited

namespace Topic

def all : List Topic := [.interestUpdate, .interestMessage, .interestDelete]

def name : Topic → String
  | .interestUpdate => "interest.update"
  | .interestMessage => "interest.message"
  | .interestDelete => "interest.delete"

def ofText? (s : String) : Option Topic := all.find? (fun t => t.name == s)

end Topic

/-- An announcement, with the record it is about. -/
structure Event where
  topic : Topic
  payload : Json
deriving Inhabited

def Event.encode (e : Event) : Json :=
  .mkObject [("topic", .text e.topic.name), ("payload", e.payload)]

/-! ## The bus -/

/-- A bus of events. -/
structure Bus where
  /-- How many of the newest events are kept. -/
  capacity : Nat
  /-- All events that were sent while someone listened, oldest first. -/
  sent : List Event
  /-- For each subscriber how many events it is past, or `none` once it has left. -/
  readers : List (Option Nat)

/-- What a subscriber receives. -/
inductive Received where
  | event (value : Event)
  /-- There is nothing that it has not read. -/
  | empty
  /-- So many events were lost before it read them. -/
  | lagged (lost : Nat)

namespace Bus

/-- The least power of two that is not below `n`, from `p` on. -/
def nextPower (n : Nat) : Nat → Nat → Nat
  | 0, p => p
  | fuel + 1, p => if n ≤ p then p else nextPower n fuel (2 * p)

/-- How many events a bus keeps that is asked to keep `n`: the next power of two, and at
least one. -/
def capacityFor (n : Nat) : Nat := nextPower n n 1

/-- A bus without subscribers. -/
def ofCapacity (n : Nat) : Bus := { capacity := capacityFor n, sent := [], readers := [] }

/-- How many events a bus is asked to keep when nothing is said. -/
def defaultCapacity : Nat := 64

/-- A new subscriber, which receives what is sent from now on, and its number. -/
def subscribe (b : Bus) : Nat × Bus :=
  (b.readers.length, { b with readers := b.readers ++ [some b.sent.length] })

/-- How many subscribers there are that have not left. -/
def listeners (b : Bus) : Nat := b.readers.countP Option.isSome

/-- Send an event to all subscribers, and count them. Without any it is lost. -/
def publish (b : Bus) (e : Event) : Nat × Bus :=
  if b.listeners = 0 then (0, b) else (b.listeners, { b with sent := b.sent ++ [e] })

/-- Let a subscriber leave. -/
def leave (b : Bus) (reader : Nat) : Bus := { b with readers := b.readers.set reader none }

/-- The next event of a subscriber, unless it is no subscriber or has left. -/
def receive (b : Bus) (reader : Nat) : Option Received × Bus :=
  match b.readers[reader]? with
  | some (some position) =>
    let past (n : Nat) : Bus := { b with readers := b.readers.set reader (some n) }
    let oldest := b.sent.length - b.capacity
    if position < oldest then (some (.lagged (oldest - position)), past oldest)
    else
      match b.sent[position]? with
      | some e => (some (.event e), past (position + 1))
      | none => (some .empty, b)
  | _ => (none, b)

end Bus

end VolunteerAccess
