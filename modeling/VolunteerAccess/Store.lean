import VolunteerAccess.Filter
import VolunteerAccess.Fixtures
import VolunteerAccess.Policy

/-!
# The store of interests

- `Store`: live and archived interests by id, opportunities of both scopes, and
  the counter that fresh ids come from.
- `Store.query`, `Store.findOne`, `Store.save`, `Store.deleteOne`: the
  operations that the service needs. Where one record is wanted it is the one
  of least id.
- `Store.ownership`: the look-ups of owned opportunities, any of which may be
  refused.
-/

namespace VolunteerAccess

/-- Interests and opportunities. -/
structure Store where
  interests : Dict Interest
  archivedInterests : Dict Interest
  opportunities : List Opportunity
  archivedOpportunities : List Opportunity
  /-- How many fresh ids have been given. -/
  issued : UInt64
deriving Inhabited

namespace Store

/-- Interests under their ids, the later of two with one id counting. -/
def index (is : List Interest) : Dict Interest := .ofList (is.map (fun i => (i.id, i)))

/-- The store without records. -/
def empty : Store :=
  { interests := .empty, archivedInterests := .empty, opportunities := [],
    archivedOpportunities := [], issued := 0 }

/-- The store that holds the records of some fixtures. -/
def ofFixtures (f : Fixtures) : Store :=
  { interests := index f.interests
    archivedInterests := index f.archivedInterests
    opportunities := f.opportunities
    archivedOpportunities := f.archivedOpportunities
    issued := 0 }

/-- The opportunities of a scope. -/
def collection (s : Store) : Scope → List Opportunity
  | .active => s.opportunities
  | .archived => s.archivedOpportunities

def addOpportunity (s : Store) (scope : Scope) (o : Opportunity) : Store :=
  match scope with
  | .active => { s with opportunities := s.opportunities ++ [o] }
  | .archived => { s with archivedOpportunities := s.archivedOpportunities ++ [o] }

/-- The interest of an id, among the live or the archived ones. -/
def findById (s : Store) (resource : Resource) (id : String) : Option Interest :=
  match resource with
  | .interest => s.interests.get? id
  | .interestArchive => s.archivedInterests.get? id

/-- How many live interests there are. -/
def count (s : Store) : Nat := s.interests.size

/-! ## Operations on live interests -/

/-- Older interests come first, those of one age by id. -/
def olderOrSame (a b : Interest) : Bool :=
  a.dateAdded < b.dateAdded || (a.dateAdded == b.dateAdded && a.id ≤ b.id)

/-- The interests that a filter selects, oldest first. -/
def query (s : Store) (f : Filter) : List Interest :=
  (s.interests.values.filter (fun i => f.holds i.target)).mergeSort olderOrSame

/-- The interest of least id that a filter selects. -/
def findOne (s : Store) (f : Filter) : Option Interest :=
  s.interests.values.find? (fun i => f.holds i.target)

/-- The id after `issued` fresh ones. -/
def freshId (issued : UInt64) : String := "interest-" ++ toString (issued + 1).toNat

/-- Store an interest under its id, in place of any other; one without an id is given a
fresh one. -/
def save (s : Store) (i : Interest) : Interest × Store :=
  if i.id.isEmpty then
    let i := { i with id := freshId s.issued }
    (i, { s with interests := s.interests.insert i.id i, issued := s.issued + 1 })
  else (i, { s with interests := s.interests.insert i.id i })

/-- Remove the interest of least id that a filter selects, and count it. -/
def deleteOne (s : Store) (f : Filter) : Nat × Store :=
  match s.findOne f with
  | some i => (1, { s with interests := s.interests.erase i.id })
  | none => (0, s)

/-! ## Look-ups of owned opportunities -/

/-- The ids of the opportunities that a person requested. -/
def requestedBy (s : Store) (scope : Scope) (person : String) : List String :=
  ((s.collection scope).filter (fun o => o.requestor == person)).map Opportunity.id

/-- The ids of the opportunities that one of some organisations offers. -/
def offeredBy (s : Store) (scope : Scope) (orgs : List String) : List String :=
  ((s.collection scope).filter (fun o => o.offerOrg.any orgs.contains)).map Opportunity.id

/-- Look-ups that are refused, with the reasons. -/
structure Refusals where
  requested : Option String
  offered : Option String
deriving Inhabited

/-- No look-up is refused. -/
def Refusals.none : Refusals := { requested := .none, offered := .none }

/-- The answer of a look-up, unless it is refused. -/
def Refusals.guarded (refusal : Option String) (scope : Scope) (ids : List String) :
    Except LookupFailure (List String) :=
  match refusal with
  | some reason => .error { collection := scope.collection, reason }
  | .none => .ok ids

/-- The look-ups in this store. -/
def ownership (s : Store) (r : Refusals) : Ownership :=
  { requestedBy := fun scope person =>
      Refusals.guarded r.requested scope (s.requestedBy scope person)
    offeredBy := fun scope orgs => Refusals.guarded r.offered scope (s.offeredBy scope orgs) }

end Store

end VolunteerAccess
