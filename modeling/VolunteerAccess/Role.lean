import VolunteerAccess.Document

/-!
# Roles and role sets

- `Role`: what kind of person a session acts as; a session may hold several.
- `Role.all`: the roles in priority order. Rules of a later role come after
  those of an earlier one and so win against them.
- `RoleSet`: a set of roles, by its membership test; `RoleSet.toList` lists it
  in priority order.
-/

namespace VolunteerAccess

/-- A kind of person that a session may act as. -/
inductive Role where
  | anonymous
  | volunteer
  | opportunityProvider
  | organisationAdmin
  | administrator
deriving DecidableEq, Repr, Inhabited

namespace Role

/-- All roles in priority order. -/
def all : List Role :=
  [.anonymous, .volunteer, .opportunityProvider, .organisationAdmin, .administrator]

theorem mem_all (r : Role) : r ∈ all := by cases r <;> simp [all]

/-- The name that documents use. -/
def name : Role → String
  | .anonymous => "anonymous"
  | .volunteer => "volunteer"
  | .opportunityProvider => "opportunity-provider"
  | .organisationAdmin => "organisation-admin"
  | .administrator => "administrator"

/-- A role by its name or one of the short forms that people type. -/
def ofText? : String → Option Role
  | "anonymous" | "anon" => some .anonymous
  | "volunteer" => some .volunteer
  | "opportunity-provider" | "opportunity_provider" => some .opportunityProvider
  | "organisation-admin" | "organisation_admin" | "org-admin" => some .organisationAdmin
  | "administrator" | "admin" => some .administrator
  | _ => none

/-- A role in a document, where only its name stands for it. -/
def decode? {τ : Type} [Document τ] : τ → Option Role := Document.enum? all name

def encode (r : Role) : Json := .text r.name

end Role

/-! ## Role sets -/

/-- A set of roles. -/
structure RoleSet where
  contains : Role → Bool

namespace RoleSet

instance : Inhabited RoleSet := ⟨⟨fun _ => false⟩⟩

/-- The set with no roles. -/
def empty : RoleSet := ⟨fun _ => false⟩

/-- The set of the roles in a list. -/
def ofList (rs : List Role) : RoleSet := ⟨fun r => rs.contains r⟩

/-- The members in priority order. -/
def toList (s : RoleSet) : List Role := Role.all.filter s.contains

def size (s : RoleSet) : Nat := s.toList.length

def isEmpty (s : RoleSet) : Bool := s.toList.isEmpty

/-- The set with one more member. -/
def insert (s : RoleSet) (r : Role) : RoleSet := ⟨fun x => x == r || s.contains x⟩

theorem mem_toList {s : RoleSet} {r : Role} : r ∈ s.toList ↔ s.contains r = true := by
  simp [toList, Role.mem_all]

/-- The members by name, between brackets. -/
def display (s : RoleSet) : String := "[" ++ ", ".intercalate (s.toList.map Role.name) ++ "]"

/-- A role set in a document is an array of roles in any order. -/
def decode? {τ : Type} [Document τ] (v : τ) : Option RoleSet :=
  (Document.list? Role.decode? v).map ofList

def encode (s : RoleSet) : Json := .array (s.toList.map Role.encode)

end RoleSet

end VolunteerAccess
