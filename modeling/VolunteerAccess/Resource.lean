import VolunteerAccess.Document

/-!
# Resources

A resource is a protected kind of record. It fixes the fields that conditions
on its records may name.
-/

namespace VolunteerAccess

/-- A protected kind of record. -/
inductive Resource where
  | interest
  | interestArchive
deriving DecidableEq, Repr, Inhabited

namespace Resource

def all : List Resource := [.interest, .interestArchive]

theorem mem_all (r : Resource) : r ∈ all := by cases r <;> simp [all]

/-- The name that documents use. -/
def name : Resource → String
  | .interest => "interest"
  | .interestArchive => "interest_archive"

/-- A resource by its name, in which a hyphen may stand for the underscore. -/
def ofText? : String → Option Resource
  | "interest" => some .interest
  | "interest_archive" | "interest-archive" => some .interestArchive
  | _ => none

/-- The fields that records of the resource have. Conditions may name no others. -/
def fields : Resource → List String
  | .interest | .interestArchive => ["_id", "person", "opportunity", "status", "dateAdded"]

def hasField (r : Resource) (field : String) : Bool := r.fields.contains field

def decode? {τ : Type} [Document τ] : τ → Option Resource := Document.enum? all name

def encode (r : Resource) : Json := .text r.name

end Resource

end VolunteerAccess
