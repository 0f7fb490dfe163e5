import VolunteerAccess.Document
import VolunteerAccess.Text.Basic

/-!
# Actions

An action is what a session may ask to do with a record of some resource.
-/

namespace VolunteerAccess

/-- An operation on a record. -/
inductive Action where
  | list
  | read
  | create
  | update
  | delete
deriving DecidableEq, Repr, Inhabited

namespace Action

/-- All actions, in the order in which blanket rules name them. -/
def all : List Action := [.list, .read, .create, .update, .delete]

theorem mem_all (a : Action) : a ∈ all := by cases a <;> simp [all]

/-- The name that documents use. -/
def name : Action → String
  | .list => "list"
  | .read => "read"
  | .create => "create"
  | .update => "update"
  | .delete => "delete"

/-- An action by its name in letters of either case. -/
def ofText? (s : String) : Option Action :=
  all.find? (fun a => a.name == Text.lowerAscii s)

/-- Whether the action changes what is stored. -/
def isMutating : Action → Bool
  | .list | .read => false
  | .create | .update | .delete => true

def decode? {τ : Type} [Document τ] : τ → Option Action := Document.enum? all name

def encode (a : Action) : Json := .text a.name

end Action

end VolunteerAccess
