import VolunteerAccess.Filter
import VolunteerAccess.Rule

/-!
# Abilities

An ability is the ordered list of all rules that a session has for a resource.
It is read in three ways, which answer alike:

- `Ability.can`: may the session act on this record? The last rule that speaks
  of the action and whose condition the record meets decides; without one the
  answer is no.
- `Ability.filterFor`: which records may the session act on? Grants add what
  they select, denials take away.
- `Ability.hasGrant`: may the session act on any record at all, as far as can be
  told without one? Only grants after the last denial for all records count.
-/

namespace VolunteerAccess

/-- All rules that a session has for a resource, in order. -/
structure Ability where
  subject : Resource
  rules : List Rule
deriving Inhabited

namespace Ability

/-- The rules for an action on the resource of the ability. -/
def rulesFor (a : Ability) (action : Action) : List Rule :=
  a.rules.filter (·.appliesTo a.subject action)

/-- Whether the session may do `action` with the record. -/
def can (a : Ability) (action : Action) (t : Target) : Bool :=
  match a.rules.reverse.find? (fun r => r.appliesTo t.resource action && r.holds t) with
  | some r => !r.inverted
  | none => false

/-- The records a rule is for. -/
def selected (r : Rule) : Filter := r.conditions.elim .everything .ofCondition

/-- Take a rule into account that comes after those that gave `allowed`. -/
def extend (allowed : Filter) (r : Rule) : Filter :=
  if r.inverted then allowed.and (selected r).negate else allowed.or (selected r)

/-- The records that the session may do `action` with. -/
def filterFor (a : Ability) (action : Action) : Filter :=
  (a.rulesFor action).foldl extend .nothing

/-- Whether a rule denies its action for all records. -/
def isBlanketDenial (r : Rule) : Bool := r.inverted && r.isUnconditional

/-- The rules after the last one that denies its action for all records. -/
def afterBlanketDenial (rs : List Rule) : List Rule :=
  (rs.reverse.takeWhile (fun r => !isBlanketDenial r)).reverse

/-- Whether a grant of `action` is left after the last denial for all records. -/
def hasGrant (a : Ability) (action : Action) : Bool :=
  (afterBlanketDenial (a.rulesFor action)).any (fun r => !r.inverted)

end Ability

end VolunteerAccess
