import VolunteerAccess.Action
import VolunteerAccess.Condition

/-!
# Rules

- `Rule`: a grant or a denial of one action on one resource, for all records or
  for those that meet a condition.
- `RuleSet`: the rules that one role contributes for one resource, in order.
-/

namespace VolunteerAccess

/-- A grant of an action, or a denial when it is inverted. -/
structure Rule where
  subject : Resource
  action : Action
  /-- The records the rule is for; all of them when there is no condition. -/
  conditions : Option Condition
  inverted : Bool
deriving Inhabited

namespace Rule

/-- A grant for all records. -/
def grant (subject : Resource) (action : Action) : Rule :=
  { subject, action, conditions := none, inverted := false }

/-- A denial for all records. -/
def deny (subject : Resource) (action : Action) : Rule :=
  { grant subject action with inverted := true }

/-- The rule restricted to the records that meet a condition. -/
def onlyIf (r : Rule) (c : Condition) : Rule := { r with conditions := some c }

/-- Whether the rule is for all records: it has no condition, or one without tests. -/
def isUnconditional (r : Rule) : Bool := r.conditions.all Condition.isEmpty

/-- Whether the rule speaks of an action on a resource. -/
def appliesTo (r : Rule) (subject : Resource) (action : Action) : Bool :=
  r.subject == subject && r.action == action

/-- Whether the record meets the condition of the rule. -/
def holds (r : Rule) (t : Target) : Bool := r.conditions.all (·.holds t)

def decode? (v : Json) : Option Rule := do
  let field ← Document.fields? ["subject", "action", "conditions", "inverted"] v
  return {
    subject := ← Document.required Resource.decode? (field "subject")
    action := ← Document.required Action.decode? (field "action")
    conditions := ← Document.optional Condition.decode? (field "conditions")
    inverted := ← Document.orDefault false Document.flag? (field "inverted")
  }

/-- A rule in a document; the condition is left out when there is none. -/
def encode (r : Rule) : Json :=
  .mkObject ([
      ("subject", r.subject.encode),
      ("action", r.action.encode),
      ("inverted", .bool r.inverted)] ++
    (r.conditions.elim [] fun c => [("conditions", c.encode)]))

end Rule

/-- The rules that one role contributes for one resource, in order. -/
structure RuleSet where
  subject : Resource
  rules : List Rule
deriving Inhabited

namespace RuleSet

/-- The set without rules. -/
def empty (subject : Resource) : RuleSet := { subject, rules := [] }

/-- The set with one more rule at its end. -/
def push (s : RuleSet) (r : Rule) : RuleSet := { s with rules := s.rules ++ [r] }

def grant (s : RuleSet) (a : Action) : RuleSet := s.push (.grant s.subject a)

def grantIf (s : RuleSet) (a : Action) (c : Condition) : RuleSet :=
  s.push ((Rule.grant s.subject a).onlyIf c)

def deny (s : RuleSet) (a : Action) : RuleSet := s.push (.deny s.subject a)

/-- The set with a denial of every action at its end. -/
def denyAll (s : RuleSet) : RuleSet := Action.all.foldl deny s

/-- The set with a grant of every action at its end. -/
def grantAll (s : RuleSet) : RuleSet := Action.all.foldl grant s

def decode? (v : Json) : Option RuleSet := do
  let field ← Document.fields? ["subject", "rules"] v
  return {
    subject := ← Document.required Resource.decode? (field "subject")
    rules := ← Document.required (Document.list? Rule.decode?) (field "rules")
  }

def encode (s : RuleSet) : Json :=
  .mkObject [("subject", s.subject.encode), ("rules", .array (s.rules.map Rule.encode))]

end RuleSet

end VolunteerAccess
