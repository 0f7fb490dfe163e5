import VolunteerAccess.Ability
import VolunteerAccess.Failure
import VolunteerAccess.Session

/-!
# Compiling abilities

The ability of a session is put together from the rule sets of its roles. The
rule set of one role may take a while to build, because it may need a look-up.

- `Build`: one rule set under way; it gives up its turn some number of times and
  then fails or has a rule set.
- `Builder`: what builds the rules of a resource, role by role.
- `Run.oneByOne`: the builds run one after another, up to the first failure.
- `Run.interleaved`: they take turns in role order, round after round, up to the
  first failure that is met.
- `Compiler.compile`: the rule sets are checked role by role, and their rules
  joined in role order. In both modes a failure leaves no ability.
-/

namespace VolunteerAccess

/-- A rule set under way. -/
structure Build where
  /-- How often it gives up its turn before it is done. -/
  yields : Nat
  outcome : Except BuildFailure RuleSet

/-- What builds the rules of a resource. -/
structure Builder where
  subject : Resource
  /-- The roles that the resource has rules for. -/
  roles : List Role
  build : Session → Role → Build

/-! ## Running builds -/

/-- What became of some builds. -/
structure Run where
  /-- The roles whose build was started, in that order. -/
  started : List Role
  /-- The rule sets in role order, or the failure that ended the run. -/
  outcome : Except BuildFailure (List RuleSet)

namespace Run

/-- The builds run one after another, up to the first failure. -/
def oneByOne : List (Role × Build) → Run
  | [] => { started := [], outcome := .ok [] }
  | (role, b) :: rest =>
    match b.outcome with
    | .error e => { started := [role], outcome := .error e }
    | .ok set =>
      let r := oneByOne rest
      { started := role :: r.started, outcome := r.outcome.map (set :: ·) }

/-- A build that takes turns with others. -/
inductive Slot where
  | done (set : RuleSet)
  | waiting (build : Build)

namespace Slot

/-- One turn: a build that may still yield does so, another one ends. -/
def turn : Slot → Except BuildFailure Slot
  | .done set => .ok (.done set)
  | .waiting { yields := n + 1, outcome } => .ok (.waiting { yields := n, outcome })
  | .waiting { yields := 0, outcome } => outcome.map .done

def result? : Slot → Option RuleSet
  | .done set => some set
  | .waiting _ => none

/-- How many turns the build needs. -/
def turnsLeft : Slot → Nat
  | .done _ => 0
  | .waiting b => b.yields + 1

end Slot

/-- Rounds of turns until all builds are done, at most `rounds` of them. -/
def rounds : Nat → List Slot → Except BuildFailure (List RuleSet)
  | 0, slots => .ok (slots.filterMap Slot.result?)
  | n + 1, slots => do rounds n (← slots.mapM Slot.turn)

/-- Whether the first turn of a build ends the run. -/
def failsAtOnce (b : Build) : Bool :=
  match b with
  | { yields := 0, outcome := .error _ } => true
  | _ => false

/-- The roles whose build gets a first turn: all up to one that fails at once. -/
def startedOf : List (Role × Build) → List Role
  | [] => []
  | (role, b) :: rest => role :: if failsAtOnce b then [] else startedOf rest

/-- The builds take turns in order, round after round. The longest one sets the number
of rounds. -/
def interleaved (builds : List (Role × Build)) : Run :=
  let slots := builds.map (fun b => Slot.waiting b.2)
  { started := startedOf builds
    outcome := rounds (slots.foldl (fun n s => max n s.turnsLeft) 0) slots }

end Run

/-! ## Checking and joining -/

/-- A rule must be for the resource and test only fields of it. -/
def Rule.check (subject : Resource) (r : Rule) : Except BuildFailure Unit :=
  if r.subject != subject then .error (.subjectMismatch subject r.subject)
  else
    match (r.conditions.elim [] Condition.fields).find? (fun f => !subject.hasField f) with
    | some field => .error (.unknownField subject field)
    | none => .ok ()

/-- Every rule of the set must pass the check; the first that does not is reported. -/
def RuleSet.check (subject : Resource) (s : RuleSet) : Except BuildFailure Unit :=
  s.rules.forM (Rule.check subject)

/-- Builders by resource, and how their builds are run. -/
structure Compiler where
  /-- Whether builds take turns. -/
  concurrent : Bool
  builder? : Resource → Option Builder

namespace Compiler

/-- The compiler without builders. -/
def empty (concurrent : Bool) : Compiler := { concurrent, builder? := fun _ => none }

/-- The compiler with one more builder, in place of any other for its resource. -/
def register (c : Compiler) (b : Builder) : Compiler :=
  { c with builder? := fun r => if r = b.subject then some b else c.builder? r }

/-- The resources that have a builder. -/
def subjects (c : Compiler) : List Resource := Resource.all.filter (fun r => (c.builder? r).isSome)

/-- The builds of a session: those of the roles it holds and the builder has rules for. -/
def builds (b : Builder) (session : Session) : List (Role × Build) :=
  (session.roles.toList.filter b.roles.contains).map (fun r => (r, b.build session r))

/-- What becomes of the builds of a session. -/
def run (c : Compiler) (b : Builder) (session : Session) : Run :=
  if c.concurrent then Run.interleaved (builds b session) else Run.oneByOne (builds b session)

/-- The ability of rule sets, all of which must pass the check. -/
def join (subject : Resource) (sets : List RuleSet) : Except BuildFailure Ability := do
  sets.forM (RuleSet.check subject)
  return { subject, rules := sets.flatMap RuleSet.rules }

/-- The ability of a session for a resource. -/
def compile (c : Compiler) (session : Session) (subject : Resource) :
    Except BuildFailure Ability := do
  match c.builder? subject with
  | none => throw (.noBuilder subject)
  | some b => join subject (← (c.run b session).outcome)

/-- The roles whose build is started when an ability is compiled. -/
def started (c : Compiler) (session : Session) (subject : Resource) : List Role :=
  match c.builder? subject with
  | none => []
  | some b => (c.run b session).started

end Compiler

end VolunteerAccess
