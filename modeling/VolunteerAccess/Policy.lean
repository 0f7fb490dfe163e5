import VolunteerAccess.Compilation
import VolunteerAccess.Interest

/-!
# The standard policy

Which rules each role has for interests and for archived interests.

For interests:

| role                 | list, read, update    | create                  | delete |
|----------------------|-----------------------|-------------------------|--------|
| anonymous            | denied                | denied                  | denied |
| volunteer            | own                   | own, status interested  | own    |
| opportunity provider | requested opportunity | denied                  | denied |
| organisation admin   | opportunity of an own organisation | denied     | denied |
| administrator        | all                   | all                     | all    |

Archived interests are read-mostly: nobody may create or delete one, and only
owners of the opportunity and administrators may update one.

- `Ownership`: the look-ups that the owners' rules need.
- `Policy.liveRules`, `Policy.archiveRules`: the rules of one role.
- `Policy.standard`: the compiler with both builders.
-/

namespace VolunteerAccess

/-- Which collection of opportunities a look-up reads. -/
inductive Scope where
  | active
  | archived
deriving DecidableEq, Repr, Inhabited

/-- The name of the collection. -/
def Scope.collection : Scope → String
  | .active => "opportunities"
  | .archived => "archived_opportunities"

/-- Look-ups of owned opportunities. Either may fail. -/
structure Ownership where
  /-- The ids of the opportunities that a person requested. -/
  requestedBy : Scope → String → Except LookupFailure (List String)
  /-- The ids of the opportunities that one of some organisations offers. -/
  offeredBy : Scope → List String → Except LookupFailure (List String)

namespace Policy

/-- Records of the person. -/
def own (person : String) : Condition := Condition.empty.eq "person" (.text person)

/-- Records of one of the opportunities. -/
def ofOpportunities (ids : List String) : Condition :=
  Condition.empty.isIn "opportunity" (ids.map .text)

/-- The ids that a session owns through a role, or `none` for a session without a person. -/
def ownedIds (lookup : Ownership) (scope : Scope) (session : Session) (role : Role) :
    Except BuildFailure (Option (List String)) :=
  match session.identity with
  | none => .ok none
  | some person =>
    let ids := match role with
      | .organisationAdmin => lookup.offeredBy scope session.orgAdminFor
      | _ => lookup.requestedBy scope person
    match ids with
    | .ok ids => .ok (some ids)
    | .error e => .error (.lookup role e)

/-- The rules of an owner of opportunities, for either resource. -/
def ownerRules (subject : Resource) (ids : List String) : RuleSet :=
  let owned := ofOpportunities ids
  ((((RuleSet.empty subject).grantIf .list owned).grantIf .read owned).deny .create
    |>.grantIf .update owned).deny .delete

/-- The rules of a volunteer for interests. -/
def volunteerRules (person : String) : RuleSet :=
  let mine := own person
  ((((RuleSet.empty .interest).grantIf .list mine).grantIf .read mine).grantIf .create
    (mine.eq "status" (.text Status.initial.name))
    |>.grantIf .update mine).grantIf .delete mine

/-- The rules of a volunteer for archived interests. -/
def volunteerArchiveRules (person : String) : RuleSet :=
  let mine := own person
  ((((RuleSet.empty .interestArchive).grantIf .list mine).grantIf .read mine).deny .create
    |>.deny .update).deny .delete

/-- The rules of an administrator for archived interests. -/
def administratorArchiveRules : RuleSet :=
  ((((RuleSet.empty .interestArchive).grant .read).grant .list).grant .update
    |>.deny .delete).deny .create

/-- The rules of a role for interests. -/
def liveRules (lookup : Ownership) (session : Session) : Role → Except BuildFailure RuleSet
  | .anonymous => .ok (RuleSet.empty .interest).denyAll
  | .volunteer => .ok (session.identity.elim (.empty .interest) volunteerRules)
  | .opportunityProvider =>
    (ownedIds lookup .active session .opportunityProvider).map
      (·.elim (.empty .interest) (ownerRules .interest))
  | .organisationAdmin =>
    (ownedIds lookup .active session .organisationAdmin).map
      (·.elim (.empty .interest) (ownerRules .interest))
  | .administrator => .ok (RuleSet.empty .interest).grantAll

/-- The rules of a role for archived interests. -/
def archiveRules (lookup : Ownership) (session : Session) : Role → Except BuildFailure RuleSet
  | .anonymous => .ok (RuleSet.empty .interestArchive).denyAll
  | .volunteer => .ok (session.identity.elim (.empty .interestArchive) volunteerArchiveRules)
  | .opportunityProvider =>
    (ownedIds lookup .archived session .opportunityProvider).map
      (·.elim (.empty .interestArchive) (ownerRules .interestArchive))
  | .organisationAdmin =>
    (ownedIds lookup .archived session .organisationAdmin).map
      (·.elim (.empty .interestArchive) (ownerRules .interestArchive))
  | .administrator => .ok administratorArchiveRules

/-- The builder for interests. -/
def liveBuilder (lookup : Ownership) : Builder :=
  { subject := .interest, roles := Role.all,
    build := fun session role => { yields := 0, outcome := liveRules lookup session role } }

/-- The builder for archived interests. -/
def archiveBuilder (lookup : Ownership) : Builder :=
  { subject := .interestArchive, roles := Role.all,
    build := fun session role => { yields := 0, outcome := archiveRules lookup session role } }

/-- The compiler of the standard policy. -/
def standard (concurrent : Bool) (lookup : Ownership) : Compiler :=
  ((Compiler.empty concurrent).register (liveBuilder lookup)).register (archiveBuilder lookup)

end Policy

end VolunteerAccess
