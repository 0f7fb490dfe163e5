import Mathlib.Tactic.Tauto
import VolunteerAccess.Proofs.Policy.RuleSets
import VolunteerAccess.Store

/-!
# The access matrix

What the standard policy allows, said without rules, and the proof that the
compiled rules say the same. A table read role by role would not do: an owner's
denial of creation cuts off what a volunteer may create, while its grants add to
what a volunteer may read.

- `Policy.Acts`, `Policy.IsOwn`, `Policy.IsOwned`: how a session and a record are
  related.
- `Policy.Permitted`: the matrix.
- `Policy.ruleSet`: the rule set of each role when no look-up is refused.
- `Policy.compile_standard`: every session has an ability, with the rules of its
  roles in order.
- `Policy.voice`: what one role of a session says; the highest role that says
  anything decides.
- `Policy.can_standard_iff_permitted`: **that ability is the matrix**.
-/

namespace VolunteerAccess

/-! ## The matrix -/

namespace Policy

/-- Whether a session has a person and holds a role. -/
def Acts (s : Session) (r : Role) : Prop := s.identity.isSome = true ∧ s.holds r = true

/-- Whether a record is of the person that asks as a volunteer. -/
def IsOwn (s : Session) (t : Target) : Prop :=
  Acts s .volunteer ∧ ∃ p, s.identity = some p ∧ t.field "person" = some (.text p)

/-- Whether the opportunity of a record was requested by the person that asks. -/
def IsRequested (store : Store) (scope : Scope) (s : Session) (t : Target) : Prop :=
  Acts s .opportunityProvider ∧ ∃ o ∈ store.collection scope,
    s.identity = some o.requestor ∧ t.field "opportunity" = some (.text o.id)

/-- Whether the opportunity of a record is offered by an organisation that the person who
asks administers. -/
def IsOffered (store : Store) (scope : Scope) (s : Session) (t : Target) : Prop :=
  Acts s .organisationAdmin ∧ ∃ o ∈ store.collection scope,
    (∃ org ∈ s.orgAdminFor, o.offerOrg = some org) ∧ t.field "opportunity" = some (.text o.id)

/-- Whether the session owns the opportunity of a record. -/
def IsOwned (store : Store) (scope : Scope) (s : Session) (t : Target) : Prop :=
  IsRequested store scope s t ∨ IsOffered store scope s t

/-- Whether a session acts as an owner of opportunities, of whichever. -/
def ActsAsOwner (s : Session) : Prop := Acts s .opportunityProvider ∨ Acts s .organisationAdmin

/-- What a session may do with which records. -/
def Permitted (store : Store) (s : Session) (t : Target) : Resource → Action → Prop
  | .interest, .list | .interest, .read | .interest, .update =>
    s.holds .administrator = true ∨ IsOwn s t ∨ IsOwned store .active s t
  | .interest, .create =>
    s.holds .administrator = true ∨
      (IsOwn s t ∧ ¬ ActsAsOwner s ∧ t.field "status" = some (.text "interested"))
  | .interest, .delete => s.holds .administrator = true ∨ (IsOwn s t ∧ ¬ ActsAsOwner s)
  | .interestArchive, .list | .interestArchive, .read =>
    s.holds .administrator = true ∨ IsOwn s t ∨ IsOwned store .archived s t
  | .interestArchive, .update => s.holds .administrator = true ∨ IsOwned store .archived s t
  | .interestArchive, .create | .interestArchive, .delete => False

/-! ## Conditions of the policy -/

theorem holds_own_iff (p : String) (t : Target) :
    (own p).holds t = true ↔ t.field "person" = some (.text p) := by
  unfold own
  rw [Condition.holds_eq rfl, Condition.holds_empty, Bool.and_true, Condition.passes_text_iff]

theorem holds_own_eq_status_iff (p st : String) (t : Target) :
    ((own p).eq "status" (.text st)).holds t = true ↔
      t.field "person" = some (.text p) ∧ t.field "status" = some (.text st) := by
  rw [Condition.holds_eq rfl, Bool.and_eq_true, Condition.passes_text_iff, holds_own_iff, and_comm]

theorem holds_ofOpportunities_iff (ids : List String) (t : Target) :
    (ofOpportunities ids).holds t = true ↔
      ∃ id ∈ ids, t.field "opportunity" = some (.text id) := by
  unfold ofOpportunities
  rw [Condition.holds_isIn rfl, Condition.holds_empty, Bool.and_true, Condition.passes_texts_iff]

theorem holds_requestedBy_iff (store : Store) (sc : Scope) (p : String) (t : Target) :
    (ofOpportunities (store.requestedBy sc p)).holds t = true ↔
      ∃ o ∈ store.collection sc, p = o.requestor ∧ t.field "opportunity" = some (.text o.id) := by
  rw [holds_ofOpportunities_iff]
  simp only [Store.requestedBy, List.mem_map, List.mem_filter, beq_iff_eq]
  constructor
  · rintro ⟨_, ⟨o, ⟨ho, hreq⟩, rfl⟩, hfield⟩
    exact ⟨o, ho, hreq.symm, hfield⟩
  · rintro ⟨o, ho, hreq, hfield⟩
    exact ⟨o.id, ⟨o, ⟨ho, hreq.symm⟩, rfl⟩, hfield⟩

theorem holds_offeredBy_iff (store : Store) (sc : Scope) (orgs : List String) (t : Target) :
    (ofOpportunities (store.offeredBy sc orgs)).holds t = true ↔
      ∃ o ∈ store.collection sc, (∃ org ∈ orgs, o.offerOrg = some org) ∧
        t.field "opportunity" = some (.text o.id) := by
  rw [holds_ofOpportunities_iff]
  simp only [Store.offeredBy, List.mem_map, List.mem_filter, Option.any_eq_true,
    List.contains_iff_mem]
  constructor
  · rintro ⟨_, ⟨o, ⟨ho, org, horg, hmem⟩, rfl⟩, hfield⟩
    exact ⟨o, ho, ⟨org, hmem, horg⟩, hfield⟩
  · rintro ⟨o, ho, ⟨org, hmem, horg⟩, hfield⟩
    exact ⟨o.id, ⟨o, ⟨ho, org, horg, hmem⟩, rfl⟩, hfield⟩

/-! ## Rule sets of the roles -/

/-- The opportunities that decide who owns a record. -/
def scope : Resource → Scope
  | .interest => .active
  | .interestArchive => .archived

/-- The rules of a volunteer. -/
def volunteerSet : Resource → String → RuleSet
  | .interest => volunteerRules
  | .interestArchive => volunteerArchiveRules

/-- The rules of an administrator. -/
def administratorSet : Resource → RuleSet
  | .interest => (RuleSet.empty .interest).grantAll
  | .interestArchive => administratorArchiveRules

/-- The rule set of a role when no look-up is refused. -/
def ruleSet (store : Store) (s : Session) (r : Resource) : Role → RuleSet
  | .anonymous => (RuleSet.empty r).denyAll
  | .volunteer => s.identity.elim (.empty r) (volunteerSet r)
  | .opportunityProvider =>
    s.identity.elim (.empty r) fun p => ownerRules r (store.requestedBy (scope r) p)
  | .organisationAdmin =>
    s.identity.elim (.empty r) fun _ => ownerRules r (store.offeredBy (scope r) s.orgAdminFor)
  | .administrator => administratorSet r

/-- Without refusals each role's rules are those of its set. -/
theorem liveRules_eq (store : Store) (s : Session) (role : Role) :
    liveRules (store.ownership .none) s role = .ok (ruleSet store s .interest role) := by
  cases role <;> unfold liveRules ownedIds ruleSet <;> cases s.identity <;> rfl

theorem archiveRules_eq (store : Store) (s : Session) (role : Role) :
    archiveRules (store.ownership .none) s role = .ok (ruleSet store s .interestArchive role) := by
  cases role <;> unfold archiveRules ownedIds ruleSet <;> cases s.identity <;> rfl

/-- The rules of every role are for the resource and test only its fields. -/
theorem wellFormed_ruleSet (store : Store) (s : Session) (r : Resource) (role : Role) :
    (ruleSet store s r role).WellFormed r := by
  have howner (ids : List String) : (ownerRules r ids).WellFormed r := by
    unfold ownerRules
    cases r <;> simp [ofOpportunities, Condition.mem_fields_isIn, Resource.hasField,
      Resource.fields]
  have hvolunteer (p : String) : (volunteerSet r p).WellFormed r := by
    cases r with
    | interest =>
      simp [volunteerSet, volunteerRules, own, Condition.mem_fields_eq, Resource.hasField,
        Resource.fields]
    | interestArchive =>
      simp [volunteerSet, volunteerArchiveRules, own, Condition.mem_fields_eq, Resource.hasField,
        Resource.fields]
  unfold ruleSet
  cases role with
  | anonymous => simp [RuleSet.denyAll, Action.all]
  | administrator =>
    cases r with
    | interest => simp [administratorSet, RuleSet.grantAll, Action.all]
    | interestArchive => simp [administratorSet, administratorArchiveRules]
  | volunteer | opportunityProvider | organisationAdmin =>
    cases s.identity with
    | none => exact RuleSet.wellFormed_empty
    | some p => first | exact hvolunteer p | exact howner _

theorem builds_of_total {b : Builder} {s : Session} {set : Role → RuleSet}
    (hroles : b.roles = Role.all) (h : ∀ role, (b.build s role).outcome = .ok (set role)) :
    Builds (Compiler.builds b s) (s.roles.toList.map set) := by
  unfold Builds Compiler.builds
  rw [hroles, List.filter_eq_self.2 fun r _ => List.contains_iff_mem.2 (Role.mem_all r),
    List.forall₂_map_left_iff, List.forall₂_map_right_iff, List.forall₂_same]
  exact fun role _ => h role

/-- Every session has an ability, which joins the rules of its roles in their order. -/
theorem compile_standard (concurrent : Bool) (store : Store) (s : Session) (r : Resource) :
    (standard concurrent (store.ownership .none)).compile s r =
      .ok { subject := r
            rules := s.roles.toList.flatMap fun role => (ruleSet store s r role).rules } := by
  have hbuilds : ∃ b, (standard concurrent (store.ownership .none)).builder? r = some b ∧
      Builds (Compiler.builds b s) (s.roles.toList.map (ruleSet store s r)) := by
    cases r with
    | interest => exact ⟨_, rfl, builds_of_total rfl (liveRules_eq store s)⟩
    | interestArchive => exact ⟨_, rfl, builds_of_total rfl (archiveRules_eq store s)⟩
  obtain ⟨b, hb, hsets⟩ := hbuilds
  refine Compiler.compile_eq_ok_iff.2 ⟨b, hb, _, hsets, fun set hset => ?_, ?_⟩
  · obtain ⟨role, -, rfl⟩ := List.mem_map.1 hset
    exact wellFormed_ruleSet store s r role
  · rw [List.flatMap_map]

/-! ## What each role of a session says -/

/-- What a role says of an action on a record, which is nothing if it is not held. -/
def voice (store : Store) (s : Session) (action : Action) (t : Target) (role : Role) :
    Option Bool :=
  if s.holds role then (ruleSet store s t.resource role).verdict action t else none

/-- What a role of a session grants, whatever the other roles say. -/
def Grants (store : Store) (s : Session) (t : Target) : Role → Resource → Action → Prop
  | .volunteer, .interest, .create => IsOwn s t ∧ t.field "status" = some (.text "interested")
  | .volunteer, .interest, _ => IsOwn s t
  | .volunteer, .interestArchive, .list | .volunteer, .interestArchive, .read => IsOwn s t
  | .opportunityProvider, r, .list | .opportunityProvider, r, .read
  | .opportunityProvider, r, .update => IsRequested store (scope r) s t
  | .organisationAdmin, r, .list | .organisationAdmin, r, .read
  | .organisationAdmin, r, .update => IsOffered store (scope r) s t
  | .administrator, .interest, _ | .administrator, .interestArchive, .list
  | .administrator, .interestArchive, .read
  | .administrator, .interestArchive, .update => s.holds .administrator = true
  | _, _, _ => False

/-- What a role of a session denies, whatever the other roles say. -/
def Denies (s : Session) : Role → Resource → Action → Prop
  | .anonymous, _, _ => s.holds .anonymous = true
  | .volunteer, .interestArchive, .create | .volunteer, .interestArchive, .update
  | .volunteer, .interestArchive, .delete => Acts s .volunteer
  | .opportunityProvider, _, .create
  | .opportunityProvider, _, .delete => Acts s .opportunityProvider
  | .organisationAdmin, _, .create | .organisationAdmin, _, .delete => Acts s .organisationAdmin
  | .administrator, .interestArchive, .create
  | .administrator, .interestArchive, .delete => s.holds .administrator = true
  | _, _, _ => False

/-- A verdict that is a grant where `yes` holds and a denial where `no` holds. -/
structure Says (v : Option Bool) (yes no : Prop) : Prop where
  grants : v = some true ↔ yes
  denies : v = some false ↔ no

/-- A verdict that is asked for first counts wherever it is given. -/
theorem Says.getD_or {v : Option Bool} {yes no : Prop} (h : Says v yes no) (w : Option Bool) :
    (v.or w).getD false = true ↔ yes ∨ (¬ no ∧ w.getD false = true) := by
  rw [← h.grants, ← h.denies]
  cases v with
  | none => simp
  | some b => cases b <;> simp

/-- The rules of a volunteer grant what is own, and creation only in the initial status. -/
theorem verdict_volunteerRules {t : Target} (h : t.resource = .interest) (p : String)
    (action : Action) :
    (volunteerRules p).verdict action t =
      match action with
      | .create =>
        if ((own p).eq "status" (.text "interested")).holds t then some true else none
      | _ => if (own p).holds t then some true else none := by
  unfold volunteerRules
  rw [show Status.initial.name = "interested" from rfl]
  cases action <;> simp [h]

/-- On archived interests they grant reading what is own and deny all changes. -/
theorem verdict_volunteerArchiveRules {t : Target} (h : t.resource = .interestArchive)
    (p : String) (action : Action) :
    (volunteerArchiveRules p).verdict action t =
      match action with
      | .list | .read => if (own p).holds t then some true else none
      | _ => some false := by
  unfold volunteerArchiveRules
  cases action <;> simp [h]

variable (store : Store) (s : Session) (action : Action) (t : Target)

theorem says_anonymous :
    Says (voice store s action t .anonymous) (Grants store s t .anonymous t.resource action)
      (Denies s .anonymous t.resource action) := by
  have hset : (ruleSet store s t.resource .anonymous).verdict action t = some false := by
    simp only [ruleSet, RuleSet.denyAll, Action.all, List.foldl]
    cases action <;> simp
  unfold voice
  rw [hset]
  constructor <;> simp [Grants, Denies]

theorem says_volunteer :
    Says (voice store s action t .volunteer) (Grants store s t .volunteer t.resource action)
      (Denies s .volunteer t.resource action) := by
  unfold voice ruleSet
  cases hid : s.identity with
  | none =>
    cases t.resource <;> cases action <;> constructor <;> simp [hid, Grants, Denies, IsOwn, Acts]
  | some p =>
    cases hheld : s.holds .volunteer with
    | false =>
      cases t.resource <;> cases action <;> constructor <;>
        simp [hheld, Grants, Denies, IsOwn, Acts]
    | true =>
      cases hr : t.resource with
      | interest =>
        simp only [volunteerSet, Option.elim_some, verdict_volunteerRules hr]
        cases action <;> constructor <;>
          simp [hid, hheld, Grants, Denies, IsOwn, Acts, holds_own_iff, holds_own_eq_status_iff]
      | interestArchive =>
        simp only [volunteerSet, Option.elim_some, verdict_volunteerArchiveRules hr]
        cases action <;> constructor <;>
          simp [hid, hheld, Grants, Denies, IsOwn, Acts, holds_own_iff]

/-- The rules of an owner grant what is owned and deny creation and deletion. -/
theorem says_ownerRules (ids : List String) :
    Says ((ownerRules t.resource ids).verdict action t)
      (match action with
        | .list | .read | .update => (ofOpportunities ids).holds t = true
        | .create | .delete => False)
      (match action with
        | .list | .read | .update => False
        | .create | .delete => True) := by
  unfold ownerRules
  cases action <;> constructor <;> simp

/-- A role with the rules of an owner says what they say, if the session acts in that role. -/
theorem says_owner {role : Role} {ids : String → List String} {owned : Prop}
    (hset : ruleSet store s t.resource role =
      s.identity.elim (.empty t.resource) fun p => ownerRules t.resource (ids p))
    (howned : owned ↔
      Acts s role ∧ ∃ p, s.identity = some p ∧ (ofOpportunities (ids p)).holds t = true) :
    Says (voice store s action t role)
      (match action with
        | .list | .read | .update => owned
        | .create | .delete => False)
      (match action with
        | .list | .read | .update => False
        | .create | .delete => Acts s role) := by
  unfold voice
  rw [hset, howned]
  cases hid : s.identity with
  | none => cases action <;> constructor <;> simp [Acts, hid]
  | some p =>
    cases hheld : s.holds role with
    | false => cases action <;> constructor <;> simp [Acts, hheld]
    | true =>
      have h := says_ownerRules action t (ids p)
      refine ⟨h.grants.trans ?_, h.denies.trans ?_⟩
      · cases action <;> simp [Acts, hid, hheld]
      · cases action <;> simp [Acts, hid, hheld]

theorem says_opportunityProvider :
    Says (voice store s action t .opportunityProvider)
      (Grants store s t .opportunityProvider t.resource action)
      (Denies s .opportunityProvider t.resource action) := by
  have howned : IsRequested store (scope t.resource) s t ↔ Acts s .opportunityProvider ∧
      ∃ p, s.identity = some p ∧
        (ofOpportunities (store.requestedBy (scope t.resource) p)).holds t = true := by
    unfold IsRequested
    simp only [holds_requestedBy_iff]
    refine and_congr_right fun _ => ⟨?_, ?_⟩
    · rintro ⟨o, ho, hid, hfield⟩
      exact ⟨o.requestor, hid, o, ho, rfl, hfield⟩
    · rintro ⟨_, hid, o, ho, rfl, hfield⟩
      exact ⟨o, ho, hid, hfield⟩
  have h := says_owner store s action t rfl howned
  cases action <;> exact h

theorem says_organisationAdmin :
    Says (voice store s action t .organisationAdmin)
      (Grants store s t .organisationAdmin t.resource action)
      (Denies s .organisationAdmin t.resource action) := by
  have howned : IsOffered store (scope t.resource) s t ↔ Acts s .organisationAdmin ∧
      ∃ p, s.identity = some p ∧
        (ofOpportunities (store.offeredBy (scope t.resource) s.orgAdminFor)).holds t = true := by
    unfold IsOffered
    rw [← holds_offeredBy_iff]
    refine and_congr_right fun hacts => ⟨fun h => ?_, fun ⟨_, _, h⟩ => h⟩
    obtain ⟨p, hid⟩ := Option.isSome_iff_exists.1 hacts.1
    exact ⟨p, hid, h⟩
  have h := says_owner store s action t rfl howned
  cases action <;> exact h

theorem says_administrator :
    Says (voice store s action t .administrator) (Grants store s t .administrator t.resource action)
      (Denies s .administrator t.resource action) := by
  unfold voice
  cases hr : t.resource with
  | interest =>
    cases action <;> constructor <;>
      simp [ruleSet, administratorSet, RuleSet.grantAll, Action.all, hr, Grants, Denies]
  | interestArchive =>
    cases action <;> constructor <;>
      simp [ruleSet, administratorSet, administratorArchiveRules, hr, Grants, Denies]

/-! ## The roles together -/

/-- The roles are asked in turn, the highest one first. -/
theorem verdict_roles : Ability.verdict
    (s.roles.toList.flatMap fun role => (ruleSet store s t.resource role).rules) action t =
      (voice store s action t .administrator).or ((voice store s action t .organisationAdmin).or
        ((voice store s action t .opportunityProvider).or
          ((voice store s action t .volunteer).or (voice store s action t .anonymous)))) := by
  rw [Ability.verdict_flatMap_toList]
  show List.findSome? (voice store s action t)
    [.administrator, .organisationAdmin, .opportunityProvider, .volunteer, .anonymous] = _
  simp only [List.findSome?_cons, List.findSome?_nil]
  cases voice store s action t .administrator <;>
    cases voice store s action t .organisationAdmin <;>
    cases voice store s action t .opportunityProvider <;>
    cases voice store s action t .volunteer <;> cases voice store s action t .anonymous <;> rfl

/-- Whether a role grants an action that no higher role denies. -/
def GrantedByRoles : Prop :=
  Grants store s t .administrator t.resource action ∨
    ¬ Denies s .administrator t.resource action ∧
  (Grants store s t .organisationAdmin t.resource action ∨
    ¬ Denies s .organisationAdmin t.resource action ∧
  (Grants store s t .opportunityProvider t.resource action ∨
    ¬ Denies s .opportunityProvider t.resource action ∧
  Grants store s t .volunteer t.resource action))

theorem verdict_roles_iff : (Ability.verdict
    (s.roles.toList.flatMap fun role => (ruleSet store s t.resource role).rules) action t).getD
      false = true ↔ GrantedByRoles store s action t := by
  -- Below the volunteer stands only the anonymous role, which grants nothing.
  have hlast : ¬ (voice store s action t .anonymous).getD false = true := by
    have hanonymous := (says_anonymous store s action t).getD_or none
    rw [Option.or_none] at hanonymous
    rw [hanonymous]
    rintro (hgrants | ⟨-, hsilent⟩)
    · exact hgrants
    · cases hsilent
  unfold GrantedByRoles
  rw [verdict_roles, (says_administrator store s action t).getD_or,
    (says_organisationAdmin store s action t).getD_or,
    (says_opportunityProvider store s action t).getD_or,
    (says_volunteer store s action t).getD_or]
  simp only [hlast, Bool.false_eq_true, and_false, or_false]

/-- What the roles grant together is the matrix. -/
theorem grantedByRoles_iff :
    GrantedByRoles store s action t ↔ Permitted store s t t.resource action := by
  unfold GrantedByRoles
  -- With the rows of the matrix put in, each entry is a propositional identity.
  cases t.resource <;> cases action <;>
    simp only [Grants, Denies, Permitted, IsOwned, ActsAsOwner, scope] <;> tauto

/-- **The compiled ability is the access matrix**: every session has an ability, which allows
exactly what the matrix permits, of every record that has the resource's fields or lacks some. -/
theorem can_standard_iff_permitted (concurrent : Bool) (store : Store) (s : Session)
    (r : Resource) :
    ∃ a, (standard concurrent (store.ownership .none)).compile s r = .ok a ∧
      ∀ action field, a.can action { resource := r, field } = true ↔
        Permitted store s { resource := r, field } r action := by
  refine ⟨_, compile_standard concurrent store s r, fun action field => ?_⟩
  rw [Ability.can_eq_verdict]
  exact (verdict_roles_iff store s action { resource := r, field }).trans
    (grantedByRoles_iff store s action { resource := r, field })

end Policy

end VolunteerAccess
