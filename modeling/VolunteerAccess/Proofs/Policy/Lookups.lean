import VolunteerAccess.Policy
import VolunteerAccess.Proofs.Compilation.Failures

/-!
# Which sessions need a look-up

Two roles have rules that depend on a look-up of owned opportunities, and only for
a session with a person. Every other session is compiled without one.

- `Ownership.Refuses`: a look-up that a session needs fails, for one of its roles.
- `Ownership.Completes`: look-ups that never fail and agree with others wherever those
  do not fail.
- `Policy.fails_standard_iff`: a build fails **only because of a refused look-up**, and the
  failure names its role.
- `Policy.compile_of_completes`: where no look-up is refused, nobody can tell the others
  from look-ups that never fail.
-/

namespace VolunteerAccess

namespace Ownership

/-- A look-up of live opportunities fails that the rules of a role need for a session. -/
inductive Refuses (lookup : Ownership) (session : Session) : Role → LookupFailure → Prop where
  | requested {person : String} {e : LookupFailure} (hperson : session.identity = some person)
      (hheld : session.holds .opportunityProvider = true)
      (he : lookup.requestedBy .active person = .error e) :
      Refuses lookup session .opportunityProvider e
  | offered {person : String} {e : LookupFailure} (hperson : session.identity = some person)
      (hheld : session.holds .organisationAdmin = true)
      (he : lookup.offeredBy .active session.orgAdminFor = .error e) :
      Refuses lookup session .organisationAdmin e

theorem Refuses.holds {lookup : Ownership} {session : Session} {role : Role} {e : LookupFailure}
    (h : lookup.Refuses session role e) : session.holds role = true := by
  cases h with
  | requested _ hheld _ | offered _ hheld _ => exact hheld

/-- Look-ups never fail, and give what others give wherever those do not fail. -/
structure Completes (total lookup : Ownership) : Prop where
  requestedBy : ∀ scope person, ∃ ids, total.requestedBy scope person = .ok ids ∧
    ∀ ids', lookup.requestedBy scope person = .ok ids' → ids' = ids
  offeredBy : ∀ scope orgs, ∃ ids, total.offeredBy scope orgs = .ok ids ∧
    ∀ ids', lookup.offeredBy scope orgs = .ok ids' → ids' = ids

end Ownership

namespace Policy

variable {lookup total : Ownership} {session : Session}

/-! ## Failed builds -/

/-- What is looked up for the rules of a role. -/
def asked (lookup : Ownership) (scope : Scope) (session : Session) (person : String) :
    Role → Except LookupFailure (List String)
  | .organisationAdmin => lookup.offeredBy scope session.orgAdminFor
  | _ => lookup.requestedBy scope person

/-- For a person the owned opportunities are those that are looked up. -/
theorem ownedIds_of_person {scope : Scope} {role : Role} {person : String}
    (h : session.identity = some person) : ownedIds lookup scope session role =
      ((asked lookup scope session person role).mapError (.lookup role)).map some := by
  unfold ownedIds
  cases role with
  | organisationAdmin =>
    simp only [h, asked]
    cases lookup.offeredBy scope session.orgAdminFor <;> rfl
  | anonymous | volunteer | opportunityProvider | administrator =>
    simp only [h, asked]
    cases lookup.requestedBy scope person <;> rfl

/-- The failure of a look-up for a person is the only one, and it is reported with the role. -/
theorem ownedIds_eq_error_iff {scope : Scope} {role : Role} {e : BuildFailure} :
    ownedIds lookup scope session role = .error e ↔
      ∃ person cause, session.identity = some person ∧ e = .lookup role cause ∧
        asked lookup scope session person role = .error cause := by
  cases hperson : session.identity with
  | none =>
    unfold ownedIds
    rw [hperson]
    refine iff_of_false (fun h => by cases h) ?_
    rintro ⟨person, cause, hnone, -⟩
    cases hnone
  | some person =>
    rw [ownedIds_of_person hperson, map_eq_error_iff, mapError_eq_error_iff]
    constructor
    · rintro ⟨cause, hcause, rfl⟩
      exact ⟨person, cause, rfl, rfl, hcause⟩
    · rintro ⟨_, cause, hsome, rfl, hcause⟩
      cases hsome
      exact ⟨cause, hcause, rfl⟩

/-- The rules of a role are missing only because of a refused look-up. -/
theorem liveRules_eq_error_iff {role : Role} (hheld : session.holds role = true)
    {e : BuildFailure} : liveRules lookup session role = .error e ↔
      ∃ cause, e = .lookup role cause ∧ lookup.Refuses session role cause := by
  cases role with
  | anonymous | volunteer | administrator =>
    refine iff_of_false (fun h => by cases h) ?_
    rintro ⟨cause, -, hrefuses⟩
    cases hrefuses
  | opportunityProvider =>
    refine map_eq_error_iff.trans (ownedIds_eq_error_iff.trans ⟨?_, ?_⟩)
    · rintro ⟨person, cause, hperson, rfl, he⟩
      exact ⟨cause, rfl, .requested hperson hheld he⟩
    · rintro ⟨cause, rfl, ⟨hperson, -, he⟩⟩
      exact ⟨_, cause, hperson, rfl, he⟩
  | organisationAdmin =>
    refine map_eq_error_iff.trans (ownedIds_eq_error_iff.trans ⟨?_, ?_⟩)
    · rintro ⟨person, cause, hperson, rfl, he⟩
      exact ⟨cause, rfl, .offered hperson hheld he⟩
    · rintro ⟨cause, rfl, hrefuses⟩
      cases hrefuses with
      | offered hperson _ he => exact ⟨_, cause, hperson, rfl, he⟩

/-- A build for interests fails only because of a refused look-up. -/
theorem fails_standard_iff {concurrent : Bool} {role : Role} {e : BuildFailure} :
    (standard concurrent lookup).Fails session .interest role e ↔
      ∃ cause, e = .lookup role cause ∧ lookup.Refuses session role cause := by
  constructor
  · rintro ⟨b, hb, hheld, -, he⟩
    cases hb
    exact (liveRules_eq_error_iff hheld).1 he
  · rintro ⟨cause, rfl, hrefuses⟩
    have hheld := hrefuses.holds
    have he := (liveRules_eq_error_iff hheld).2 ⟨cause, rfl, hrefuses⟩
    exact ⟨_, rfl, hheld, Role.mem_all role, he⟩

/-! ## Look-ups that never fail -/

/-- The rules of the roles that are held depend on the look-ups of these roles only. -/
theorem liveRules_congr {lookup' : Ownership}
    (hrequested : ∀ person, session.identity = some person →
      session.holds .opportunityProvider = true →
      lookup.requestedBy .active person = lookup'.requestedBy .active person)
    (hoffered : ∀ person, session.identity = some person →
      session.holds .organisationAdmin = true →
      lookup.offeredBy .active session.orgAdminFor = lookup'.offeredBy .active session.orgAdminFor)
    {role : Role} (hheld : session.holds role = true) :
    liveRules lookup session role = liveRules lookup' session role := by
  unfold liveRules ownedIds
  cases hperson : session.identity with
  | none => cases role <;> rfl
  | some person =>
    cases role with
    | anonymous | volunteer | administrator => rfl
    | opportunityProvider => simp only [hrequested person hperson hheld]
    | organisationAdmin => simp only [hoffered person hperson hheld]

theorem liveRules_of_completes (htotal : total.Completes lookup)
    (h : ∀ role cause, ¬ lookup.Refuses session role cause) {role : Role}
    (hheld : session.holds role = true) :
    liveRules lookup session role = liveRules total session role := by
  refine liveRules_congr (fun person hperson hprovider => ?_)
    (fun person hperson hadmin => ?_) hheld
  · obtain ⟨ids, hids, hagree⟩ := htotal.requestedBy .active person
    cases hanswer : lookup.requestedBy .active person with
    | error e => exact absurd (.requested hperson hprovider hanswer) (h _ e)
    | ok ids' => rw [hids, hagree ids' hanswer]
  · obtain ⟨ids, hids, hagree⟩ := htotal.offeredBy .active session.orgAdminFor
    cases hanswer : lookup.offeredBy .active session.orgAdminFor with
    | error e => exact absurd (.offered hperson hadmin hanswer) (h _ e)
    | ok ids' => rw [hids, hagree ids' hanswer]

/-- Where no look-up is refused, the result is that of look-ups that never fail. -/
theorem compile_of_completes (htotal : total.Completes lookup)
    (h : ∀ role cause, ¬ lookup.Refuses session role cause) (concurrent : Bool)
    (turns : Role → Nat) :
    ((standard concurrent lookup).scheduled concurrent turns).compile session .interest =
      ((standard concurrent total).scheduled concurrent turns).compile session .interest := by
  have hbuilder (l : Ownership) : ((standard concurrent l).scheduled concurrent turns).builder?
      .interest = some ((liveBuilder l).retimed turns) := rfl
  refine Compiler.compile_congr (hbuilder lookup) (hbuilder total) rfl ?_
  refine Compiler.builds_congr rfl fun role hheld => ?_
  show ({ yields := turns role, outcome := liveRules lookup session role } : Build) =
    { yields := turns role, outcome := liveRules total session role }
  rw [liveRules_of_completes htotal h hheld]

/-- A refused look-up is the result, whatever the timing. -/
theorem compile_of_refuses (h : ∃ role cause, lookup.Refuses session role cause)
    (concurrent : Bool) (turns : Role → Nat) :
    ∃ role cause, lookup.Refuses session role cause ∧
      ((standard concurrent lookup).scheduled concurrent turns).compile session .interest =
        .error (.lookup role cause) := by
  obtain ⟨role, cause, hrefuses⟩ := h
  have hfails : (standard concurrent lookup).Fails session .interest role (.lookup role cause) :=
    fails_standard_iff.2 ⟨cause, rfl, hrefuses⟩
  obtain ⟨role', e, hfails', hcompile⟩ :=
    Compiler.compile_scheduled_of_fails ⟨role, _, hfails⟩ concurrent turns
  obtain ⟨cause', rfl, hrefuses'⟩ := fails_standard_iff.1 hfails'
  exact ⟨role', cause', hrefuses', hcompile⟩

end Policy

end VolunteerAccess
