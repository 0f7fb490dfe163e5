import VolunteerAccess.Proofs.Policy.Volunteers
import VolunteerAccess.Proofs.Service.Guarding
import VolunteerAccess.Proofs.Service.Numbering

/-!
# Volunteers are confined to their own interests

Under the standard policy and the standard guard, a session that is at most a
volunteer's changes nothing but its own interests, and these only in the ways
that are meant for it, whatever other sessions do in between. Four things have
to hold together for that: the policy grants only what is own, an update is
judged both before and after the change, the guard binds volunteers, and a new
interest never takes the place of another one.

- `Interest.Progresses`: what a volunteer may make of an own interest.
- `Store.OwnChange`: the changes of own interests that are allowed.
- `Store.Confined`: a step within these bounds.
- `Service.confined_handle`: one request; `Service.run_confined`: **every request
  of a run**.
-/

namespace VolunteerAccess

/-! ## Changes that are allowed -/

/-- What a volunteer may make of an own interest: messages are added at the end, and an
invitation is accepted or a commitment taken back. -/
structure Interest.Progresses (i j : Interest) : Prop where
  id : j.id = i.id
  person : j.person = i.person
  opportunity : j.opportunity = i.opportunity
  dateAdded : j.dateAdded = i.dateAdded
  messages : i.messages <+: j.messages
  status : j.status = i.status ∨ (i.status = .invited ∧ j.status = .committed) ∨
    (i.status = .committed ∧ j.status = .interested)

namespace Store

/-- A change of at most one interest, which is of a person. -/
inductive OwnChange (person : Option String) (d : Dict Interest) : Dict Interest → Prop where
  | unchanged : OwnChange person d d
  | deleted {k : String} {i : Interest} (hi : d.get? k = some i) (hown : person = some i.person) :
      OwnChange person d (d.erase k)
  | added {i : Interest} (hunused : d.get? i.id = none) (hown : person = some i.person)
      (hstatus : i.status = .interested) : OwnChange person d (d.insert i.id i)
  | changed {i j : Interest} (hi : d.get? i.id = some i) (hown : person = some i.person)
      (hij : i.Progresses j) : OwnChange person d (d.insert i.id j)

/-- A step that keeps all interests of other people, and changes at most one interest of the
person. -/
structure Confined (person : Option String) (s t : Store) : Prop where
  others : ∀ k x, person ≠ some x.person →
    (t.interests.get? k = some x ↔ s.interests.get? k = some x)
  own : OwnChange person s.interests t.interests
  archivedInterests : t.archivedInterests = s.archivedInterests

/-- Interests of other people are kept by a change of an own one. -/
theorem OwnChange.others {person : Option String} {d d' : Dict Interest}
    (h : OwnChange person d d') (k : String) {x : Interest} (hx : person ≠ some x.person) :
    d'.get? k = some x ↔ d.get? k = some x := by
  -- Only one key changes, and nothing of somebody else is there before or after.
  cases h with
  | unchanged => rfl
  | @deleted l i hi hown =>
    by_cases hk : k = l
    · subst hk
      rw [Dict.get?_erase_self, hi]
      refine iff_of_false (fun h => by cases h) fun h => ?_
      cases h
      exact hx hown
    · rw [Dict.get?_erase_of_ne d hk]
  | @added i hunused hown hstatus =>
    by_cases hk : k = i.id
    · subst hk
      rw [Dict.get?_insert_self, hunused]
      refine iff_of_false (fun h => ?_) fun h => by cases h
      cases h
      exact hx hown
    · rw [Dict.get?_insert_of_ne d i hk]
  | @changed i j hi hown hij =>
    by_cases hk : k = i.id
    · subst hk
      rw [Dict.get?_insert_self, hi]
      refine iff_of_false (fun h => ?_) fun h => ?_
      · cases h
        rw [hij.person] at hx
        exact hx hown
      · cases h
        exact hx hown
    · rw [Dict.get?_insert_of_ne d j hk]

end Store

/-! ## What the policy and the guard let pass -/

/-- The built-in table permits two changes. -/
theorem TransitionTable.permits_interest_iff (source target : Status) :
    TransitionTable.interest.permits source.name target.name = true ↔
      (source = .invited ∧ target = .committed) ∨ (source = .committed ∧ target = .interested) := by
  cases source <;> cases target <;> decide

namespace Service

theorem field_person_requestedRecord (person : String) (opportunity : Option String)
    (status : String) : (requestedRecord (some person) opportunity status).target.field "person" =
      some (.text person) := by
  show Option.filter _ (Dict.get? _ "person") = _
  unfold requestedRecord Record.set
  rw [Dict.get?_insert_of_ne _ _ (by decide), Dict.get?_insert_of_ne _ _ (by decide),
    Dict.get?_insert_self]
  rfl

theorem field_status_requestedRecord (person opportunity : Option String) (status : String) :
    (requestedRecord person opportunity status).target.field "status" = some (.text status) := by
  show Option.filter _ (Dict.get? _ "status") = _
  unfold requestedRecord Record.set
  rw [Dict.get?_insert_self]
  rfl

variable {call : Call} {s : Store} {concurrent : Bool} {a : Ability}

/-- What the ability of an unprivileged session allows is its own. -/
theorem isOwn_of_can (hroles : call.session.Unprivileged)
    (ha : (standard concurrent .standard).ability call s = .ok a) {action : Action} {t : Target}
    (ht : t.resource = .interest) (hcan : a.can action t = true) :
    Policy.IsOwn call.session t ∧
      (action = .create → t.field "status" = some (.text "interested")) := by
  rw [Ability.can_eq_verdict] at hcan
  exact Policy.isOwn_of_granted hroles ((ability_eq_ok_iff _ call).1 ha) ht hcan

/-- A stored interest is one's own if it is of the own person. -/
theorem own_of_isOwn {i : Interest} (h : Policy.IsOwn call.session i.target) :
    call.session.holds .volunteer = true ∧ call.session.identity = some i.person := by
  obtain ⟨⟨-, hholds⟩, p, hp, hfield⟩ := h
  have hperson : Json.text i.person = .text p := Option.some.inj hfield
  rw [Json.text.injEq] at hperson
  exact ⟨hholds, hperson ▸ hp⟩

/-- A volunteer's update was judged before it: the interest is an own one, and makes a step
that is meant for volunteers. -/
theorem progresses_of_revision (hroles : call.session.Unprivileged) {id : String}
    {change : InterestUpdate} {i : Interest} {target : Option Status}
    (h : Revision (standard concurrent .standard) call id change s a i target) :
    call.session.identity = some i.person ∧ i.Progresses (i.amended target change.messages) := by
  obtain ⟨hownTarget, -⟩ := isOwn_of_can hroles h.ability rfl h.readable
  obtain ⟨hheld, hown⟩ := own_of_isOwn hownTarget
  refine ⟨hown, rfl, rfl, rfl, rfl, List.prefix_append _ _, ?_⟩
  cases target with
  | none => exact .inl rfl
  | some st =>
    -- The session holds the role of the built-in table, at its own interest.
    have hbinds : (standard concurrent .standard).guard.Binds call.session i .interest :=
      ⟨rfl, rfl, hheld, hown⟩
    exact .inr ((TransitionTable.permits_interest_iff i.status st).1
      (permits_of_judge hbinds h.judged))

/-! ## One request -/

/-- A creation adds an own interest, in the initial status and under a number that is free. -/
theorem ownChange_created (hroles : call.session.Unprivileged) {n : Nat} (hcounted : s.Counted n)
    (hn : n < UInt64.size) {data : NewInterest} {i : Interest}
    (h : (standard concurrent .standard).drafted call data s = .ok i) :
    Store.OwnChange call.session.identity s.interests (s.save i).2.interests := by
  obtain ⟨a, hdraft⟩ := drafted_eq_ok_iff.1 h
  obtain ⟨⟨-, p, hp, hperson⟩, hstatus⟩ := isOwn_of_can hroles hdraft.ability rfl hdraft.allowed
  have hsaved : (s.save i).1 = { i with id := Store.freshId s.issued } := by
    rw [Store.save_fst, hdraft.id]
    rfl
  have hunused : s.interests.get? (s.save i).1.id = none := by
    rw [hsaved]
    exact hcounted.get?_freshId hn
  have hown : call.session.identity = some (s.save i).1.person := by
    rw [field_person_requestedRecord, Option.some.injEq, Json.text.injEq] at hperson
    rw [hsaved, hp, hperson]
  have hinitial : (s.save i).1.status = .interested := by
    have hname := hstatus rfl
    rw [field_status_requestedRecord, Option.some.injEq, Json.text.injEq] at hname
    have hparsed := congrArg Status.ofText? hname
    rw [Status.ofText?_name] at hparsed
    rw [hsaved]
    exact Option.some.inj hparsed
  rw [Store.interests_save]
  exact .added hunused hown hinitial

/-- An update changes an own interest in its place. -/
theorem ownChange_updated (hroles : call.session.Unprivileged) (hs : s.Keyed) {n : Nat}
    (hcounted : s.Counted n) {id : String} {change : InterestUpdate} {j : Interest}
    (h : (standard concurrent .standard).revised call id change s = .ok j) :
    Store.OwnChange call.session.identity s.interests (s.save j).2.interests := by
  obtain ⟨a, i, target, hrevision, rfl⟩ := (revised_eq_ok_iff hs).1 h
  obtain ⟨hown, hprogresses⟩ := progresses_of_revision hroles hrevision
  have hid : i.id = id := hs id i hrevision.stored
  have hstored : s.interests.get? i.id = some i := by
    rw [hid]
    exact hrevision.stored
  -- The id is a number, so the interest is not taken for one without an id.
  have hne : i.id ≠ "" := hcounted.key_ne_empty hstored
  have hsaved : (s.save (i.amended target change.messages)).1 =
      i.amended target change.messages := by
    rw [Store.save_fst]
    exact if_neg fun hempty => hne (String.isEmpty_iff.1 hempty)
  rw [Store.interests_save, hsaved]
  show Store.OwnChange _ _ (s.interests.insert i.id (i.amended target change.messages))
  exact .changed hstored hown hprogresses

/-- A deletion removes an own interest. -/
theorem ownChange_deleted (hroles : call.session.Unprivileged) (hs : s.Keyed) {id : String}
    {f : Filter} {i : Interest} (h : (standard concurrent .standard).doomed call id s = .ok f)
    (hfound : s.findOne f = some i) :
    Store.OwnChange call.session.identity s.interests (s.deleteOne f).2.interests := by
  obtain ⟨a, ha, -, -, rfl⟩ := doomed_eq_ok_iff.1 h
  obtain ⟨hstored, hholds, herase⟩ := hs.interests_deleteOne hfound
  -- The filter of the search selects what the ability allows.
  have hcan : a.can .delete i.target = true := by
    rw [Ability.can_eq_verdict]
    rwa [Ability.holds_filterFor a .delete (subject_of_ability _ call ha).symm] at hholds
  obtain ⟨hown, -⟩ := isOwn_of_can hroles ha rfl hcan
  rw [herase]
  exact .deleted hstored (own_of_isOwn hown).2

/-- The live interests change in one of the ways that are allowed. -/
theorem ownChange_handle (hroles : call.session.Unprivileged) (hs : s.Keyed) {n : Nat}
    (hcounted : s.Counted n) (hn : n < UInt64.size) (request : Request) :
    Store.OwnChange call.session.identity s.interests
      ((standard concurrent .standard).handle call request s).store.interests := by
  have heffect := (standard concurrent .standard).effect_handle call request s
  generalize ((standard concurrent .standard).handle call request s).store = t at heffect ⊢
  cases heffect with
  | unchanged => exact .unchanged
  | created hdrafted => exact ownChange_created hroles hcounted hn hdrafted
  | updated hrevised => exact ownChange_updated hroles hs hcounted hrevised
  | deleted hdoomed hfound => exact ownChange_deleted hroles hs hdoomed hfound

/-- A request of an unprivileged session stays within its bounds. -/
theorem confined_handle (hroles : call.session.Unprivileged) (hs : s.Keyed) {n : Nat}
    (hcounted : s.Counted n) (hn : n < UInt64.size) (request : Request) :
    s.Confined call.session.identity
      ((standard concurrent .standard).handle call request s).store where
  others k _ hx := (ownChange_handle hroles hs hcounted hn request).others k hx
  own := ownChange_handle hroles hs hcounted hn request
  archivedInterests := archivedInterests_handle (standard concurrent .standard) call request s

/-! ## Runs -/

/-- **Volunteers are confined to their own interests over whole runs.** Requests of any sessions
are answered one after another, fewer of them than the counter has values, on a store without
interests from outside. Then each request of an unprivileged session keeps the interests of all
other people, and changes its own ones only as it may. -/
theorem run_confined (f : Fixtures) (hf : f.interests = []) (concurrent : Bool)
    {requests before rest : List (Call × Request)} {call : Call} {request : Request}
    (hlength : requests.length < UInt64.size)
    (hrun : requests = before ++ (call, request) :: rest)
    (hroles : call.session.Unprivileged) :
    ((standard concurrent .standard).storeAfter before (.ofFixtures f)).Confined
      call.session.identity
      ((standard concurrent .standard).storeAfter (before ++ [(call, request)])
        (.ofFixtures f)) := by
  obtain ⟨hkeyed, n, hn, hcounted⟩ := (standard concurrent .standard).counted_storeAfter
    (Store.counted_ofFixtures hf) (Store.keyed_ofFixtures f) before
  have hsize : n < UInt64.size := by
    rw [hrun, List.length_append, List.length_cons] at hlength
    omega
  rw [storeAfter_append]
  exact confined_handle hroles hkeyed hcounted hsize request

/-- A request of a volunteer. -/
def asVolunteer : Call :=
  { session := .ofPerson "p1" [.anonymous, .volunteer] [], now := 7, outages := .none }

/-- A volunteer shows interest, and an administrator answers with an invitation. -/
def recruitment : List (Call × Request) :=
  [(asVolunteer,
      .create { person := none, opportunity := some "o1", status := none, messages := [] }),
    (byAdministrator, .update "interest-1" invitation)]

/-- The volunteer commits, which is within the bounds. -/
theorem run_confined_recruitment :
    (((standard false .standard).storeAfter recruitment (.ofFixtures .empty)).interests.get?
        "interest-1").map Interest.status = some .invited ∧
      (((standard false .standard).storeAfter
        (recruitment ++ [(asVolunteer, .update "interest-1" commitment)])
          (.ofFixtures .empty)).interests.get? "interest-1").map Interest.status =
            some .committed ∧
      ((standard false .standard).storeAfter recruitment (.ofFixtures .empty)).Confined
        (some "p1")
        ((standard false .standard).storeAfter
          (recruitment ++ [(asVolunteer, .update "interest-1" commitment)])
          (.ofFixtures .empty)) := by
  have hroles : asVolunteer.session.Unprivileged := by
    intro r hheld
    cases r with
    | anonymous => exact .inl rfl
    | volunteer => exact .inr rfl
    | _ => cases hheld
  have hrun : recruitment ++ [(asVolunteer, .update "interest-1" commitment)] =
      recruitment ++ (asVolunteer, .update "interest-1" commitment) :: [] := rfl
  exact ⟨rfl, rfl, run_confined .empty rfl false (by decide) hrun hroles⟩

end Service

end VolunteerAccess
