import VolunteerAccess.Proofs.Service.Refusals
import VolunteerAccess.Proofs.Store.Removals

/-!
# Showing and removing one interest

A request for the interest of an id is answered by a search in which the id and the filter of
the session's ability are joined. What the session may not see is not found, as if it were not
there, so the answer must depend on the id only through the interests that the session may see.

- `Service.Hides`: how a failure is reported. The id plays no part in it;
  `Service.unseen_iff`: it is how searches for an id report that they found nothing.
- `Service.answer_get`, `Service.answer_delete`: both answers are those of such a search.
- `Service.removes_of_offers`: what a deletion does to the store;
  `Service.answer_delete_again`: it leaves nothing for a second one.
- `Service.one_interest_decided`: **an interest is shown or removed if and only if it is stored
  under the id and the action is allowed with it**, and the failure does not tell the rest.
-/

namespace VolunteerAccess

namespace Service

variable {svc : Service} {call : Call} {a : Ability} {s : Store} {e : Failure} {id : String}
variable {action : Action} {i : Interest}

/-! ## Failures -/

/-- How it is reported that there is nothing to act on. This depends on whether the session may
do the action with any interest at all, and not on the one that it asks for. -/
inductive Hides (a : Ability) (action : Action) : Failure → Prop where
  | forbidden (hgrant : ¬ ∃ r, Ability.Standing (a.rulesFor action) r) :
      Hides a action (.denied (.forbidden action .interest))
  | notFound (hgrant : ∃ r, Ability.Standing (a.rulesFor action) r) :
      Hides a action (.denied (.notFound action .interest))

/-- What is offered is allowed by a standing grant. -/
theorem standing_of_offers (ha : a.subject = .interest) (h : s.Offers a action id i) :
    ∃ r, Ability.Standing (a.rulesFor action) r :=
  Ability.standing_of_can ha.symm h.allowed

/-- A search for an id fails if nothing is offered under the id. -/
theorem unseen_iff (ha : a.subject = .interest) :
    Unseen a s action id e ↔ (¬ ∃ i, s.Offers a action id i) ∧ Hides a action e := by
  constructor
  · intro h
    cases h with
    | forbidden hgrant =>
      exact ⟨fun ⟨i, hi⟩ => hgrant (standing_of_offers ha hi), .forbidden hgrant⟩
    | notFound hgrant hnone => exact ⟨fun ⟨i, hi⟩ => hnone i hi, .notFound hgrant⟩
  · rintro ⟨hnone, hhides⟩
    cases hhides with
    | forbidden hgrant => exact .forbidden hgrant
    | notFound hgrant => exact .notFound hgrant fun i hi => hnone ⟨i, hi⟩

/-! ## Answers -/

/-- A request to be shown an interest is answered by a search. -/
theorem answer_get (ha : svc.ability call s = .ok a) (id : String) :
    (svc.handle call (.get id) s).answer = (findVisible call a .read id s).map .interest := by
  show (svc.visible call id s).map Answer.interest = _
  unfold visible
  rw [ha]
  rfl

/-- A deletion is answered as if the interest were looked for first. -/
theorem answer_delete (hserved : call.Served) (ha : svc.ability call s = .ok a) (id : String) :
    (svc.handle call (.delete id) s).answer =
      (findVisible call a .delete id s).map fun _ => .done := by
  unfold findVisible
  rw [reach_of_served hserved]
  cases hgrant : requireGrant a .delete with
  | error e =>
    have hdoomed : svc.doomed call id s = .error e := by
      unfold doomed
      rw [ha]
      show (requireGrant a .delete >>= _) = _
      rw [hgrant]
      rfl
    simp only [handle, hdoomed]
    rfl
  | ok u =>
    rw [svc.handle_delete call
      (doomed_eq_ok_iff.2 ⟨a, ha, requireGrant_eq_ok_iff.1 hgrant, hserved .deleteOne, rfl⟩)]
    cases s.findOne ((a.filterFor .delete).and (.byId (.text id))) <;> rfl

section
variable (hs : s.Keyed) (hserved : call.Served) (ha : svc.ability call s = .ok a)
include hs hserved ha

/-- Whatever is made of an interest that is found, a search fails if none is offered. -/
theorem map_findVisible_eq_error_iff (answer : Interest → Answer) :
    (findVisible call a action id s).map answer = .error e ↔
      (¬ ∃ i, s.Offers a action id i) ∧ Hides a action e := by
  have hsubject := svc.subject_of_ability call ha
  rw [map_eq_error_iff, findVisible_eq_error_iff hs hsubject hserved, unseen_iff hsubject]

theorem get_eq_ok_iff_offers : (svc.handle call (.get id) s).answer = .ok (.interest i) ↔
    s.Offers a .read id i := by
  rw [answer_get ha, map_eq_ok_iff]
  simp [findVisible_eq_ok_iff_offers hs (svc.subject_of_ability call ha) hserved]

theorem get_eq_error_iff : (svc.handle call (.get id) s).answer = .error e ↔
    (¬ ∃ i, s.Offers a .read id i) ∧ Hides a .read e := by
  rw [answer_get ha, map_findVisible_eq_error_iff hs hserved ha]

theorem delete_eq_ok_iff_offers : (svc.handle call (.delete id) s).answer = .ok .done ↔
    ∃ i, s.Offers a .delete id i := by
  rw [answer_delete hserved ha, map_eq_ok_iff]
  simp [findVisible_eq_ok_iff_offers hs (svc.subject_of_ability call ha) hserved]

theorem delete_eq_error_iff : (svc.handle call (.delete id) s).answer = .error e ↔
    (¬ ∃ i, s.Offers a .delete id i) ∧ Hides a .delete e := by
  rw [answer_delete hserved ha, map_findVisible_eq_error_iff hs hserved ha]

/-! ## Deletions -/

/-- A deletion of what is offered takes it out of the store, and nothing else. -/
theorem removes_of_offers (hi : s.Offers a .delete id i) :
    Store.Removes s (svc.handle call (.delete id) s).store i := by
  have hsubject := svc.subject_of_ability call ha
  have hgrant : a.hasGrant .delete = true := Ability.hasGrant_of_can hsubject.symm hi.allowed
  have hfound := (findOne_eq_some_iff_offers hs hsubject).2 hi
  rw [svc.handle_delete call (doomed_eq_ok_iff.2 ⟨a, ha, hgrant, hserved .deleteOne, rfl⟩), hfound]
  exact hs.removes_deleteOne hfound

/-- A session does not find what it has just deleted. -/
theorem answer_delete_again (hi : s.Offers a .delete id i) (now : UInt64) :
    (svc.handle { call with now } (.delete id) (svc.handle call (.delete id) s).store).answer =
      .error (.denied (.notFound .delete .interest)) := by
  have ht : (svc.handle call (.delete id) s).store.Keyed := hs.handle svc call _
  have hagain : svc.ability { call with now } (svc.handle call (.delete id) s).store = .ok a :=
    (svc.ability_handle { call with now } call (.delete id) s).trans ha
  have hserved' : { call with now : Call }.Served := hserved
  refine (delete_eq_error_iff ht hserved' hagain).2
    ⟨?_, .notFound (standing_of_offers (svc.subject_of_ability call ha) hi)⟩
  rintro ⟨j, hj⟩
  have hgone := (removes_of_offers hs hserved ha hi).gone
  rw [hi.named, (ht.offers_iff.1 hj).1] at hgone
  cases hgone

end

/-! ## Decisions -/

/-- **An interest is shown or removed if and only if it is stored under the id and the action is
allowed with it.** A deletion removes just this interest, and finds nothing when it is repeated.
A failure does not tell whether the interest is missing or may not be seen. -/
theorem one_interest_decided {f : Fixtures} (hs : Store.Reachable f s) (hserved : call.Served)
    (ha : svc.ability call s = .ok a) (id : String) :
    ((∀ i, (svc.handle call (.get id) s).answer = .ok (.interest i) ↔ s.Offers a .read id i) ∧
      ∀ e, (svc.handle call (.get id) s).answer = .error e ↔
        (¬ ∃ i, s.Offers a .read id i) ∧ Hides a .read e) ∧
    (((svc.handle call (.delete id) s).answer = .ok .done ↔ ∃ i, s.Offers a .delete id i) ∧
      ∀ e, (svc.handle call (.delete id) s).answer = .error e ↔
        (¬ ∃ i, s.Offers a .delete id i) ∧ Hides a .delete e) ∧
    ∀ i, s.Offers a .delete id i →
      Store.Removes s (svc.handle call (.delete id) s).store i ∧
      ∀ now, (svc.handle { call with now } (.delete id)
        (svc.handle call (.delete id) s).store).answer =
          .error (.denied (.notFound .delete .interest)) := by
  have hkeyed := hs.keyed
  exact ⟨⟨fun i => get_eq_ok_iff_offers hkeyed hserved ha,
      fun e => get_eq_error_iff hkeyed hserved ha⟩,
    ⟨delete_eq_ok_iff_offers hkeyed hserved ha, fun e => delete_eq_error_iff hkeyed hserved ha⟩,
    fun i hi => ⟨removes_of_offers hkeyed hserved ha hi, answer_delete_again hkeyed hserved ha hi⟩⟩

/-- A request of one of the volunteers. -/
def ofVolunteer (person : String) : Call :=
  { session := .ofPerson person [.volunteer] [], now := 7, outages := .none }

/-- A volunteer deletes the own interest, but only once. To another volunteer it is as if it were
not there, and nobody else learns as much. -/
theorem one_interest_decided_seeded :
    (∃ a i, (standard false .standard).ability (ofVolunteer "p1")
        (.ofFixtures (Store.seeded "i1")) = .ok a ∧
      (Store.ofFixtures (Store.seeded "i1")).Offers a .delete "i1" i ∧
      Store.Removes (.ofFixtures (Store.seeded "i1"))
        ((standard false .standard).handle (ofVolunteer "p1") (.delete "i1")
          (.ofFixtures (Store.seeded "i1"))).store i) ∧
    (∃ a, (standard false .standard).ability (ofVolunteer "p2")
        (.ofFixtures (Store.seeded "i1")) = .ok a ∧
      ∀ id, id = "i1" ∨ id = "i2" → ((standard false .standard).handle (ofVolunteer "p2")
        (.get id) (.ofFixtures (Store.seeded "i1"))).answer =
          .error (.denied (.notFound .read .interest)) ∧ Hides a .read
            (.denied (.notFound .read .interest))) ∧
    ∃ a, (standard false .standard).ability
        { ofVolunteer "p1" with session := .anonymous } (.ofFixtures (Store.seeded "i1")) = .ok a ∧
      Hides a .delete (.denied (.forbidden .delete .interest)) := by
  have hreached : Store.Reachable (Store.seeded "i1") (.ofFixtures (Store.seeded "i1")) := .seeded
  obtain ⟨a, ha⟩ : ∃ a, (standard false .standard).ability (ofVolunteer "p1")
      (.ofFixtures (Store.seeded "i1")) = .ok a := ⟨_, rfl⟩
  obtain ⟨b, hb⟩ : ∃ b, (standard false .standard).ability (ofVolunteer "p2")
      (.ofFixtures (Store.seeded "i1")) = .ok b := ⟨_, rfl⟩
  obtain ⟨c, hc⟩ : ∃ c, (standard false .standard).ability
      { ofVolunteer "p1" with session := .anonymous } (.ofFixtures (Store.seeded "i1")) = .ok c :=
    ⟨_, rfl⟩
  obtain ⟨-, ⟨hdone, -⟩, hremoves⟩ := one_interest_decided hreached (fun _ => rfl) ha "i1"
  obtain ⟨i, hi⟩ := hdone.1 rfl
  refine ⟨⟨a, i, ha, hi, (hremoves i hi).1⟩, ⟨b, hb, fun id hid => ?_⟩, c, hc, ?_⟩
  · obtain ⟨⟨-, hfailed⟩, -⟩ := one_interest_decided hreached (fun _ => rfl) hb id
    have hanswer : ((standard false .standard).handle (ofVolunteer "p2") (.get id)
        (.ofFixtures (Store.seeded "i1"))).answer =
          .error (.denied (.notFound .read .interest)) := by
      rcases hid with rfl | rfl <;> rfl
    exact ⟨hanswer, ((hfailed _).1 hanswer).2⟩
  · obtain ⟨-, ⟨-, hfailed⟩, -⟩ := one_interest_decided hreached (fun _ => rfl) hc "i1"
    exact ((hfailed _).1 rfl).2

end Service

end VolunteerAccess
