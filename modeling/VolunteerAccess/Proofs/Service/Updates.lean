import VolunteerAccess.Proofs.Service.Decisions

/-!
# What an update changes

An update reads the interest of an id, makes the change, and saves the result
under the id that the interest carries. The save takes an empty id for a missing
one. Fixtures may hold an interest under the empty id, and that one is copied by
an update instead of changed.

- `Interest.ChangesTo`: what a change makes of an interest.
- `Store.Rewrites`: the changed interest takes the place of the old one, and
  nothing else is touched.
- `Store.Copies`: the changed interest is stored beside the old one.
- `Service.update_rewrites_iff_named`: **which of them an update does**.
-/

namespace VolunteerAccess

/-! ## The changed interest -/

/-- What a change makes of an interest: the status is the one that it asks for, if it asks for
one, and its messages are added at the end. -/
structure Interest.ChangesTo (i : Interest) (change : InterestUpdate) (saved : Interest) :
    Prop where
  person : saved.person = i.person
  opportunity : saved.opportunity = i.opportunity
  dateAdded : saved.dateAdded = i.dateAdded
  status : saved.status.name = change.status.getD i.status.name
  messages : saved.messages = i.messages ++ change.messages

theorem Interest.changesTo_amended (i : Interest) {change : InterestUpdate}
    {target : Option Status} (h : change.status = target.map Status.name) :
    i.ChangesTo change (i.amended target change.messages) where
  person := rfl
  opportunity := rfl
  dateAdded := rfl
  status := by
    rw [h]
    cases target <;> rfl
  messages := rfl

/-- A save changes nothing of an interest but its id. -/
theorem Interest.ChangesTo.save {i j : Interest} {change : InterestUpdate}
    (h : i.ChangesTo change j) (s : Store) : i.ChangesTo change (s.save j).1 := by
  rw [Store.save_fst]
  split
  · exact ⟨h.person, h.opportunity, h.dateAdded, h.status, h.messages⟩
  · exact h

namespace Store

variable {s : Store} {id : String} {i j : Interest}

/-! ## In place or beside -/

/-- An interest takes the place of the one under an id, and nothing else is touched. -/
structure Rewrites (s t : Store) (id : String) (saved : Interest) : Prop where
  named : saved.id = id
  stored : t.interests.get? id = some saved
  keys : t.interests.keys = s.interests.keys
  others : ∀ k, k ≠ id → t.interests.get? k = s.interests.get? k
  archivedInterests : t.archivedInterests = s.archivedInterests
  opportunities : t.opportunities = s.opportunities
  archivedOpportunities : t.archivedOpportunities = s.archivedOpportunities

/-- An interest is stored under the next number, beside the one under an id. -/
structure Copies (s t : Store) (id : String) (saved : Interest) : Prop where
  named : saved.id = freshId s.issued
  apart : saved.id ≠ id
  stored : t.interests.get? saved.id = some saved
  others : ∀ k, k ≠ saved.id → t.interests.get? k = s.interests.get? k
  archivedInterests : t.archivedInterests = s.archivedInterests
  opportunities : t.opportunities = s.opportunities
  archivedOpportunities : t.archivedOpportunities = s.archivedOpportunities

/-- The old interest is still there, as it was. -/
theorem Copies.kept {t : Store} {saved : Interest} (h : Copies s t id saved) :
    t.interests.get? id = s.interests.get? id :=
  h.others id h.apart.symm

theorem Copies.not_rewrites {t : Store} {saved : Interest} (h : Copies s t id saved) :
    ¬ Rewrites s t id saved := fun hrewrites => h.apart hrewrites.named

theorem rewrites_save (hi : s.interests.get? id = some i) (hj : j.id = id) (hne : id ≠ "") :
    Rewrites s (s.save j).2 id (s.save j).1 := by
  have hid : (s.save j).1.id = id := by
    rw [id_save_of_ne_empty s j (by rw [hj]; exact hne), hj]
  refine ⟨hid, ?_, ?_, fun k hk => ?_, archivedInterests_save s j, opportunities_save s j,
    archivedOpportunities_save s j⟩
  · rw [← hid, get?_save_self]
  · rw [interests_save, hid, Dict.keys_insert_of_some hi]
  · rw [get?_save_of_ne s j (by rw [hid]; exact hk)]

theorem copies_save (hj : j.id = "") : Copies s (s.save j).2 "" (s.save j).1 where
  named := id_save_of_empty s j hj
  apart := by
    rw [id_save_of_empty s j hj]
    exact freshId_ne_empty s.issued
  stored := get?_save_self s j
  others k hk := get?_save_of_ne s j hk
  archivedInterests := archivedInterests_save s j
  opportunities := opportunities_save s j
  archivedOpportunities := archivedOpportunities_save s j

end Store

/-! ## Updates -/

namespace Service

variable {svc : Service} {call : Call} {id : String} {change : InterestUpdate} {s : Store}

/-- An update that succeeds stores what was decided. -/
theorem handle_update_of_ok {answer : Answer}
    (h : (svc.handle call (.update id change) s).answer = .ok answer) :
    ∃ j, svc.revised call id change s = .ok j ∧
      svc.handle call (.update id change) s = commit s j change.kind := by
  simp only [handle] at h ⊢
  cases hrevised : svc.revised call id change s with
  | error e =>
    rw [hrevised] at h
    cases h
  | ok j => exact ⟨j, rfl, rfl⟩

/-- **An update touches exactly its target, if its target has an id that is not empty.** An
interest that fixtures hold under the empty id is not changed by an update of it: the changed
interest is stored under the next number, where it may take the place of another one. -/
theorem update_rewrites_iff_named {f : Fixtures} (hs : Store.Reachable f s) (svc : Service)
    (call : Call) (id : String) (change : InterestUpdate) {saved : Interest}
    (h : (svc.handle call (.update id change) s).answer = .ok (.interest saved)) :
    ∃ i, s.interests.get? id = some i ∧ i.ChangesTo change saved ∧
      (Store.Rewrites s (svc.handle call (.update id change) s).store id saved ↔ id ≠ "") ∧
      (Store.Copies s (svc.handle call (.update id change) s).store id saved ↔ id = "") := by
  obtain ⟨j, hj, hcommit⟩ := handle_update_of_ok h
  obtain ⟨a, i, target, hrevision, hamended⟩ := (revised_eq_ok_iff hs.keyed).1 hj
  have hid : j.id = id := by
    rw [hamended]
    exact hs.keyed id i hrevision.stored
  have hsaved : (s.save j).1 = saved := by
    rw [hcommit] at h
    cases h
    rfl
  have hchanges : i.ChangesTo change j := by
    rw [hamended]
    exact i.changesTo_amended hrevision.known
  rw [hcommit]
  show ∃ i, s.interests.get? id = some i ∧ i.ChangesTo change saved ∧
    (Store.Rewrites s (s.save j).2 id saved ↔ id ≠ "") ∧
    (Store.Copies s (s.save j).2 id saved ↔ id = "")
  rw [← hsaved]
  refine ⟨i, hrevision.stored, hchanges.save s, ?_⟩
  by_cases hempty : id = ""
  · have hcopies : Store.Copies s (s.save j).2 id (s.save j).1 := by
      rw [hempty] at hid ⊢
      exact Store.copies_save hid
    exact ⟨iff_of_false hcopies.not_rewrites (not_not_intro hempty), iff_of_true hcopies hempty⟩
  · have hrewrites := Store.rewrites_save hrevision.stored hid hempty
    exact ⟨iff_of_true hrewrites hempty,
      iff_of_false (fun hcopies => hcopies.not_rewrites hrewrites) hempty⟩

/-- A request of an administrator. -/
def byAdministrator : Call :=
  { session := .ofPerson "p9" [.administrator] [], now := 7, outages := .none }

/-- An invitation, with a word of explanation. -/
def invitation : InterestUpdate :=
  { status := some "invited", messages := [{ body := "Join us", author := "p9" }], kind := .invite }

/-- The interest `newcomer` of the fixtures after the invitation. -/
def invited (id : String) : Interest :=
  { Store.newcomer with
    id, person := "p1", status := .invited, messages := invitation.messages }

/-- An interest with an id is changed in place. -/
theorem update_rewrites_iff_named_invited :
    ((standard false .standard).handle byAdministrator (.update "i1" invitation)
      (.ofFixtures (Store.seeded "i1"))).answer = .ok (.interest (invited "i1")) ∧
    Store.Rewrites (.ofFixtures (Store.seeded "i1"))
      ((standard false .standard).handle byAdministrator (.update "i1" invitation)
        (.ofFixtures (Store.seeded "i1"))).store "i1" (invited "i1") := by
  have h : ((standard false .standard).handle byAdministrator (.update "i1" invitation)
      (.ofFixtures (Store.seeded "i1"))).answer = .ok (.interest (invited "i1")) := rfl
  obtain ⟨i, -, -, hrewrites, -⟩ :=
    update_rewrites_iff_named .seeded (standard false .standard) byAdministrator "i1" invitation h
  exact ⟨h, hrewrites.2 (by decide)⟩

/-- An interest under the empty id is not: it stays as it was, and a second one appears. -/
theorem not_rewrites_unnamed :
    Store.Reachable (Store.seeded "") (.ofFixtures (Store.seeded "")) ∧
    ((standard false .standard).handle byAdministrator (.update "" invitation)
      (.ofFixtures (Store.seeded ""))).answer = .ok (.interest (invited "interest-1")) ∧
    ¬ Store.Rewrites (.ofFixtures (Store.seeded ""))
      ((standard false .standard).handle byAdministrator (.update "" invitation)
        (.ofFixtures (Store.seeded ""))).store "" (invited "interest-1") := by
  refine ⟨.seeded, rfl, fun h => ?_⟩
  have hnamed : "interest-1" = "" := h.named
  exact absurd hnamed (by decide)

end Service

end VolunteerAccess
