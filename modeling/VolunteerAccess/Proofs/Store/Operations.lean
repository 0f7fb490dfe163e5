import VolunteerAccess.Store

/-!
# What the operations of a store change

Storing and removing an interest touch the live interests and, for a fresh id,
the counter. Everything else of a store stays as it is, in particular the
opportunities, on which all look-ups of owners depend.

- `Store.save_fst`, `Store.interests_save`: an interest is stored under the id
  that it is given back with.
- `Store.interests_deleteOne`: what is removed is the interest that is found.
- `Store.ownership_congr`: look-ups read nothing but opportunities.
-/

namespace VolunteerAccess

namespace Store

variable (s : Store) (i : Interest) (f : Filter)

/-! ## Storing -/

theorem save_fst :
    (s.save i).1 = if i.id.isEmpty then { i with id := freshId s.issued } else i := by
  unfold save
  split <;> rfl

@[simp] theorem interests_save :
    (s.save i).2.interests = s.interests.insert (s.save i).1.id (s.save i).1 := by
  unfold save
  split <;> rfl

/-- An interest without an id gets the next fresh one. -/
theorem id_save_of_empty (h : i.id = "") : (s.save i).1.id = freshId s.issued := by
  rw [save_fst, h]
  rfl

theorem id_save_of_ne_empty (h : i.id ≠ "") : (s.save i).1.id = i.id := by
  rw [save_fst, if_neg (fun hempty => h (String.isEmpty_iff.1 hempty))]

/-- Storing an interest changes nothing of it but the id. -/
theorem field_save {name : String} (hid : name ≠ "_id") :
    (s.save i).1.field name = i.field name := by
  rw [save_fst]
  split
  · unfold Interest.field
    split <;> first | rfl | exact absurd rfl hid
  · rfl

/-- What is stored is what is given back. -/
theorem get?_save_self : (s.save i).2.interests.get? (s.save i).1.id = some (s.save i).1 := by
  rw [interests_save, Dict.get?_insert_self]

/-- Interests under other ids stay. -/
theorem get?_save_of_ne {k : String} (h : k ≠ (s.save i).1.id) :
    (s.save i).2.interests.get? k = s.interests.get? k := by
  rw [interests_save, Dict.get?_insert_of_ne _ _ h]

theorem issued_save :
    (s.save i).2.issued = if i.id.isEmpty then s.issued + 1 else s.issued := by
  unfold save
  split <;> rfl

@[simp] theorem archivedInterests_save :
    (s.save i).2.archivedInterests = s.archivedInterests := by
  unfold save
  split <;> rfl

@[simp] theorem opportunities_save : (s.save i).2.opportunities = s.opportunities := by
  unfold save
  split <;> rfl

@[simp] theorem archivedOpportunities_save :
    (s.save i).2.archivedOpportunities = s.archivedOpportunities := by
  unfold save
  split <;> rfl

/-! ## Removing -/

/-- What is removed is the interest that is found, under its id. -/
theorem interests_deleteOne : (s.deleteOne f).2.interests =
    (s.findOne f).elim s.interests fun i => s.interests.erase i.id := by
  unfold deleteOne
  cases s.findOne f <;> rfl

/-- What is there after a removal was there before. -/
theorem get?_of_get?_deleteOne {k : String} {x : Interest}
    (h : (s.deleteOne f).2.interests.get? k = some x) : s.interests.get? k = some x := by
  rw [interests_deleteOne] at h
  cases hfound : s.findOne f with
  | none =>
    rw [hfound] at h
    exact h
  | some i =>
    rw [hfound, Option.elim_some] at h
    by_cases hk : k = i.id
    · subst hk
      rw [Dict.get?_erase_self] at h
      cases h
    · rw [Dict.get?_erase_of_ne _ hk] at h
      exact h

@[simp] theorem issued_deleteOne : (s.deleteOne f).2.issued = s.issued := by
  unfold deleteOne
  split <;> rfl

@[simp] theorem archivedInterests_deleteOne :
    (s.deleteOne f).2.archivedInterests = s.archivedInterests := by
  unfold deleteOne
  split <;> rfl

@[simp] theorem opportunities_deleteOne : (s.deleteOne f).2.opportunities = s.opportunities := by
  unfold deleteOne
  split <;> rfl

@[simp] theorem archivedOpportunities_deleteOne :
    (s.deleteOne f).2.archivedOpportunities = s.archivedOpportunities := by
  unfold deleteOne
  split <;> rfl

/-! ## Reading -/

/-- The interest that is found is the first of those that are selected. -/
theorem findOne_eq_head? :
    s.findOne f = (s.interests.values.filter fun i => f.holds i.target).head? := by
  unfold findOne
  rw [List.head?_filter]

/-- Look-ups of owners read nothing but opportunities. -/
theorem ownership_congr {s t : Store} (h : s.opportunities = t.opportunities)
    (harchived : s.archivedOpportunities = t.archivedOpportunities) (r : Refusals) :
    s.ownership r = t.ownership r := by
  have hcollection : s.collection = t.collection := by
    funext scope
    cases scope with
    | active => exact h
    | archived => exact harchived
  unfold ownership requestedBy offeredBy
  rw [hcollection]

end Store

end VolunteerAccess
