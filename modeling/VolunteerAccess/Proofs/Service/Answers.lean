import VolunteerAccess.Proofs.Service.Decisions

/-!
# When a request succeeds

The service answers through filters that it hands to the store. What it answers
is said here by the verdict on single records.

- `Service.get_eq_ok_iff`, `Service.delete_eq_ok_iff`: an interest is shown or
  removed if and only if it is stored and the action is permitted with it.
- `Service.list_eq_ok_iff`, `Service.mem_query_unrestricted_iff`: a list is given if and
  only if listing may be granted at all; in it are the stored interests that may be listed.
- `Service.shown_iff_can`, `Service.removed_iff_can`, `Service.listed_iff_can`: for a stored
  interest **the answers are the verdicts** of the session's ability.
-/

namespace VolunteerAccess

variable {s : Store}

/-- A search finds the stored interests that its filter selects. -/
theorem Store.mem_query_iff {f : Filter} {i : Interest} :
    i ∈ s.query f ↔ i ∈ s.interests.values ∧ f.holds i.target = true := by
  unfold query
  rw [List.mem_mergeSort, List.mem_filter]

namespace Service

variable {svc : Service} {call : Call}

/-- An interest is shown if and only if it is stored under the id and may be read. -/
theorem get_eq_ok_iff (hs : s.Keyed) {id : String} {i : Interest} :
    (svc.handle call (.get id) s).answer = .ok (.interest i) ↔
      ∃ a, svc.ability call s = .ok a ∧ call.outages.operation .findOne = none ∧
        s.interests.get? id = some i ∧ a.can .read i.target = true := by
  show (svc.visible call id s).map Answer.interest = .ok (.interest i) ↔ _
  rw [map_eq_ok_iff, ← visible_eq_ok_iff hs]
  simp

/-- An interest is removed if and only if it is stored under the id and may be deleted. -/
theorem delete_eq_ok_iff (hs : s.Keyed) {id : String} :
    (svc.handle call (.delete id) s).answer = .ok .done ↔
      ∃ a, svc.ability call s = .ok a ∧ call.outages.operation .deleteOne = none ∧
        ∃ i, s.interests.get? id = some i ∧ a.can .delete i.target = true := by
  constructor
  · intro h
    cases hdoomed : svc.doomed call id s with
    | error e =>
      simp only [handle, hdoomed] at h
      cases h
    | ok f =>
      obtain ⟨a, ha, -, hreach, rfl⟩ := doomed_eq_ok_iff.1 hdoomed
      simp only [svc.handle_delete call hdoomed, hs.findOne_byId,
        holds_filterFor_interest (svc.subject_of_ability call ha)] at h
      cases hfound : (s.interests.get? id).filter fun i => a.can .delete i.target with
      | none =>
        rw [hfound] at h
        cases h
      | some i =>
        obtain ⟨hi, hallowed⟩ := Option.filter_eq_some_iff.1 hfound
        exact ⟨a, ha, hreach, i, hi, hallowed⟩
  · rintro ⟨a, ha, hreach, i, hi, hallowed⟩
    have hsubject := svc.subject_of_ability call ha
    have hgrant : a.hasGrant .delete = true := Ability.hasGrant_of_can hsubject.symm hallowed
    have hdoomed : svc.doomed call id s = .ok ((a.filterFor .delete).and (.byId (.text id))) :=
      doomed_eq_ok_iff.2 ⟨a, ha, hgrant, hreach, rfl⟩
    rw [← holds_filterFor_interest hsubject] at hallowed
    rw [svc.handle_delete call hdoomed, hs.findOne_byId,
      Option.filter_eq_some_iff.2 ⟨hi, hallowed⟩]

/-- A list is given if and only if listing may be granted at all. -/
theorem list_eq_ok_iff {q : ListQuery} {found : List Interest} :
    (svc.handle call (.list q) s).answer = .ok (.interests found) ↔
      ∃ a, svc.ability call s = .ok a ∧ a.hasGrant .list = true ∧
        call.outages.operation .query = none ∧
        found = s.query ((a.filterFor .list).and q.toFilter) := by
  have hlisted : svc.listed call q s = .ok found ↔
      ∃ a, svc.ability call s = .ok a ∧ a.hasGrant .list = true ∧
        call.outages.operation .query = none ∧
        found = s.query ((a.filterFor .list).and q.toFilter) := by
    unfold listed
    simp only [bind_eq_ok_iff, requireGrant_eq_ok_iff, reach_eq_ok_iff]
    refine exists_congr fun a => and_congr_right fun _ => ?_
    constructor
    · rintro ⟨-, hgrant, -, hreach, hfound⟩
      cases hfound
      exact ⟨hgrant, hreach, rfl⟩
    · rintro ⟨hgrant, hreach, rfl⟩
      exact ⟨(), hgrant, (), hreach, rfl⟩
  show (svc.listed call q s).map Answer.interests = .ok (.interests found) ↔ _
  rw [map_eq_ok_iff, ← hlisted]
  simp

/-- Without a narrowing, the stored interests are listed that may be. -/
theorem mem_query_unrestricted_iff {a : Ability} (ha : a.subject = .interest) {i : Interest} :
    i ∈ s.query ((a.filterFor .list).and ListQuery.unrestricted.toFilter) ↔
      i ∈ s.interests.values ∧ a.can .list i.target = true := by
  rw [Store.mem_query_iff, Filter.holds_and, holds_filterFor_interest ha]
  have hall : ListQuery.unrestricted.toFilter.holds i.target = true := rfl
  rw [hall, Bool.and_true]

/-! ## With an ability in hand -/

section
variable {a : Ability} {id : String} {i : Interest}

theorem shown_iff_can (hs : s.Keyed) (ha : svc.ability call s = .ok a)
    (hreach : call.outages.operation .findOne = none) (hi : s.interests.get? id = some i) :
    (∃ x, (svc.handle call (.get id) s).answer = .ok (.interest x)) ↔
      a.can .read i.target = true := by
  constructor
  · rintro ⟨x, hx⟩
    obtain ⟨a', ha', -, hx, hcan⟩ := (get_eq_ok_iff hs).1 hx
    obtain rfl : i = x := Option.some.inj (hi.symm.trans hx)
    obtain rfl : a = a' := Except.ok.inj (ha.symm.trans ha')
    exact hcan
  · intro hcan
    exact ⟨i, (get_eq_ok_iff hs).2 ⟨a, ha, hreach, hi, hcan⟩⟩

theorem removed_iff_can (hs : s.Keyed) (ha : svc.ability call s = .ok a)
    (hreach : call.outages.operation .deleteOne = none) (hi : s.interests.get? id = some i) :
    (svc.handle call (.delete id) s).answer = .ok .done ↔ a.can .delete i.target = true := by
  rw [delete_eq_ok_iff hs]
  constructor
  · rintro ⟨a', ha', -, x, hx, hcan⟩
    obtain rfl : i = x := Option.some.inj (hi.symm.trans hx)
    obtain rfl : a = a' := Except.ok.inj (ha.symm.trans ha')
    exact hcan
  · intro hcan
    exact ⟨a, ha, hreach, i, hi, hcan⟩

/-- Without a narrowing, an interest is listed if and only if it may be. -/
theorem listed_iff_can (ha : svc.ability call s = .ok a)
    (hreach : call.outages.operation .query = none) (hi : s.interests.get? id = some i) :
    (∃ found, (svc.handle call (.list .unrestricted) s).answer = .ok (.interests found) ∧
      i ∈ found) ↔ a.can .list i.target = true := by
  have hsubject := svc.subject_of_ability call ha
  constructor
  · rintro ⟨found, hfound, hmem⟩
    obtain ⟨a', ha', -, -, rfl⟩ := list_eq_ok_iff.1 hfound
    obtain rfl : a = a' := Except.ok.inj (ha.symm.trans ha')
    exact ((mem_query_unrestricted_iff hsubject).1 hmem).2
  · intro hcan
    have hgrant : a.hasGrant .list = true := Ability.hasGrant_of_can hsubject.symm hcan
    have hstored : i ∈ s.interests.values := Dict.mem_values_iff.2 ⟨id, hi⟩
    exact ⟨_, list_eq_ok_iff.2 ⟨a, ha, hgrant, hreach, rfl⟩,
      (mem_query_unrestricted_iff hsubject).2 ⟨hstored, hcan⟩⟩

end

end Service

end VolunteerAccess
