import VolunteerAccess.Proofs.Filter.Meaning
import VolunteerAccess.Proofs.Store.FreshIds

/-!
# Interests under their own ids

A store looks interests up by key, and the service looks them up by the id that
they carry. Both are the same look-up, because no operation stores an interest
under a key that is not its id.

- `Store.Keyed`: the invariant, and that every operation preserves it.
- `Store.Keyed.findOne_byId`: **a search narrowed to an id is a look-up** of that
  key, followed by the test of the filter.
- `Store.Keyed.interests_deleteOne`: what is removed by such a search is the
  entry of the id.
-/

namespace VolunteerAccess

theorem Filter.holds_byId_iff (id : String) (i : Interest) :
    (Filter.byId (.text id)).holds i.target = true ↔ i.id = id := by
  unfold Filter.byId
  rw [Filter.holds, Condition.holds_eq rfl, Condition.holds_empty, Bool.and_true,
    Condition.passes_text_iff]
  show some (Json.text i.id) = some (.text id) ↔ _
  rw [Option.some.injEq, Json.text.injEq]

namespace Store

/-- Every live interest is stored under its own id. -/
def Keyed (s : Store) : Prop := ∀ k x, s.interests.get? k = some x → x.id = k

theorem keyed_ofFixtures (f : Fixtures) : Keyed (ofFixtures f) := by
  intro k x h
  obtain ⟨i, -, hentry⟩ := List.mem_map.1 (Dict.mem_of_get?_ofList h)
  cases hentry
  rfl

namespace Keyed

variable {s : Store} (h : s.Keyed)
include h

/-- An interest is stored under the id that it is given back with. -/
theorem save (i : Interest) : (s.save i).2.Keyed := by
  intro k x hx
  by_cases hk : k = (s.save i).1.id
  · subst hk
    rw [get?_save_self] at hx
    cases hx
    rfl
  · rw [get?_save_of_ne s i hk] at hx
    exact h k x hx

theorem deleteOne (f : Filter) : (s.deleteOne f).2.Keyed := fun k x hx =>
  h k x (get?_of_get?_deleteOne s f hx)

theorem apply (op : Operation) : (op.apply s).Keyed := by
  cases op with
  | query f => exact h
  | findOne f => exact h
  | save i => exact h.save i
  | deleteOne f => exact h.deleteOne f
  | addOpportunity scope o => cases scope <;> exact h

/-! ## Searching for an id -/

theorem get?_of_mem_values {x : Interest} (hx : x ∈ s.interests.values) :
    s.interests.get? x.id = some x := by
  obtain ⟨k, hk⟩ := Dict.mem_values_iff.1 hx
  rw [h k x hk]
  exact hk

/-- **A search narrowed to an id is a look-up** of that key. -/
theorem findOne_byId (f : Filter) (id : String) :
    s.findOne (f.and (.byId (.text id))) =
      (s.interests.get? id).filter fun i => f.holds i.target := by
  -- At most one interest carries the id, so it does not matter which one is found first.
  refine Option.ext fun i => ?_
  unfold findOne
  rw [Option.filter_eq_some_iff]
  constructor
  · intro hfound
    have hmem := List.mem_of_find?_eq_some hfound
    have hholds := List.find?_some hfound
    rw [Filter.holds_and, Bool.and_eq_true, Filter.holds_byId_iff] at hholds
    obtain ⟨hf, rfl⟩ := hholds
    exact ⟨h.get?_of_mem_values hmem, hf⟩
  · rintro ⟨hi, hf⟩
    cases hfound : s.interests.values.find? _ with
    | none =>
      have hnone := List.find?_eq_none.1 hfound i (Dict.mem_values_iff.2 ⟨id, hi⟩)
      rw [Filter.holds_and, hf, (Filter.holds_byId_iff id i).2 (h id i hi)] at hnone
      exact absurd rfl hnone
    | some j =>
      have hmem := List.mem_of_find?_eq_some hfound
      have hholds := List.find?_some hfound
      rw [Filter.holds_and, Bool.and_eq_true, Filter.holds_byId_iff] at hholds
      obtain ⟨-, rfl⟩ := hholds
      rw [← hi, ← h.get?_of_mem_values hmem]

/-- What is removed by a search for an id is the entry of the id. -/
theorem interests_deleteOne {f : Filter} {id : String} {i : Interest}
    (hfound : s.findOne (f.and (.byId (.text id))) = some i) :
    s.interests.get? id = some i ∧ f.holds i.target = true ∧
      (s.deleteOne (f.and (.byId (.text id)))).2.interests = s.interests.erase id := by
  have hlookup := hfound
  rw [h.findOne_byId, Option.filter_eq_some_iff] at hlookup
  refine ⟨hlookup.1, hlookup.2, ?_⟩
  rw [Store.interests_deleteOne, hfound, Option.elim_some, h id i hlookup.1]

end Keyed

end Store

end VolunteerAccess
