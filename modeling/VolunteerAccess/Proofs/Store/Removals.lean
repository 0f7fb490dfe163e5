import Mathlib.Data.List.Basic
import VolunteerAccess.Proofs.Dict.Selection
import VolunteerAccess.Proofs.Store.Order

/-!
# Removals

A removal searches by a filter and takes out what the search finds, by the id that it
carries. That this is the interest that was found, and no other one, rests on interests
being stored under their own ids.

- `Store.Removes`: one interest is taken out, and nothing else is touched.
- `Store.Keyed.removes_deleteOne`: **a removal takes out the interest that the search
  finds**; `Store.Keyed.selected_deleteOne`: what the filter selects is shorter by one.
- `Store.deleteTimes`: several removals with one filter;
  `Store.Keyed.deleteTimes_eq`: **they take out what the filter selects, one interest
  each, and then nothing more**.
-/

namespace VolunteerAccess

namespace Store

variable {s t : Store} {f : Filter} {i : Interest}

/-! ## One removal -/

/-- One interest is taken out of a store, and nothing else is touched. -/
structure Removes (s t : Store) (i : Interest) : Prop where
  stored : s.interests.get? i.id = some i
  gone : t.interests.get? i.id = none
  others : ∀ k, k ≠ i.id → t.interests.get? k = s.interests.get? k
  archivedInterests : t.archivedInterests = s.archivedInterests
  opportunities : t.opportunities = s.opportunities
  archivedOpportunities : t.archivedOpportunities = s.archivedOpportunities
  issued : t.issued = s.issued

theorem deleteOne_of_none (h : s.findOne f = none) : s.deleteOne f = (0, s) := by
  unfold deleteOne
  rw [h]

theorem deleteOne_of_some (h : s.findOne f = some i) :
    s.deleteOne f = (1, { s with interests := s.interests.erase i.id }) := by
  unfold deleteOne
  rw [h]

theorem findOne_eq_none_iff : s.findOne f = none ↔
    ∀ i ∈ s.interests.values, f.holds i.target = false := by
  unfold findOne
  simp

theorem holds_of_findOne (h : s.findOne f = some i) : f.holds i.target = true := by
  have hholds := List.find?_some h
  exact hholds

namespace Keyed

variable (h : s.Keyed)
include h

/-- The interest that is found is stored under its id. -/
theorem get?_of_findOne (hfound : s.findOne f = some i) : s.interests.get? i.id = some i :=
  h.get?_of_mem_values (List.mem_of_find?_eq_some hfound)

/-- **A removal takes out the interest that the search finds**, and nothing else. -/
theorem removes_deleteOne (hfound : s.findOne f = some i) : Removes s (s.deleteOne f).2 i := by
  rw [deleteOne_of_some hfound]
  exact ⟨h.get?_of_findOne hfound, Dict.get?_erase_self _ _,
    fun k hk => Dict.get?_erase_of_ne _ hk, rfl, rfl, rfl, rfl⟩

/-- Without the entry of an id, the interests of all other ids are left. -/
theorem values_erase (id : String) :
    (s.interests.erase id).values = s.interests.values.filter fun i => i.id != id := by
  unfold Dict.values Dict.erase
  rw [List.filter_map]
  refine congrArg _ (List.filter_congr fun e he => ?_)
  show (e.1 != id) = (e.2.id != id)
  rw [h e.1 e.2 (Dict.get?_eq_some_iff.2 he)]

/-- A removal takes the first of the interests that its filter selects. -/
theorem selected_deleteOne (hfound : s.findOne f = some i) :
    s.interests.values.filter (fun j => f.holds j.target) =
      i :: (s.deleteOne f).2.interests.values.filter (fun j => f.holds j.target) := by
  have hhead := hfound
  rw [findOne_eq_head?] at hhead
  obtain ⟨rest, hrest⟩ := List.head?_eq_some_iff.1 hhead
  have hids : (i :: rest).Pairwise fun j k => j.id ≠ k.id := by
    rw [← hrest]
    exact h.pairwise_values.filter _
  have hself : (i.id != i.id) = false := by simp
  have hothers : rest.filter (fun j => j.id != i.id) = rest :=
    List.filter_eq_self.2 fun j hj => by simpa using ((List.pairwise_cons.1 hids).1 j hj).symm
  rw [deleteOne_of_some hfound]
  show _ = i :: (s.interests.erase i.id).values.filter _
  rw [h.values_erase, List.filter_comm, hrest, List.filter_cons, hself,
    if_neg Bool.false_ne_true, hothers]

end Keyed

/-! ## Several removals -/

/-- What is counted by some removals with one filter, and the store that is left. -/
def deleteTimes (f : Filter) : Nat → Store → List Nat × Store
  | 0, s => ([], s)
  | n + 1, s =>
    let rest := deleteTimes f n (s.deleteOne f).2
    ((s.deleteOne f).1 :: rest.1, rest.2)

/-- Where nothing is selected, nothing is counted and nothing happens. -/
theorem deleteTimes_of_none (hnone : s.findOne f = none) (n : Nat) :
    deleteTimes f n s = (List.replicate n 0, s) := by
  induction n with
  | zero => rfl
  | succ n ih => rw [deleteTimes, deleteOne_of_none hnone, ih, List.replicate_succ]

theorem length_query (s : Store) (f : Filter) :
    (s.query f).length = (s.interests.values.filter fun i => f.holds i.target).length := by
  unfold query
  rw [List.length_mergeSort]

/-- **Removals take out what the filter selects**, one interest each, until nothing is left for
them but the interests that the filter does not select. -/
theorem Keyed.deleteTimes_eq (h : s.Keyed) (f : Filter) (n : Nat) :
    deleteTimes f ((s.query f).length + n) s =
      (List.replicate (s.query f).length 1 ++ List.replicate n 0,
        { s with interests := s.interests.select fun i => !f.holds i.target }) := by
  -- The induction is on how many interests are still selected.
  generalize hm : (s.query f).length = m
  rw [length_query] at hm
  induction m generalizing s with
  | zero =>
    have hnone : s.findOne f = none := by
      rw [findOne_eq_head?, List.eq_nil_of_length_eq_zero hm, List.head?_nil]
    have hrest : s.interests.select (fun i => !f.holds i.target) = s.interests :=
      Dict.select_eq_self fun i hi => by rw [findOne_eq_none_iff.1 hnone i hi]; rfl
    rw [Nat.zero_add, deleteTimes_of_none hnone, hrest]
    rfl
  | succ m ih =>
    cases hfound : s.findOne f with
    | none =>
      rw [findOne_eq_head?, List.head?_eq_none_iff] at hfound
      rw [hfound] at hm
      cases hm
    | some i =>
      -- What is removed is selected, so the interests that are not selected stay.
      have hrest : (s.interests.erase i.id).select (fun i => !f.holds i.target) =
          s.interests.select fun i => !f.holds i.target :=
        Dict.select_erase_of_not (h.get?_of_findOne hfound) (by rw [holds_of_findOne hfound]; rfl)
      rw [h.selected_deleteOne hfound, List.length_cons] at hm
      rw [Nat.add_right_comm, deleteTimes, ih (h.deleteOne f) (Nat.succ.inj hm),
        deleteOne_of_some hfound, List.replicate_succ, List.cons_append]
      simp only [hrest]

end Store

end VolunteerAccess
