import VolunteerAccess.Proofs.Dict.Insertion
import VolunteerAccess.Proofs.Store.Removals

/-!
# What holds of every store

Interests get into a store from fixtures and by saves, and are taken out by searches. Seeding,
saving and removing each see to it on their own that an interest stands under the id that it
carries. All that the service says about ids depends on this.

- `Store.keyed_after`: interests stand under their own ids, whatever was done to the store;
  `Store.archivedInterests_after`: the archived ones are still those of the fixtures.
- `Store.findById_ofFixtures`: of two fixtures with one id the later is the one that is seeded.
- `Store.RemovesFound`: what a removal does and what it counts.
- `Store.represented_after`: **look-ups, searches and removals agree about every store that
  can be reached**.
-/

namespace VolunteerAccess

namespace Store

variable {s : Store}

/-! ## Histories -/

/-- No sequence of operations stores an interest under a key that is not its id. -/
theorem Keyed.foldl (h : s.Keyed) (ops : List Operation) : (ops.foldl Operation.apply s).Keyed := by
  induction ops generalizing s with
  | nil => exact h
  | cons op ops ih => exact ih (h.apply op)

theorem keyed_after (f : Fixtures) (ops : List Operation) : (after f ops).Keyed :=
  (keyed_ofFixtures f).foldl ops

/-- No operation is for archived interests. -/
theorem archivedInterests_apply (op : Operation) (s : Store) :
    (op.apply s).archivedInterests = s.archivedInterests := by
  cases op with
  | query f | findOne f => rfl
  | save i => exact archivedInterests_save s i
  | deleteOne f => exact archivedInterests_deleteOne s f
  | addOpportunity scope o => cases scope <;> rfl

theorem archivedInterests_foldl (ops : List Operation) (s : Store) :
    (ops.foldl Operation.apply s).archivedInterests = s.archivedInterests := by
  induction ops generalizing s with
  | nil => rfl
  | cons op ops ih => exact (ih (op.apply s)).trans (archivedInterests_apply op s)

theorem archivedInterests_after (f : Fixtures) (ops : List Operation) :
    (after f ops).archivedInterests = (ofFixtures f).archivedInterests :=
  archivedInterests_foldl ops (ofFixtures f)

/-! ## Seeds -/

/-- The interests that fixtures have for a resource. -/
def seeds (f : Fixtures) : Resource → List Interest
  | .interest => f.interests
  | .interestArchive => f.archivedInterests

/-- Of two interests with one id the later is the one that is indexed. -/
theorem get?_index (is : List Interest) (id : String) :
    (index is).get? id = is.reverse.find? fun i => i.id == id := by
  unfold index
  rw [Dict.get?_ofList, ← List.map_reverse, List.find?_map, Option.map_map]
  exact Option.map_id'

/-- Of two fixtures with one id the later is the one that is seeded. -/
theorem findById_ofFixtures (f : Fixtures) (resource : Resource) (id : String) :
    (ofFixtures f).findById resource id = (seeds f resource).reverse.find? fun i => i.id == id := by
  cases resource with
  | interest => exact get?_index f.interests id
  | interestArchive => exact get?_index f.archivedInterests id

/-! ## Look-ups, searches and removals -/

/-- A search for an id finds what a look-up of the id does. -/
theorem Keyed.findById_eq_findOne (h : s.Keyed) (id : String) :
    s.findById .interest id = s.findOne (.byId (.text id)) := by
  show s.interests.get? id = s.findOne (Filter.everything.and (.byId (.text id)))
  rw [h.findOne_byId]
  cases s.interests.get? id <;> rfl

/-- A removal counts one if and only if a search finds an interest, and that is the one which it
takes out. Otherwise it counts none and nothing happens. -/
structure RemovesFound (s : Store) (f : Filter) : Prop where
  counted : (s.deleteOne f).1 = 1 ↔ (s.findOne f).isSome = true
  removed : ∀ i, s.findOne f = some i → Removes s (s.deleteOne f).2 i
  spared : s.findOne f = none → s.deleteOne f = (0, s)

theorem Keyed.removesFound (h : s.Keyed) (f : Filter) : s.RemovesFound f where
  counted := by
    cases hfound : s.findOne f with
    | none => simp [deleteOne_of_none hfound]
    | some i => simp [deleteOne_of_some hfound]
  removed _ hfound := h.removes_deleteOne hfound
  spared := deleteOne_of_none

/-- **Look-ups, searches and removals agree about every store that can be reached.** Every live
interest stands under its own id, so that no search finds two of one id, and a search for an id
finds what a look-up does. At first each id has the last interest that the fixtures have for it,
and the archived ones stay so. A removal takes out the interest that a search with its filter
finds. So removals with one filter count one for each interest that it selects and none after
that, and what is left is the interests that it does not select. -/
theorem represented_after (f : Fixtures) (ops : List Operation) :
    (after f ops).Keyed ∧
    (∀ g, ((after f ops).query g).Pairwise fun i j => i.id ≠ j.id) ∧
    (∀ id, (after f ops).findById .interest id = (after f ops).findOne (.byId (.text id))) ∧
    (∀ resource id, (after f []).findById resource id =
      (seeds f resource).reverse.find? fun i => i.id == id) ∧
    (after f ops).archivedInterests = (after f []).archivedInterests ∧
    ∀ g, (after f ops).RemovesFound g ∧
      ∀ n, deleteTimes g (((after f ops).query g).length + n) (after f ops) =
        (List.replicate ((after f ops).query g).length 1 ++ List.replicate n 0,
          { after f ops with
            interests := (after f ops).interests.select fun i => !g.holds i.target }) := by
  have hs := keyed_after f ops
  exact ⟨hs, hs.pairwise_id_query, hs.findById_eq_findOne, findById_ofFixtures f,
    archivedInterests_after f ops, fun g => ⟨hs.removesFound g, hs.deleteTimes_eq g⟩⟩

/-- Fixtures with two interests under one id. -/
def reseeded : Fixtures :=
  { Fixtures.empty with
    interests := [{ newcomer with id := "i1", person := "p1" },
      { newcomer with id := "i1", person := "p2" }] }

/-- The second one is seeded. With one that is stored later there are two to remove. -/
theorem represented_after_reseeded :
    (after reseeded []).findById .interest "i1" =
      some { newcomer with id := "i1", person := "p2" } ∧
    deleteTimes .everything 3 (after reseeded [.save newcomer]) =
      ([1, 1, 0], { after reseeded [.save newcomer] with interests := .empty }) := by
  obtain ⟨-, -, -, hseeded, -, hremovals⟩ := represented_after reseeded [.save newcomer]
  obtain ⟨-, htimes⟩ := hremovals .everything
  have htwo : ((after reseeded [.save newcomer]).query .everything).length = 2 := length_query _ _
  have hthree := htimes 1
  rw [htwo] at hthree
  exact ⟨hseeded .interest "i1", hthree⟩

end Store

end VolunteerAccess
