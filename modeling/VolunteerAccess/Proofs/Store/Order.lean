import VolunteerAccess.Proofs.Store.Keys

/-!
# The order of search results

A search gives back what it finds oldest first, and interests of one age by id. No two
interests of a store share an id, so that the order leaves no choice: a result is
determined by what is in it.

- `Interest.Precedes`: the order, as a strict one.
- `Store.Keyed.pairwise_query`: **the result of a search strictly increases**, so nothing
  is in it twice.
- `Store.Keyed.query_eq_filter`: a search with a further test finds what the test leaves
  of the search without it, in the same order.
-/

namespace VolunteerAccess

/-! ## The order of interests -/

/-- An interest is older than another one, or of the same age and with a lesser id. -/
def Interest.Precedes (i j : Interest) : Prop :=
  i.dateAdded < j.dateAdded ∨ (i.dateAdded = j.dateAdded ∧ i.id < j.id)

theorem Interest.Precedes.irrefl (i : Interest) : ¬ i.Precedes i := by
  rintro (hage | ⟨-, hid⟩)
  · exact UInt64.lt_irrefl _ hage
  · exact String.lt_irrefl _ hid

/-- Of two interests only one comes before the other. -/
theorem Interest.Precedes.asymm {i j : Interest} (h : i.Precedes j) : ¬ j.Precedes i := by
  intro h'
  obtain hage | ⟨hage, hid⟩ := h
  · obtain hage' | ⟨hage', -⟩ := h'
    · exact UInt64.lt_asymm hage hage'
    · rw [hage'] at hage
      exact UInt64.lt_irrefl _ hage
  · obtain hage' | ⟨-, hid'⟩ := h'
    · rw [hage] at hage'
      exact UInt64.lt_irrefl _ hage'
    · exact String.lt_irrefl _ (String.lt_trans hid hid')

namespace Store

variable {s : Store} {f g : Filter} {i j : Interest}

/-! ## Sorting -/

theorem olderOrSame_iff : olderOrSame i j = true ↔
    i.dateAdded < j.dateAdded ∨ (i.dateAdded = j.dateAdded ∧ i.id ≤ j.id) := by
  unfold olderOrSame
  rw [Bool.or_eq_true, Bool.and_eq_true, decide_eq_true_iff, decide_eq_true_iff, beq_iff_eq]

theorem olderOrSame_trans (i j k : Interest) (hij : olderOrSame i j = true)
    (hjk : olderOrSame j k = true) : olderOrSame i k = true := by
  rw [olderOrSame_iff] at hij hjk ⊢
  obtain hage | ⟨hage, hid⟩ := hij
  · obtain hage' | ⟨hage', -⟩ := hjk
    · exact .inl (UInt64.lt_trans hage hage')
    · exact .inl (hage' ▸ hage)
  · obtain hage' | ⟨hage', hid'⟩ := hjk
    · exact .inl (hage ▸ hage')
    · exact .inr ⟨hage.trans hage', String.le_trans hid hid'⟩

theorem olderOrSame_total (i j : Interest) : (olderOrSame i j || olderOrSame j i) = true := by
  rw [Bool.or_eq_true, olderOrSame_iff, olderOrSame_iff]
  by_cases hage : i.dateAdded = j.dateAdded
  · obtain hid | hid := String.le_total i.id j.id
    · exact .inl (.inr ⟨hage, hid⟩)
    · exact .inr (.inr ⟨hage.symm, hid⟩)
  · obtain hlt | hlt := UInt64.lt_or_lt_of_ne hage
    · exact .inl (.inl hlt)
    · exact .inr (.inl hlt)

/-- Only interests of one id can be placed either way. -/
theorem precedes_of_olderOrSame (h : olderOrSame i j = true) (hid : i.id ≠ j.id) :
    i.Precedes j := by
  obtain hage | ⟨hage, hle⟩ := olderOrSame_iff.1 h
  · exact .inl hage
  · refine .inr ⟨hage, Decidable.byContradiction fun hnot => ?_⟩
    exact hid (String.le_antisymm hle (String.not_lt.1 hnot))

/-! ## Search results -/

namespace Keyed

variable (h : s.Keyed)
include h

/-- No two interests of a store share an id. -/
theorem pairwise_values : s.interests.values.Pairwise fun i j => i.id ≠ j.id := by
  unfold Dict.values
  rw [List.pairwise_map]
  refine s.interests.ordered.imp_of_mem fun {e e'} he he' hlt heq => ?_
  have hkey : e.2.id = e.1 := h e.1 e.2 (Dict.get?_eq_some_iff.2 he)
  have hkey' : e'.2.id = e'.1 := h e'.1 e'.2 (Dict.get?_eq_some_iff.2 he')
  rw [hkey, hkey'] at heq
  exact Dict.key_ne_of_lt hlt heq

/-- No two interests that are found share an id. -/
theorem pairwise_id_query (f : Filter) : (s.query f).Pairwise fun i j => i.id ≠ j.id :=
  (List.mergeSort_perm _ _).symm.pairwise (h.pairwise_values.filter _) Ne.symm

/-- **The result of a search strictly increases.** -/
theorem pairwise_query (f : Filter) : (s.query f).Pairwise Interest.Precedes := by
  have hsorted : (s.query f).Pairwise fun i j => olderOrSame i j = true := by
    unfold query
    exact List.pairwise_mergeSort olderOrSame_trans olderOrSame_total _
  exact hsorted.imp₂ (fun _ _ => precedes_of_olderOrSame) (h.pairwise_id_query f)

/-- No interest is found twice. -/
theorem nodup_query (f : Filter) : (s.query f).Nodup := by
  refine (h.pairwise_query f).imp fun {i j} hij heq => ?_
  subst heq
  exact Interest.Precedes.irrefl i hij

/-- A search with a further test finds what the test leaves of the search without it. -/
theorem query_eq_filter {test : Interest → Bool}
    (htest : ∀ i, f.holds i.target = (g.holds i.target && test i)) :
    s.query f = (s.query g).filter test := by
  have hperm : (s.query f).Perm ((s.query g).filter test) := by
    rw [List.perm_ext_iff_of_nodup (h.nodup_query f) ((h.nodup_query g).filter test)]
    intro i
    unfold query
    rw [List.mem_filter, List.mem_mergeSort, List.mem_mergeSort, List.mem_filter, List.mem_filter,
      htest, Bool.and_eq_true, and_assoc]
  -- Both lists increase, so they cannot differ in their order either.
  exact hperm.eq_of_pairwise (fun _ _ _ _ hij hji => absurd hji hij.asymm) (h.pairwise_query f)
    ((h.pairwise_query g).filter test)

end Keyed

end Store

end VolunteerAccess
