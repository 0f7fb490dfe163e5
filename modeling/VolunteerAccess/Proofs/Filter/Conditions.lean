import VolunteerAccess.Ability
import VolunteerAccess.Proofs.Filter.Meaning

/-!
# The conditions in a filter

What a filter tests can be read off without looking at how it is put together.
The combinators make no new conditions, and neither does an ability: its filters
test what its rules test.

- `Filter.conditions`: the conditions that occur in a filter, however deep.
- `Filter.mem_conditions_or`, `Filter.mem_conditions_and`,
  `Filter.conditions_negate`: the combinators.
- `Ability.mem_conditions_filterFor`: **a filter of an ability tests nothing but the
  conditions of its rules**.
-/

namespace VolunteerAccess

namespace Filter

mutual

/-- The conditions that occur in a filter, however deep. -/
def conditions : Filter → List Condition
  | .nothing | .everything => []
  | .where c => [c]
  | .not f => conditions f
  | .all fs | .any fs => conditionsOf fs

def conditionsOf : List Filter → List Condition
  | [] => []
  | f :: fs => conditions f ++ conditionsOf fs

end

theorem conditionsOf_eq : (fs : List Filter) → conditionsOf fs = fs.flatMap conditions
  | [] => rfl
  | f :: fs => by rw [conditionsOf, conditionsOf_eq fs, List.flatMap_cons]

variable {c : Condition} {f g : Filter}

/-- A constant that absorbs a filter absorbs its conditions, so there may be fewer. -/
theorem mem_conditions_or (h : c ∈ (f.or g).conditions) : c ∈ f.conditions ∨ c ∈ g.conditions := by
  revert h
  fun_cases Filter.or f g <;> simp_all [conditions, conditionsOf_eq]

theorem mem_conditions_and (h : c ∈ (f.and g).conditions) :
    c ∈ f.conditions ∨ c ∈ g.conditions := by
  revert h
  fun_cases Filter.and f g <;> simp_all [conditions, conditionsOf_eq]

theorem conditions_negate (f : Filter) : f.negate.conditions = f.conditions := by
  fun_cases Filter.negate f <;> simp [conditions]

theorem mem_conditions_ofCondition {d : Condition} (h : c ∈ (ofCondition d).conditions) :
    c = d := by
  unfold ofCondition at h
  split at h
  · exact absurd h List.not_mem_nil
  · split at h
    · exact absurd h List.not_mem_nil
    · exact List.mem_singleton.1 h

end Filter

namespace Ability

variable {c : Condition}

theorem mem_conditions_selected {r : Rule} (h : c ∈ (selected r).conditions) :
    r.conditions = some c := by
  unfold selected at h
  cases hr : r.conditions with
  | none =>
    rw [hr] at h
    exact absurd h List.not_mem_nil
  | some d =>
    rw [hr] at h
    rw [Filter.mem_conditions_ofCondition h]

/-- A rule adds at most its own condition. -/
theorem mem_conditions_extend {allowed : Filter} {r : Rule}
    (h : c ∈ (extend allowed r).conditions) : c ∈ allowed.conditions ∨ r.conditions = some c := by
  unfold extend at h
  split at h
  · refine (Filter.mem_conditions_and h).imp_right fun hr => mem_conditions_selected ?_
    rw [Filter.conditions_negate] at hr
    exact hr
  · exact (Filter.mem_conditions_or h).imp_right mem_conditions_selected

theorem mem_conditions_foldl_extend {rs : List Rule} {allowed : Filter}
    (h : c ∈ (rs.foldl extend allowed).conditions) :
    c ∈ allowed.conditions ∨ ∃ r ∈ rs, r.conditions = some c := by
  induction rs generalizing allowed with
  | nil => exact .inl h
  | cons r rs ih =>
    rcases ih h with hfirst | ⟨r', hr', hc⟩
    · refine (mem_conditions_extend hfirst).imp_right fun hc => ?_
      exact ⟨r, List.mem_cons_self, hc⟩
    · exact .inr ⟨r', List.mem_cons_of_mem r hr', hc⟩

/-- **A filter of an ability tests nothing but the conditions of its rules.** -/
theorem mem_conditions_filterFor {a : Ability} {action : Action}
    (h : c ∈ (a.filterFor action).conditions) : ∃ r ∈ a.rules, r.conditions = some c := by
  rcases mem_conditions_foldl_extend h with hnone | ⟨r, hr, hc⟩
  · exact absurd hnone List.not_mem_nil
  · exact ⟨r, (List.mem_filter.1 hr).1, hc⟩

end Ability

end VolunteerAccess
