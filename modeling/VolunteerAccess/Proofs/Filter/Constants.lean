import VolunteerAccess.Proofs.Filter.Meaning

/-!
# Filters that are constants

Callers ask whether a filter is one of the two constants before they use a store
at all. The combinators give a constant only where they must, so the question can
be carried from a filter to its parts:

- `Condition.Void`: a condition that asks for a member of the empty list.
- `Filter.or_eq_nothing_iff`, `Filter.or_eq_everything_iff`,
  `Filter.and_eq_nothing_iff`, `Filter.and_eq_everything_iff`: **a joint is a
  constant exactly when its parts say so**, whatever else they are.
- `Filter.negate_eq_nothing_iff`, `Filter.negate_eq_everything_iff`: so is a
  negation, unless it cancels another one.
- `Filter.ofCondition_eq_nothing_iff`, `Filter.ofCondition_eq_everything_iff`:
  when the filter of a condition is a constant.
-/

namespace VolunteerAccess

/-! ## Conditions -/

namespace Condition

variable {c : Condition}

/-- A condition one of whose tests is for membership in the empty list. -/
def Void (c : Condition) : Prop := ∃ field, c.tests.get? field = some (.isIn [])

theorem isUnsatisfiable_iff : c.isUnsatisfiable = true ↔ c.Void := by
  unfold isUnsatisfiable Void
  rw [List.any_eq_true]
  constructor
  · rintro ⟨m, hm, hempty⟩
    obtain ⟨field, hfield⟩ := Dict.mem_values_iff.1 hm
    cases m with
    | eq v => cases hempty
    | isIn vs =>
      have hvs : vs = [] := List.isEmpty_iff.1 hempty
      exact ⟨field, by rw [hfield, hvs]⟩
  · rintro ⟨field, hfield⟩
    exact ⟨.isIn [], Dict.mem_values_iff.2 ⟨field, hfield⟩, rfl⟩

/-- A condition without tests asks for nothing. -/
theorem not_void_of_isEmpty (h : c.isEmpty = true) : ¬ c.Void := by
  rintro ⟨field, hfield⟩
  have hnil : c.tests.entries = [] := List.isEmpty_iff.1 h
  have hmem := Dict.get?_eq_some_iff.1 hfield
  rw [hnil] at hmem
  exact absurd hmem List.not_mem_nil

end Condition

/-! ## Joints -/

namespace Filter

variable (f g : Filter)

theorem or_eq_nothing_iff : f.or g = .nothing ↔ f = .nothing ∧ g = .nothing := by
  fun_cases Filter.or f g <;> simp_all

theorem or_eq_everything_iff : f.or g = .everything ↔ f = .everything ∨ g = .everything := by
  fun_cases Filter.or f g <;> simp_all

theorem and_eq_nothing_iff : f.and g = .nothing ↔ f = .nothing ∨ g = .nothing := by
  fun_cases Filter.and f g <;> simp_all

theorem and_eq_everything_iff : f.and g = .everything ↔ f = .everything ∧ g = .everything := by
  fun_cases Filter.and f g <;> simp_all

variable {f}

/-- A negation that cancels another one may leave anything. -/
theorem negate_eq_nothing_iff (h : ∀ g, f ≠ .not g) : f.negate = .nothing ↔ f = .everything := by
  cases f with
  | not g => exact absurd rfl (h g)
  | _ => simp [negate]

theorem negate_eq_everything_iff (h : ∀ g, f ≠ .not g) :
    f.negate = .everything ↔ f = .nothing := by
  cases f with
  | not g => exact absurd rfl (h g)
  | _ => simp [negate]

/-! ## Filters of conditions -/

variable (c : Condition)

theorem ofCondition_eq_nothing_iff : ofCondition c = .nothing ↔ c.Void := by
  rw [← Condition.isUnsatisfiable_iff]
  unfold ofCondition
  split
  · next hunsat => exact iff_of_true rfl hunsat
  · next hsat =>
    refine iff_of_false (fun heq => ?_) hsat
    split at heq <;> cases heq

theorem ofCondition_eq_everything_iff : ofCondition c = .everything ↔ c.isEmpty = true := by
  unfold ofCondition
  split
  · next hunsat =>
    have hvoid := Condition.isUnsatisfiable_iff.1 hunsat
    exact iff_of_false (fun heq => by cases heq) fun hempty =>
      Condition.not_void_of_isEmpty hempty hvoid
  · split
    · next hempty => exact iff_of_true rfl hempty
    · next hempty => exact iff_of_false (fun heq => by cases heq) hempty

theorem ofCondition_ne_not : ofCondition c ≠ .not g := by
  unfold ofCondition
  split
  · exact fun heq => by cases heq
  · split <;> exact fun heq => by cases heq

end Filter

end VolunteerAccess
