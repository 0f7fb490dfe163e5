import VolunteerAccess.Proofs.Filter.NormalForm

/-!
# The algebra of filters

Callers join filters in whatever order their conditions come up, and they join filters that
nobody has simplified. Neither may matter:

- `Filter.Joint.isConstant_iff`: each kind of joint has one constant that is neutral and one
  that absorbs.
- `Filter.Joint.join_assoc`: **bracketing never matters**. Away from the constants a joint is
  the list of its parts, and lists are appended.
- `Filter.combinators_exact`: **the combinators are the Boolean operations**, and disjunction and
  conjunction are monoids with an absorbing constant, on all filters.
-/

namespace VolunteerAccess.Filter

namespace Joint

variable (j : Joint) {f : Filter}

/-- A constant is neutral to a joint, or absorbs it. -/
theorem isConstant_iff : f.IsConstant ↔ f = j.neutral ∨ f = j.absorbing := by
  cases j with
  | all => exact or_comm
  | any => exact Iff.rfl

theorem not_isConstant_make (fs : List Filter) : ¬ (j.make fs).IsConstant := by
  cases j <;> rintro (heq | heq) <;> cases heq

@[simp] theorem parts_make (fs : List Filter) : j.parts (j.make fs) = fs := by
  cases j <;> rfl

/-- **Bracketing never matters**, also where parts are missing or could be flattened further. -/
theorem join_assoc (f g k : Filter) : j.join (j.join f g) k = j.join f (j.join g k) := by
  by_cases hf : f.IsConstant
  · obtain rfl | rfl := j.isConstant_iff.1 hf
    · rw [j.neutral_join, j.neutral_join]
    · rw [j.absorbing_join, j.absorbing_join, j.absorbing_join]
  by_cases hg : g.IsConstant
  · obtain rfl | rfl := j.isConstant_iff.1 hg
    · rw [j.join_neutral, j.neutral_join]
    · rw [j.join_absorbing, j.absorbing_join, j.join_absorbing]
  by_cases hk : k.IsConstant
  · obtain rfl | rfl := j.isConstant_iff.1 hk
    · rw [j.join_neutral, j.join_neutral]
    · rw [j.join_absorbing, j.join_absorbing, j.join_absorbing]
  -- No constant is left, so both sides are the joint of all parts.
  have hleft := j.not_isConstant_make (j.parts f ++ j.parts g)
  have hright := j.not_isConstant_make (j.parts g ++ j.parts k)
  calc j.join (j.join f g) k
      = j.join (j.make (j.parts f ++ j.parts g)) k := by rw [j.join_eq_make hf hg]
    _ = j.make (j.parts f ++ j.parts g ++ j.parts k) := by
      rw [j.join_eq_make hleft hk, j.parts_make]
    _ = j.make (j.parts f ++ (j.parts g ++ j.parts k)) := by rw [List.append_assoc]
    _ = j.join f (j.make (j.parts g ++ j.parts k)) := by
      rw [j.join_eq_make hf hright, j.parts_make]
    _ = j.join f (j.join g k) := by rw [j.join_eq_make hg hk]

end Joint

/-- **The combinators are the Boolean operations, and bracketing never matters**, whatever the
filters are: what is selected is as the operations say, and as filters the two joints are
associative, with one constant that is neutral and one that absorbs. -/
theorem combinators_exact (f g k : Filter) (t : Target) :
    ((f.or g).holds t = true ↔ f.holds t = true ∨ g.holds t = true) ∧
    ((f.and g).holds t = true ↔ f.holds t = true ∧ g.holds t = true) ∧
    (f.negate.holds t = true ↔ ¬ f.holds t = true) ∧
    (f.or g).or k = f.or (g.or k) ∧
    (f.and g).and k = f.and (g.and k) ∧
    (nothing.or f = f ∧ f.or nothing = f) ∧
    (everything.and f = f ∧ f.and everything = f) ∧
    (everything.or f = everything ∧ f.or everything = everything) ∧
    (nothing.and f = nothing ∧ f.and nothing = nothing) := by
  refine ⟨?_, ?_, ?_, Joint.any.join_assoc f g k, Joint.all.join_assoc f g k,
    ⟨Joint.any.neutral_join f, Joint.any.join_neutral f⟩,
    ⟨Joint.all.neutral_join f, Joint.all.join_neutral f⟩,
    ⟨Joint.any.absorbing_join f, Joint.any.join_absorbing f⟩,
    ⟨Joint.all.absorbing_join f, Joint.all.join_absorbing f⟩⟩
  · rw [holds_or, Bool.or_eq_true]
  · rw [holds_and, Bool.and_eq_true]
  · rw [holds_negate, Bool.not_eq_true', Bool.not_eq_true]

end VolunteerAccess.Filter
