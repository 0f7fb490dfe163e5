import VolunteerAccess.Ability
import VolunteerAccess.Proofs.Filter.Constants

/-!
# The normal form of filters

A combinator looks at the outermost constructors of its operands only. This is enough:
of operands that are simplified throughout it makes a filter that is so again, and
therefore the filters of abilities are simplified however their rules follow each other.

- `Filter.Proper`: a filter that is simplified throughout and no constant.
  `Filter.Normal`: one that is simplified throughout.
- `Filter.Joint`: conjunction and disjunction, so that their laws are stated once.
  `Filter.Joint.join_eq_make`: **a joint of filters that are no constants has the parts of
  both**.
- `Filter.Normal.join`, `Filter.Normal.negate`: the combinators keep the normal form;
  `Filter.Normal.negate_negate`: two negations cancel.
- `Ability.normal_filterFor`: the filters of an ability are in normal form.
-/

namespace VolunteerAccess

namespace Filter

/-! ## Simplified filters -/

/-- A filter in which nothing is left to simplify and which is no constant: all its conditions
test something and none asks for a member of the empty list, joints have two parts or more, and
no negation or joint stands directly in another one of its kind. -/
inductive Proper : Filter → Prop where
  | where {c : Condition} (htested : c.isEmpty = false) (hmet : ¬ c.Void) : Proper (.where c)
  | not {f : Filter} (hinner : Proper f) (hsingle : ∀ g, f ≠ .not g) : Proper (.not f)
  | all {fs : List Filter} (htwo : 2 ≤ fs.length) (hparts : ∀ f ∈ fs, Proper f)
      (hflat : ∀ f ∈ fs, ∀ gs, f ≠ .all gs) : Proper (.all fs)
  | any {fs : List Filter} (htwo : 2 ≤ fs.length) (hparts : ∀ f ∈ fs, Proper f)
      (hflat : ∀ f ∈ fs, ∀ gs, f ≠ .any gs) : Proper (.any fs)

/-- A filter in which nothing is left to simplify. A constant is one only where it stands alone. -/
def Normal (f : Filter) : Prop := f = .nothing ∨ f = .everything ∨ f.Proper

variable {f g : Filter}

theorem Proper.normal (h : f.Proper) : f.Normal := .inr (.inr h)

/-- A filter that is one of the constants. -/
def IsConstant (f : Filter) : Prop := f = .nothing ∨ f = .everything

theorem Proper.not_isConstant (h : f.Proper) : ¬ f.IsConstant := by
  rintro (rfl | rfl) <;> cases h

theorem normal_nothing : nothing.Normal := .inl rfl

theorem normal_everything : everything.Normal := .inr (.inl rfl)

/-! ## Negation -/

theorem Proper.negate (h : f.Proper) : f.negate.Proper := by
  cases h with
  | not hinner _ => exact hinner
  | «where» htested hmet => exact .not (.where htested hmet) fun g heq => by cases heq
  | all htwo hparts hflat => exact .not (.all htwo hparts hflat) fun g heq => by cases heq
  | any htwo hparts hflat => exact .not (.any htwo hparts hflat) fun g heq => by cases heq

theorem Normal.negate (h : f.Normal) : f.negate.Normal := by
  obtain rfl | rfl | hproper := h
  · exact normal_everything
  · exact normal_nothing
  · exact hproper.negate.normal

/-- The negation of what stands in a negation puts the negation back, as it is neither a
constant nor a negation itself. -/
theorem Normal.negate_negate (h : f.Normal) : f.negate.negate = f := by
  obtain rfl | rfl | hproper := h
  · rfl
  · rfl
  · cases hproper with
    | not hinner hsingle =>
      cases hinner with
      | not _ _ => exact absurd rfl (hsingle _)
      | _ => rfl
    | _ => rfl

/-! ## Joints -/

/-- The two ways to join filters. -/
inductive Joint where
  | all
  | any

namespace Joint

/-- The filter that joins some filters. -/
def make : Joint → List Filter → Filter
  | all => .all
  | any => .any

/-- The combinator that joins two filters. -/
def join : Joint → Filter → Filter → Filter
  | all => .and
  | any => .or

/-- The parts of a filter that was joined in this way. Any other filter is its own only part. -/
def parts : Joint → Filter → List Filter
  | all, .all fs => fs
  | any, .any fs => fs
  | _, f => [f]

/-- The constant that adds nothing to a joint. -/
def neutral : Joint → Filter
  | all => .everything
  | any => .nothing

/-- The constant that a joint with it is. -/
def absorbing : Joint → Filter
  | all => .nothing
  | any => .everything

variable (j : Joint) (f : Filter)

theorem neutral_join : j.join j.neutral f = f := by
  cases j <;> cases f <;> rfl

theorem join_neutral : j.join f j.neutral = f := by
  cases j <;> cases f <;> rfl

theorem absorbing_join : j.join j.absorbing f = j.absorbing := by
  cases j <;> cases f <;> rfl

theorem join_absorbing : j.join f j.absorbing = j.absorbing := by
  cases j <;> cases f <;> rfl

variable {f} {d : Filter}

/-- Whichever way filters are joined, a constant is neutral there or absorbs. -/
theorem normal_iff : f.Normal ↔ f = j.neutral ∨ f = j.absorbing ∨ f.Proper := by
  cases j with
  | all => exact or_left_comm
  | any => exact Iff.rfl

/-- **A joint of filters that are no constants has the parts of both**, simplified or not. -/
theorem join_eq_make (hf : ¬ f.IsConstant) (hg : ¬ g.IsConstant) :
    j.join f g = j.make (j.parts f ++ j.parts g) := by
  cases f with
  | nothing => exact absurd (.inl rfl) hf
  | everything => exact absurd (.inr rfl) hf
  | _ =>
    cases g with
    | nothing => exact absurd (.inl rfl) hg
    | everything => exact absurd (.inr rfl) hg
    | _ => cases j <;> rfl

/-- What is joined at least two of, none of it joined in the same way, is simplified if all of
it is. -/
theorem proper_make {fs : List Filter} (htwo : 2 ≤ fs.length)
    (hparts : ∀ d ∈ fs, d.Proper ∧ ∀ gs, d ≠ j.make gs) : (j.make fs).Proper := by
  cases j with
  | all => exact .all htwo (fun d hd => (hparts d hd).1) fun d hd => (hparts d hd).2
  | any => exact .any htwo (fun d hd => (hparts d hd).1) fun d hd => (hparts d hd).2

/-- A proper filter is a joint of this kind, or its own only part. -/
theorem parts_cases (hf : f.Proper) :
    (∃ fs, f = j.make fs ∧ j.parts f = fs) ∨ ((∀ gs, f ≠ j.make gs) ∧ j.parts f = [f]) := by
  cases j <;> cases hf <;> simp [make, parts]

/-- The parts of a proper filter are proper, and none of them is a joint of the same kind. -/
theorem proper_of_mem_parts (hf : f.Proper) (hd : d ∈ j.parts f) :
    d.Proper ∧ ∀ gs, d ≠ j.make gs := by
  obtain ⟨fs, rfl, hfs⟩ | ⟨hother, hself⟩ := j.parts_cases hf
  · rw [hfs] at hd
    cases j with
    | all =>
      cases hf with
      | all _ hparts hflat => exact ⟨hparts d hd, hflat d hd⟩
    | any =>
      cases hf with
      | any _ hparts hflat => exact ⟨hparts d hd, hflat d hd⟩
  · rw [hself] at hd
    obtain rfl := List.mem_singleton.1 hd
    exact ⟨hf, hother⟩

theorem length_parts_pos (hf : f.Proper) : 0 < (j.parts f).length := by
  cases j <;> cases hf <;> simp only [parts, List.length_singleton] <;> omega

theorem proper_join (hf : f.Proper) (hg : g.Proper) : (j.join f g).Proper := by
  rw [j.join_eq_make hf.not_isConstant hg.not_isConstant]
  refine j.proper_make ?_ (List.forall_mem_append.2 ⟨?_, ?_⟩)
  · have hfirst := j.length_parts_pos hf
    have hsecond := j.length_parts_pos hg
    rw [List.length_append]
    omega
  · exact fun d hd => j.proper_of_mem_parts hf hd
  · exact fun d hd => j.proper_of_mem_parts hg hd

end Joint

/-- The combinators keep the normal form. -/
theorem Normal.join (j : Joint) (hf : f.Normal) (hg : g.Normal) : (j.join f g).Normal := by
  obtain rfl | rfl | hfproper := j.normal_iff.1 hf
  · rw [j.neutral_join]
    exact hg
  · rw [j.absorbing_join]
    exact hf
  · obtain rfl | rfl | hgproper := j.normal_iff.1 hg
    · rw [j.join_neutral]
      exact hf
    · rw [j.join_absorbing]
      exact hg
    · exact (j.proper_join hfproper hgproper).normal

theorem Normal.or (hf : f.Normal) (hg : g.Normal) : (f.or g).Normal := Normal.join .any hf hg

theorem Normal.and (hf : f.Normal) (hg : g.Normal) : (f.and g).Normal := Normal.join .all hf hg

/-! ## Filters of conditions -/

theorem normal_ofCondition (c : Condition) : (ofCondition c).Normal := by
  unfold ofCondition
  split
  · exact normal_nothing
  · next hmet =>
    split
    · exact normal_everything
    · next htested =>
      rw [Condition.isUnsatisfiable_iff] at hmet
      exact (Proper.where (Bool.eq_false_iff.2 htested) hmet).normal

theorem normal_byId (id : Json) : (byId id).Normal := by
  refine (Proper.where rfl fun hvoid => ?_).normal
  have hunsat := Condition.isUnsatisfiable_iff.2 hvoid
  exact absurd hunsat Bool.false_ne_true

end Filter

/-! ## Filters of abilities -/

namespace Ability

theorem normal_selected (r : Rule) : (selected r).Normal := by
  unfold selected
  cases r.conditions with
  | none => exact Filter.normal_everything
  | some c => exact Filter.normal_ofCondition c

theorem normal_extend {allowed : Filter} (h : allowed.Normal) (r : Rule) :
    (extend allowed r).Normal := by
  unfold extend
  split
  · exact h.and (normal_selected r).negate
  · exact h.or (normal_selected r)

/-- The filter made so far stays in normal form with each further rule. -/
theorem normal_foldl_extend {allowed : Filter} (h : allowed.Normal) (rs : List Rule) :
    (rs.foldl extend allowed).Normal := by
  induction rs generalizing allowed with
  | nil => exact h
  | cons r rs ih => exact ih (normal_extend h r)

/-- **The filters of an ability are in normal form**, however its rules follow each other. -/
theorem normal_filterFor (a : Ability) (action : Action) : (a.filterFor action).Normal :=
  normal_foldl_extend Filter.normal_nothing _

end Ability

end VolunteerAccess
