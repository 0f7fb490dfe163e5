import VolunteerAccess.Proofs.Ability.Verdict
import VolunteerAccess.Proofs.Compilation.Outcomes

/-!
# Rule sets put together step by step

The rule sets of the policy are chains of grants and denials. This module reads
such a chain step by step:

- `RuleSet.verdict`: what a rule set says of an action on a record. Each step of
  the chain decides if it matches, and else leaves the verdict to those before it.
- `RuleSet.wellFormed_push`: a chain is well-formed if its steps are.
- `RuleSet.Tests`: what the conditions of a chain have in common.
- `Ability.verdict_flatMap_toList`: of the rule sets of several roles the one of
  the highest role that has a verdict decides.
-/

namespace VolunteerAccess

namespace RuleSet

variable {action : Action} {t : Target} {subject : Resource}

/-- What the rules of a set say of an action on a record. -/
def verdict (s : RuleSet) (action : Action) (t : Target) : Option Bool :=
  Ability.verdict s.rules action t

@[simp] theorem verdict_empty : (empty subject).verdict action t = none := rfl

/-! ## Steps of a chain -/

@[simp] theorem subject_empty : (empty subject).subject = subject := rfl

@[simp] theorem subject_grant (s : RuleSet) (a : Action) : (s.grant a).subject = s.subject := rfl

@[simp] theorem subject_grantIf (s : RuleSet) (a : Action) (c : Condition) :
    (s.grantIf a c).subject = s.subject := rfl

@[simp] theorem subject_deny (s : RuleSet) (a : Action) : (s.deny a).subject = s.subject := rfl

/-- The last step decides if it speaks of the action on the record. -/
theorem verdict_push (s : RuleSet) (r : Rule) :
    (s.push r).verdict action t =
      if Ability.speaks action t r then some (!r.inverted) else s.verdict action t := by
  show Ability.verdict (s.rules ++ [r]) action t = _
  rw [Ability.verdict_append, Ability.verdict_singleton]
  split <;> rfl

@[simp] theorem verdict_grant (s : RuleSet) (a : Action) :
    (s.grant a).verdict action t =
      if s.subject = t.resource ∧ a = action then some true else s.verdict action t := by
  unfold grant
  rw [verdict_push]
  simp [Ability.speaks, Rule.appliesTo, Rule.holds, Rule.grant]

@[simp] theorem verdict_grantIf (s : RuleSet) (a : Action) (c : Condition) :
    (s.grantIf a c).verdict action t =
      if (s.subject = t.resource ∧ a = action) ∧ c.holds t = true then some true
      else s.verdict action t := by
  unfold grantIf
  rw [verdict_push]
  simp [Ability.speaks, Rule.appliesTo, Rule.holds, Rule.grant, Rule.onlyIf]

@[simp] theorem verdict_deny (s : RuleSet) (a : Action) :
    (s.deny a).verdict action t =
      if s.subject = t.resource ∧ a = action then some false else s.verdict action t := by
  unfold deny
  rw [verdict_push]
  simp [Ability.speaks, Rule.appliesTo, Rule.holds, Rule.grant, Rule.deny]

/-! ## Well-formed chains -/

@[simp] theorem wellFormed_empty : (empty subject).WellFormed subject := fun _ hr =>
  absurd hr List.not_mem_nil

theorem wellFormed_push (s : RuleSet) (r : Rule) :
    (s.push r).WellFormed subject ↔ s.WellFormed subject ∧ r.WellFormed subject := by
  unfold WellFormed
  show (∀ r' ∈ s.rules ++ [r], r'.WellFormed subject) ↔ _
  rw [List.forall_mem_append, List.forall_mem_singleton]

@[simp] theorem wellFormed_grant (s : RuleSet) (a : Action) :
    (s.grant a).WellFormed subject ↔ s.WellFormed subject ∧ s.subject = subject := by
  unfold grant
  rw [wellFormed_push, Rule.wellFormed_iff_of_none rfl]
  rfl

@[simp] theorem wellFormed_deny (s : RuleSet) (a : Action) :
    (s.deny a).WellFormed subject ↔ s.WellFormed subject ∧ s.subject = subject := by
  unfold deny
  rw [wellFormed_push, Rule.wellFormed_iff_of_none rfl]
  rfl

@[simp] theorem wellFormed_grantIf (s : RuleSet) (a : Action) (c : Condition) :
    (s.grantIf a c).WellFormed subject ↔
      s.WellFormed subject ∧ s.subject = subject ∧
        ∀ field ∈ c.fields, subject.hasField field = true := by
  unfold grantIf
  rw [wellFormed_push]
  refine and_congr_right fun _ => ⟨fun h => ⟨h.subject_eq, h.hasField c rfl⟩, ?_⟩
  rintro ⟨hsub, hfields⟩
  exact ⟨hsub, fun c' hc' => by cases hc'; exact hfields⟩

/-! ## Conditions of a chain -/

/-- All conditions of a rule set have a property. -/
def Tests (P : Condition → Prop) (s : RuleSet) : Prop :=
  ∀ r ∈ s.rules, ∀ c, r.conditions = some c → P c

variable {P : Condition → Prop}

@[simp] theorem tests_empty : (empty subject).Tests P := fun _ hr => absurd hr List.not_mem_nil

theorem tests_push (s : RuleSet) (r : Rule) :
    (s.push r).Tests P ↔ s.Tests P ∧ ∀ c, r.conditions = some c → P c := by
  unfold Tests
  show (∀ r' ∈ s.rules ++ [r], _) ↔ _
  rw [List.forall_mem_append, List.forall_mem_singleton]

@[simp] theorem tests_grant (s : RuleSet) (a : Action) : (s.grant a).Tests P ↔ s.Tests P := by
  unfold grant
  rw [tests_push]
  exact and_iff_left fun c hc => by cases hc

@[simp] theorem tests_deny (s : RuleSet) (a : Action) : (s.deny a).Tests P ↔ s.Tests P := by
  unfold deny
  rw [tests_push]
  exact and_iff_left fun c hc => by cases hc

@[simp] theorem tests_grantIf (s : RuleSet) (a : Action) (c : Condition) :
    (s.grantIf a c).Tests P ↔ s.Tests P ∧ P c := by
  unfold grantIf
  rw [tests_push]
  refine and_congr_right fun _ => ⟨fun h => h c rfl, fun h d hd => ?_⟩
  cases hd
  exact h

end RuleSet

/-! ## Rule sets of several roles -/

namespace Ability

variable {action : Action} {t : Target}

/-- Of several lists of rules the last one that has a verdict decides. -/
theorem verdict_flatMap {ι : Type} (xs : List ι) (rules : ι → List Rule) :
    verdict (xs.flatMap rules) action t =
      xs.reverse.findSome? (fun x => verdict (rules x) action t) := by
  induction xs with
  | nil => rfl
  | cons x xs ih =>
    rw [List.flatMap_cons, verdict_append, ih, List.reverse_cons, List.findSome?_append]
    congr 1
    rw [List.findSome?_singleton]

/-- The highest role that is held and has a verdict decides. -/
theorem verdict_flatMap_toList (s : RoleSet) (rules : Role → List Rule) :
    verdict (s.toList.flatMap rules) action t =
      Role.all.reverse.findSome? (fun r =>
        if s.contains r then verdict (rules r) action t else none) := by
  rw [verdict_flatMap]
  show (Role.all.filter s.contains).reverse.findSome? _ = _
  rw [← List.filter_reverse]
  induction Role.all.reverse with
  | nil => rfl
  | cons r rs ih =>
    rw [List.filter_cons, List.findSome?_cons]
    cases hr : s.contains r with
    | false => simpa using ih
    | true =>
      rw [if_pos rfl, if_pos rfl, List.findSome?_cons, ih]

end Ability

end VolunteerAccess
