import VolunteerAccess.Proofs.Ability.Verdict

/-!
# Grants that survive

Whether an action is possible with any record at all is asked before a record is
looked at. The answer must never be no for a record that the instance check
allows:

- `Ability.mem_takeWhile_of_find?`: the first match of a search stands before
  everything that would have been a match itself.
- `Ability.hasGrant_of_can`: **a permitted record has a surviving grant**, the
  very rule that permits it.
-/

namespace VolunteerAccess

namespace Ability

universe u

/-- If whatever stops the walk would have been a match, then the walk gets as far as the first
match, unless that one stops it. -/
theorem mem_takeWhile_of_find? {α : Type u} {p stop : α → Bool} {x : α} {xs : List α}
    (hstop : ∀ y, stop y = true → p y = true) (hfound : xs.find? p = some x)
    (hx : stop x = false) : x ∈ xs.takeWhile fun y => !stop y := by
  induction xs with
  | nil => cases hfound
  | cons y ys ih =>
    rw [List.find?_cons] at hfound
    cases hy : p y with
    | true =>
      rw [hy] at hfound
      cases hfound
      rw [List.takeWhile_cons, hx]
      exact List.mem_cons_self
    | false =>
      rw [hy] at hfound
      have hwalk : stop y = false := by
        cases hs : stop y with
        | false => rfl
        | true => exact absurd (hstop y hs) (by rw [hy]; exact Bool.false_ne_true)
      rw [List.takeWhile_cons, hwalk]
      exact List.mem_cons_of_mem y (ih hfound)

/-- A rule for all records speaks of every record. -/
theorem holds_of_isUnconditional {r : Rule} (h : r.isUnconditional = true) (t : Target) :
    r.holds t = true := by
  unfold Rule.isUnconditional at h
  unfold Rule.holds
  cases hc : r.conditions with
  | none => rfl
  | some c =>
    rw [hc] at h
    exact Condition.holds_of_isEmpty h t

/-- **A permitted record has a surviving grant**: no denial for all records comes after the rule
that permits it. -/
theorem hasGrant_of_can {a : Ability} {action : Action} {t : Target} (ht : t.resource = a.subject)
    (hcan : a.can action t = true) : a.hasGrant action = true := by
  unfold can at hcan
  cases hlast : a.rules.reverse.find? (fun r => r.appliesTo t.resource action && r.holds t) with
  | none =>
    rw [hlast] at hcan
    cases hcan
  | some r =>
    rw [hlast] at hcan
    have hgrant : r.inverted = false := by simpa using hcan
    -- Among the rules for the action the rule that decides is the last one that holds.
    have hfound : (a.rulesFor action).reverse.find? (·.holds t) = some r := by
      unfold rulesFor
      rw [← List.filter_reverse, List.find?_filter, ← ht]
      simpa only [Bool.decide_and, Bool.decide_eq_true] using hlast
    have hdenial : ∀ s, isBlanketDenial s = true → s.holds t = true := by
      intro s hs
      unfold isBlanketDenial at hs
      rw [Bool.and_eq_true] at hs
      exact holds_of_isUnconditional hs.2 t
    have hr : isBlanketDenial r = false := by
      unfold isBlanketDenial
      rw [hgrant, Bool.false_and]
    unfold hasGrant afterBlanketDenial
    rw [List.any_eq_true]
    refine ⟨r, List.mem_reverse.2 (mem_takeWhile_of_find? hdenial hfound hr), ?_⟩
    rw [hgrant]
    rfl

end Ability

end VolunteerAccess
