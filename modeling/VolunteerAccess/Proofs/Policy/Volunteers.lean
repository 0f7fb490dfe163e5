import VolunteerAccess.Proofs.Policy.Matrix

/-!
# What the policy leaves to volunteers

A session that holds at most the anonymous role and that of a volunteer gets no
further than its own interests. This does not depend on the look-ups of owned
opportunities, which such a session never needs, so it holds also while they are
out of order.

- `Session.Unprivileged`: the sessions in question.
- `Policy.compile_of_unprivileged`: their ability is the same whatever the
  look-ups answer.
- `Policy.isOwn_of_granted`: **all that their ability grants is their own**.
-/

namespace VolunteerAccess

/-- A session that holds no role but the anonymous one and that of a volunteer. -/
def Session.Unprivileged (s : Session) : Prop :=
  ∀ r, s.holds r = true → r = .anonymous ∨ r = .volunteer

/-- No other role is held. -/
theorem Session.Unprivileged.not_holds {s : Session} (h : s.Unprivileged) {r : Role}
    (hanonymous : r ≠ .anonymous) (hvolunteer : r ≠ .volunteer) : ¬ s.holds r = true := by
  intro hheld
  rcases h r hheld with heq | heq
  · exact hanonymous heq
  · exact hvolunteer heq

namespace Policy

variable {s : Session}

/-- The ability is the same whatever the look-ups answer. -/
theorem compile_of_unprivileged (h : s.Unprivileged) (concurrent : Bool)
    (lookup lookup' : Ownership) : (standard concurrent lookup).compile s .interest =
      (standard concurrent lookup').compile s .interest := by
  have hbuilder (l : Ownership) :
      (standard concurrent l).builder? .interest = some (liveBuilder l) := rfl
  refine Compiler.compile_congr (hbuilder lookup) (hbuilder lookup') rfl ?_
  refine Compiler.builds_congr rfl fun role hheld => ?_
  -- The rules of the two roles in question need no look-up.
  rcases h role hheld with rfl | rfl <;> rfl

/-- What the matrix permits to such a session is its own, and new only in the initial status. -/
theorem isOwn_of_permitted (h : s.Unprivileged) {store : Store} {t : Target} {action : Action}
    (hpermitted : Permitted store s t .interest action) :
    IsOwn s t ∧ (action = .create → t.field "status" = some (.text "interested")) := by
  have howned : ¬ IsOwned store .active s t := by
    rintro (hrequested | hoffered)
    · exact h.not_holds (by decide) (by decide) hrequested.1.2
    · exact h.not_holds (by decide) (by decide) hoffered.1.2
  have hadministrator : ¬ s.holds .administrator = true := h.not_holds (by decide) (by decide)
  cases action with
  | create =>
    obtain hadmin | ⟨hown, -, hstatus⟩ := hpermitted
    · exact absurd hadmin hadministrator
    · exact ⟨hown, fun _ => hstatus⟩
  | delete =>
    obtain hadmin | ⟨hown, -⟩ := hpermitted
    · exact absurd hadmin hadministrator
    · exact ⟨hown, fun heq => by cases heq⟩
  | list | read | update =>
    obtain hadmin | hown | hother := hpermitted
    · exact absurd hadmin hadministrator
    · exact ⟨hown, fun heq => by cases heq⟩
    · exact absurd hother howned

/-- **All that the ability of such a session grants is its own**, and what it may create is in
the initial status. -/
theorem isOwn_of_granted (h : s.Unprivileged) {concurrent : Bool} {store : Store}
    {refusals : Store.Refusals} {a : Ability}
    (ha : (standard concurrent (store.ownership refusals)).compile s .interest = .ok a)
    {action : Action} {t : Target} (ht : t.resource = .interest)
    (hgranted : (Ability.verdict a.rules action t).getD false = true) :
    IsOwn s t ∧ (action = .create → t.field "status" = some (.text "interested")) := by
  -- The matrix is about look-ups that are answered, and the ability is the same with those.
  rw [compile_of_unprivileged h concurrent _ (store.ownership .none), compile_standard] at ha
  cases ha
  rw [← ht] at hgranted
  have hpermitted := (grantedByRoles_iff store s action t).1
    ((verdict_roles_iff store s action t).1 hgranted)
  rw [ht] at hpermitted
  exact isOwn_of_permitted h hpermitted

end Policy

end VolunteerAccess
