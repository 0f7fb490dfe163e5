import VolunteerAccess.Proofs.Compilation.Outcomes
import VolunteerAccess.Proofs.Store.Keys
import VolunteerAccess.Service

/-!
# What a request changes

A request leaves the store alone, stores one interest, or removes one. The
opportunities are out of its reach, so the ability of a session is the same
before and after, however many requests are answered in between.

- `Service.Effect`: what a request can do to a store, with the decision behind it;
  `Service.effect_handle`: it does nothing else. `Service.store_handle`: the three
  effects without the decisions.
- `Service.ability_eq_ok_iff`, `Service.ability_congr`: an ability depends on the
  session and on opportunities, not on interests.
- `Service.ability_handle`: **a request changes nobody's ability**.
- `Store.Reachable`: the stores that fixtures lead to, whoever works on them;
  `Store.Reachable.keyed`: all of them hold interests under their own ids.
-/

namespace VolunteerAccess

namespace Service

variable (svc : Service) (call : Call)

/-- A deletion that is permitted depends on whether its filter selects something. -/
theorem handle_delete {id : String} {s : Store} {f : Filter}
    (h : svc.doomed call id s = .ok f) : svc.handle call (.delete id) s =
      match s.findOne f with
      | none => unchanged s (.error (.denied (.notFound .delete .interest)))
      | some _ => { answer := .ok .done, store := (s.deleteOne f).2, events := [deletion id] } := by
  simp only [handle, h, Store.deleteOne]
  cases s.findOne f <;> rfl

/-- What a request can do to a store, and the decision that lets it. -/
inductive Effect (s : Store) : Store → Prop where
  | unchanged : Effect s s
  | created {data : NewInterest} {i : Interest} (h : svc.drafted call data s = .ok i) :
      Effect s (s.save i).2
  | updated {id : String} {change : InterestUpdate} {i : Interest}
      (h : svc.revised call id change s = .ok i) : Effect s (s.save i).2
  | deleted {id : String} {f : Filter} {i : Interest} (h : svc.doomed call id s = .ok f)
      (hfound : s.findOne f = some i) : Effect s (s.deleteOne f).2

/-- A request has one of the effects, whether it is answered or refused. -/
theorem effect_handle (request : Request) (s : Store) :
    svc.Effect call s (svc.handle call request s).store := by
  cases request with
  | list q => exact .unchanged
  | get id => exact .unchanged
  | create data =>
    simp only [handle]
    cases h : svc.drafted call data s with
    | error e => exact .unchanged
    | ok i => exact .created h
  | update id change =>
    simp only [handle]
    cases h : svc.revised call id change s with
    | error e => exact .unchanged
    | ok i => exact .updated h
  | delete id =>
    cases h : svc.doomed call id s with
    | error e =>
      simp only [handle, h]
      exact .unchanged
    | ok f =>
      rw [svc.handle_delete call h]
      cases hfound : s.findOne f with
      | none => exact .unchanged
      | some i => exact .deleted h hfound

/-- A request leaves the store alone, stores one interest, or removes one. -/
theorem store_handle (request : Request) (s : Store) :
    (svc.handle call request s).store = s ∨
      (∃ i, (svc.handle call request s).store = (s.save i).2) ∨
      ∃ f, (svc.handle call request s).store = (s.deleteOne f).2 := by
  have heffect := svc.effect_handle call request s
  generalize (svc.handle call request s).store = t at heffect ⊢
  cases heffect with
  | unchanged => exact .inl rfl
  | created h | updated h => exact .inr (.inl ⟨_, rfl⟩)
  | deleted h hfound => exact .inr (.inr ⟨_, rfl⟩)

/-- What neither storing nor removing an interest changes is out of reach of requests. -/
theorem handle_frame {β : Type} {part : Store → β}
    (hsave : ∀ (s : Store) (i : Interest), part (s.save i).2 = part s)
    (hdelete : ∀ (s : Store) (f : Filter), part (s.deleteOne f).2 = part s)
    (request : Request) (s : Store) : part (svc.handle call request s).store = part s := by
  obtain h | ⟨i, h⟩ | ⟨f, h⟩ := svc.store_handle call request s
  · rw [h]
  · rw [h, hsave]
  · rw [h, hdelete]

theorem archivedInterests_handle (request : Request) (s : Store) :
    (svc.handle call request s).store.archivedInterests = s.archivedInterests :=
  svc.handle_frame call Store.archivedInterests_save Store.archivedInterests_deleteOne request s

theorem opportunities_handle (request : Request) (s : Store) :
    (svc.handle call request s).store.opportunities = s.opportunities :=
  svc.handle_frame call Store.opportunities_save Store.opportunities_deleteOne request s

theorem archivedOpportunities_handle (request : Request) (s : Store) :
    (svc.handle call request s).store.archivedOpportunities = s.archivedOpportunities :=
  svc.handle_frame call Store.archivedOpportunities_save Store.archivedOpportunities_deleteOne
    request s

/-! ## Abilities -/

theorem ability_eq_ok_iff {s : Store} {a : Ability} : svc.ability call s = .ok a ↔
    (svc.compiler (s.ownership call.outages.lookups)).compile call.session .interest = .ok a := by
  unfold ability
  exact mapError_eq_ok_iff

/-- The ability is for interests, whatever the compiler. -/
theorem subject_of_ability {s : Store} {a : Ability} (h : svc.ability call s = .ok a) :
    a.subject = .interest :=
  Compiler.subject_of_compile ((svc.ability_eq_ok_iff call).1 h)

/-- An ability does not depend on interests. -/
theorem ability_congr {s t : Store} (h : s.opportunities = t.opportunities)
    (harchived : s.archivedOpportunities = t.archivedOpportunities) :
    svc.ability call s = svc.ability call t := by
  unfold ability
  rw [Store.ownership_congr h harchived]

/-- **A request changes nobody's ability.** -/
theorem ability_handle (other : Call) (request : Request) (s : Store) :
    svc.ability call (svc.handle other request s).store = svc.ability call s :=
  svc.ability_congr call (svc.opportunities_handle other request s)
    (svc.archivedOpportunities_handle other request s)

end Service

/-! ## Reachable stores -/

namespace Store

/-- The stores that fixtures lead to: requests may be answered by any services in between, and
the store may be worked on directly. -/
inductive Reachable (f : Fixtures) : Store → Prop where
  | seeded : Reachable f (ofFixtures f)
  | operated {s : Store} (op : Operation) (h : Reachable f s) : Reachable f (op.apply s)
  | answered {s : Store} (svc : Service) (call : Call) (request : Request) (h : Reachable f s) :
      Reachable f (svc.handle call request s).store

/-- Requests store interests under their own ids, as all operations do. -/
theorem Keyed.handle {s : Store} (h : s.Keyed) (svc : Service) (call : Call) (request : Request) :
    (svc.handle call request s).store.Keyed := by
  obtain heq | ⟨i, heq⟩ | ⟨f, heq⟩ := svc.store_handle call request s
  · rw [heq]
    exact h
  · rw [heq]
    exact h.save i
  · rw [heq]
    exact h.deleteOne f

theorem Reachable.keyed {f : Fixtures} {s : Store} (h : Reachable f s) : s.Keyed := by
  induction h with
  | seeded => exact keyed_ofFixtures f
  | operated op _ ih => exact ih.apply op
  | answered svc call request _ ih => exact ih.handle svc call request

end Store

end VolunteerAccess
