import VolunteerAccess.Proofs.Service.Updates

/-!
# Whom the guard of status changes binds

A guard holds a table for interests that names a role. It binds a session that
holds this role, and only at interests of the session's own person, and only if
the table is for the status. Everybody else is treated as if there were no table.

- `Guard.Binds`: when a table binds a session at an interest.
- `Service.checkTransition_of_binds`, `Service.checkTransition_of_not_binds`: the
  judgement in both cases.
- `Service.update_guarded`: **a bound update succeeds only if the table permits
  it, and all other updates are what they are without a table**.
-/

namespace VolunteerAccess

/-- A table binds a session at an interest: it is for the status, the session holds the role
that it restricts, and the interest is of the session's person. -/
structure Guard.Binds (g : Guard) (session : Session) (i : Interest) (table : TransitionTable) :
    Prop where
  tabled : g.table? .interest = some table
  field : table.field = Service.statusField
  actor : session.holds table.actor = true
  own : session.identity = some i.person

namespace Service

variable {svc : Service} {call : Call} {id : String} {change : InterestUpdate} {s : Store}

/-! ## The judgement -/

/-- The rejection of a change of status. -/
def rejection (i : Interest) (target : String) : InvalidTransition :=
  { subject := .interest, source := i.status.name, target }

/-- Where a table binds, it decides. -/
theorem checkTransition_of_binds {session : Session} {i : Interest} {table : TransitionTable}
    (h : svc.guard.Binds session i table) (target : Status) :
    svc.checkTransition session i target =
      if table.permits i.status.name target.name then .ok ()
      else .error (.transition (rejection i target.name)) := by
  have hbound : (table.field == statusField && session.holds table.actor &&
      session.identity == some i.person) = true := by
    rw [h.field, h.actor, h.own]
    simp
  have hallows : svc.guard.allows .interest i.status.name target.name table.actor =
      table.permits i.status.name target.name := by
    simp only [Guard.allows, h.tabled, if_true]
  unfold checkTransition
  simp only [h.tabled, hbound, if_true, Guard.check, hallows]
  split <;> rfl

/-- A change that passes where a table binds is one that the table permits. -/
theorem permits_of_judge {session : Session} {i : Interest} {table : TransitionTable}
    (h : svc.guard.Binds session i table) {target : Status}
    (hjudged : svc.judge session i (some target) = .ok ()) :
    table.permits i.status.name target.name = true := by
  change svc.checkTransition session i target = .ok () at hjudged
  rw [checkTransition_of_binds h] at hjudged
  by_contra hforbidden
  rw [if_neg hforbidden] at hjudged
  cases hjudged

/-- Where none binds, every change passes. -/
theorem checkTransition_of_not_binds {session : Session} {i : Interest}
    (h : ∀ table, ¬ svc.guard.Binds session i table) (target : Status) :
    svc.checkTransition session i target = .ok () := by
  unfold checkTransition
  cases htable : svc.guard.table? .interest with
  | none => rfl
  | some table =>
    have hfree : ¬ (table.field == statusField && session.holds table.actor &&
        session.identity == some i.person) = true := by
      simp only [Bool.and_eq_true, beq_iff_eq]
      rintro ⟨⟨hfield, hactor⟩, hown⟩
      exact h table ⟨htable, hfield, hactor, hown⟩
    exact if_neg hfree

/-- A guard without a table for interests binds nobody. -/
theorem not_binds_of_none {g : Guard} (h : g.table? .interest = none) (session : Session)
    (i : Interest) (table : TransitionTable) : ¬ g.Binds session i table := by
  intro hbinds
  have htabled := hbinds.tabled
  rw [h] at htabled
  cases htabled

/-! ## Bound updates -/

/-- A bound update that succeeds was permitted. -/
theorem permits_of_update {i : Interest} {table : TransitionTable} {target : String}
    {answer : Answer} (hs : s.Keyed) (hi : s.interests.get? id = some i)
    (hbinds : svc.guard.Binds call.session i table) (htarget : change.status = some target)
    (h : (svc.handle call (.update id change) s).answer = .ok answer) :
    table.permits i.status.name target = true := by
  obtain ⟨j, hj, -⟩ := handle_update_of_ok h
  obtain ⟨a, i', st?, hrevision, -⟩ := (revised_eq_ok_iff hs).1 hj
  obtain rfl : i' = i := Option.some.inj (hrevision.stored.symm.trans hi)
  have hknown := hrevision.known
  rw [htarget] at hknown
  cases st? with
  | none => cases hknown
  | some st =>
    cases hknown
    exact permits_of_judge hbinds hrevision.judged

/-- A bound update that passes all earlier checks and is not permitted is rejected as such. -/
theorem revised_eq_rejection {i : Interest} {table : TransitionTable} {target : String}
    (hvisible : svc.visible call id s = .ok i)
    (hbinds : svc.guard.Binds call.session i table) (htarget : change.status = some target)
    (hknown : (Status.ofText? target).isSome = true)
    (hworded : ∀ m ∈ change.messages, Text.isBlank m.body = false)
    (hforbidden : table.permits i.status.name target = false) :
    svc.revised call id change s = .error (.transition (rejection i target)) := by
  obtain ⟨a, ha, hfound⟩ := bind_eq_ok_iff.1 hvisible
  obtain ⟨st, hst⟩ := Option.isSome_iff_exists.1 hknown
  obtain rfl := Status.ofText?_eq_some_iff.1 hst
  have hparsed : (some st.name).mapM parseStatus = .ok (some st) :=
    mapM_parseStatus_eq_ok_iff.2 rfl
  have hmessages : checkMessages change.messages = .ok () := checkMessages_eq_ok_iff.2 hworded
  have hjudged : svc.judge call.session i (some st) = .error (.transition (rejection i st.name)) := by
    show svc.checkTransition call.session i st = _
    rw [checkTransition_of_binds hbinds, hforbidden]
    rfl
  -- The checks before the judgement pass one by one.
  rw [revised_eq, ha, htarget]
  show (findVisible call a .read id s >>= _) = _
  rw [hfound]
  show ((some st.name).mapM parseStatus >>= _) = _
  rw [hparsed]
  show (checkMessages change.messages >>= _) = _
  rw [hmessages]
  show (svc.judge call.session i (some st) >>= _) = _
  rw [hjudged]
  rfl

/-! ## All other updates -/

/-- The guard matters only by its judgement of the stored interest and the status asked for. -/
theorem handle_update_congr (hs : s.Keyed) (g : Guard)
    (h : ∀ i target, s.interests.get? id = some i → change.status = target.map Status.name →
      svc.judge call.session i target = { svc with guard := g }.judge call.session i target) :
    svc.handle call (.update id change) s =
      { svc with guard := g }.handle call (.update id change) s := by
  have hrevised : svc.revised call id change s =
      { svc with guard := g }.revised call id change s := by
    rw [revised_eq, revised_eq]
    -- Where the judgement is asked for, the interest is the stored one and the status is known.
    refine bind_congr_ok fun a ha => bind_congr_ok fun i hi => bind_congr_ok fun target ht =>
      bind_congr fun _ => ?_
    obtain ⟨-, hstored, -⟩ :=
      (findVisible_eq_ok_iff hs (svc.subject_of_ability call ha)).1 hi
    rw [h i target hstored (mapM_parseStatus_eq_ok_iff.1 ht)]
  simp only [handle, hrevised]

/-- An update that no table binds is the same under a guard without a table. -/
theorem handle_update_of_free (hs : s.Keyed)
    (hfree : ∀ i table, s.interests.get? id = some i → change.status.isSome = true →
      ¬ svc.guard.Binds call.session i table)
    {g : Guard} (hg : g.table? .interest = none) :
    svc.handle call (.update id change) s =
      { svc with guard := g }.handle call (.update id change) s := by
  refine handle_update_congr hs g fun i target hi htarget => ?_
  -- Without a status nothing is judged.
  cases target with
  | none => rfl
  | some st =>
    have hrequested : change.status.isSome = true := by
      rw [htarget]
      rfl
    show svc.checkTransition call.session i st =
      { svc with guard := g }.checkTransition call.session i st
    rw [checkTransition_of_not_binds fun table => hfree i table hi hrequested,
      checkTransition_of_not_binds fun table => not_binds_of_none hg call.session i table]

/-! ## Updates under a guard -/

/-- **The guard binds exactly the role that it names, at its own interests.** Where a table binds
the session at the stored interest and a status is asked for, the update succeeds only if the
table permits the change, and if nothing else is wrong the rejection says so. In all other cases
the answer, the store and the events are those of the same request under a guard without a
table for interests. -/
theorem update_guarded {f : Fixtures} (hs : Store.Reachable f s) (svc : Service) (call : Call)
    (id : String) (change : InterestUpdate) :
    (∀ i table target, s.interests.get? id = some i → svc.guard.Binds call.session i table →
      change.status = some target →
      (∀ answer, (svc.handle call (.update id change) s).answer = .ok answer →
        table.permits i.status.name target = true) ∧
      (svc.visible call id s = .ok i → (Status.ofText? target).isSome = true →
        (∀ m ∈ change.messages, Text.isBlank m.body = false) →
        table.permits i.status.name target = false →
        svc.handle call (.update id change) s =
          unchanged s (.error (.transition (rejection i target))))) ∧
    ((∀ i table, s.interests.get? id = some i → change.status.isSome = true →
        ¬ svc.guard.Binds call.session i table) →
      ∀ g : Guard, g.table? .interest = none →
        svc.handle call (.update id change) s =
          { svc with guard := g }.handle call (.update id change) s) := by
  refine ⟨fun i table target hi hbinds htarget => ⟨fun answer hanswer => ?_, ?_⟩,
    fun hfree g hg => handle_update_of_free hs.keyed hfree hg⟩
  · exact permits_of_update hs.keyed hi hbinds htarget hanswer
  · intro hvisible hknown hworded hforbidden
    have hrevised := revised_eq_rejection hvisible hbinds htarget hknown hworded hforbidden
    simp only [handle, hrevised]

/-- A request of a volunteer who also administers an organisation. -/
def byVolunteer : Call :=
  { session := .ofPerson "p1" [.volunteer, .organisationAdmin] ["org1"], now := 7,
    outages := .none }

/-- A commitment. -/
def commitment : InterestUpdate :=
  { status := some "committed", messages := [], kind := .accept }

/-- A volunteer cannot commit before being invited; an administrator is not held back. -/
theorem update_guarded_commitment :
    (standard false .standard).handle byVolunteer (.update "i1" commitment)
        (.ofFixtures (Store.seeded "i1")) =
      unchanged (.ofFixtures (Store.seeded "i1"))
        (.error (.transition
          { subject := .interest, source := "interested", target := "committed" })) ∧
    (standard false .standard).handle byAdministrator (.update "i1" commitment)
        (.ofFixtures (Store.seeded "i1")) =
      (standard false .none).handle byAdministrator (.update "i1" commitment)
        (.ofFixtures (Store.seeded "i1")) := by
  have hreached : Store.Reachable (Store.seeded "i1") (.ofFixtures (Store.seeded "i1")) := .seeded
  obtain ⟨hbound, -⟩ :=
    update_guarded hreached (standard false .standard) byVolunteer "i1" commitment
  obtain ⟨-, hfree⟩ :=
    update_guarded hreached (standard false .standard) byAdministrator "i1" commitment
  refine ⟨?_, hfree (fun i table _ _ hbinds => ?_) .none rfl⟩
  · obtain ⟨-, hrejected⟩ := hbound { Store.newcomer with id := "i1", person := "p1" } .interest
      "committed" rfl ⟨rfl, rfl, rfl, rfl⟩ rfl
    exact hrejected rfl rfl (fun m hm => absurd hm List.not_mem_nil) (by decide)
  · have htable : table = .interest := (Option.some.inj hbinds.tabled).symm
    have hactor := hbinds.actor
    rw [htable] at hactor
    cases hactor

end Service

end VolunteerAccess
