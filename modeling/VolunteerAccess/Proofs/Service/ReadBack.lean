import Mathlib.Data.List.Nodup
import VolunteerAccess.Proofs.Service.Answers
import VolunteerAccess.Proofs.Service.Creations
import VolunteerAccess.Proofs.Service.Lookups
import VolunteerAccess.Proofs.Store.Order

/-!
# Reading back what was stored

A session that has created or changed an interest can read it again, and finds it in its list.
The service does not see to this: it judges a new interest as a request and a changed one after
the change, and gives back what it has stored without asking whether it may be read. It is the
standard policy that lets nobody write what they may not read.

- `Policy.Permitted.readable`: the matrix permits reading wherever it permits anything.
- `Service.can_iff_permitted`: the ability of a session, if it has one, is the matrix, also
  while look-ups are refused that it does not need.
- `Service.Shown`: an interest that is stored and may be read and listed;
  `Service.shown_of_answer`: what a request gives back is one.
- `Service.read_back`: **what a request gives back is shown by the next one**, and listed once.
-/

namespace VolunteerAccess

/-! ## Writing and reading in the matrix -/

namespace Policy

variable {store : Store} {scope : Scope} {session : Session} {t t' : Target}

theorem IsOwn.congr (h : IsOwn session t) (hperson : t'.field "person" = t.field "person") :
    IsOwn session t' := by
  unfold IsOwn
  rw [hperson]
  exact h

theorem IsOwned.congr (h : IsOwned store scope session t)
    (hopportunity : t'.field "opportunity" = t.field "opportunity") :
    IsOwned store scope session t' := by
  unfold IsOwned IsRequested IsOffered
  rw [hopportunity]
  exact h

/-- Whoever may do something with a record may read what is of the same person and opportunity. -/
theorem Permitted.readable {action : Action} (h : Permitted store session t .interest action)
    (hperson : t'.field "person" = t.field "person")
    (hopportunity : t'.field "opportunity" = t.field "opportunity") :
    Permitted store session t' .interest .read := by
  cases action with
  | list | read | update =>
    obtain hadministrator | hown | howned := h
    · exact .inl hadministrator
    · exact .inr (.inl (hown.congr hperson))
    · exact .inr (.inr (howned.congr hopportunity))
  | create | delete =>
    -- These ask for more than that the record is the session's own.
    obtain hadministrator | ⟨hown, -⟩ := h
    · exact .inl hadministrator
    · exact .inr (.inl (hown.congr hperson))

end Policy

namespace Service

/-! ## Abilities and the matrix -/

section
variable {concurrent : Bool} {guard : Guard} {call : Call} {s : Store} {a : Ability}

/-- Where a session has an ability, the ability is the matrix. -/
theorem can_iff_permitted (ha : (standard concurrent guard).ability call s = .ok a)
    {action : Action} {t : Target} (ht : t.resource = .interest) :
    a.can action t = true ↔ Policy.Permitted s call.session t .interest action := by
  have hcompile : ((Policy.standard concurrent (s.ownership call.outages.lookups)).scheduled
      concurrent fun _ => 0).compile call.session .interest = .ok a :=
    (ability_eq_ok_iff _ call).1 ha
  -- The look-ups that the session needs were answered, for it would have no ability otherwise.
  have hanswered : ∀ role cause,
      ¬ (s.ownership call.outages.lookups).Refuses call.session role cause := by
    intro role cause hrefuses
    obtain ⟨role', cause', -, hrefused⟩ :=
      Policy.compile_of_refuses ⟨role, cause, hrefuses⟩ concurrent fun _ => 0
    rw [hcompile] at hrefused
    cases hrefused
  rw [Policy.compile_of_completes (s.completes_ownership call.outages.lookups) hanswered] at hcompile
  obtain rfl := Except.ok.inj
    ((Policy.compile_standard concurrent s call.session .interest).symm.trans hcompile)
  rw [Ability.can_eq_verdict, ← ht, Policy.verdict_roles_iff, Policy.grantedByRoles_iff]

/-- An interest may be read and listed if anything is allowed with a record of its person and its
opportunity. -/
theorem readable_of_can (ha : (standard concurrent guard).ability call s = .ok a)
    {action : Action} {t : Target} (ht : t.resource = .interest) (hallowed : a.can action t = true)
    {i : Interest} (hperson : i.field "person" = t.field "person")
    (hopportunity : i.field "opportunity" = t.field "opportunity") :
    a.can .read i.target = true ∧ a.can .list i.target = true := by
  have hread : Policy.Permitted s call.session i.target .interest .read :=
    ((can_iff_permitted ha ht).1 hallowed).readable hperson hopportunity
  -- Listing and reading are one row of the matrix.
  exact ⟨(can_iff_permitted ha rfl).2 hread, (can_iff_permitted ha rfl).2 hread⟩

end

/-! ## What requests give back -/

/-- An interest that a store holds under its id, and that may be read and listed. -/
structure Shown (a : Ability) (s : Store) (saved : Interest) : Prop where
  stored : s.interests.get? saved.id = some saved
  readable : a.can .read saved.target = true
  listable : a.can .list saved.target = true

section
variable {svc : Service} {call : Call} {s : Store} {a : Ability} {saved : Interest}

/-- Such an interest is the answer to a request for its id. -/
theorem Shown.answer_get (h : Shown a s saved) (hs : s.Keyed) (hserved : call.Served)
    (ha : svc.ability call s = .ok a) :
    (svc.handle call (.get saved.id) s).answer = .ok (.interest saved) :=
  (get_eq_ok_iff hs).2 ⟨a, ha, hserved .findOne, h.stored, h.readable⟩

/-- Such an interest is in the list of all interests, and no second time. -/
theorem Shown.answer_list (h : Shown a s saved) (hs : s.Keyed) (hserved : call.Served)
    (ha : svc.ability call s = .ok a) :
    ∃ found, (svc.handle call (.list .unrestricted) s).answer = .ok (.interests found) ∧
      found.count saved = 1 := by
  obtain ⟨found, hfound, hmem⟩ := (listed_iff_can ha (hserved .query) h.stored).2 h.listable
  refine ⟨found, hfound, List.count_eq_one_of_mem ?_ hmem⟩
  obtain ⟨-, -, -, -, rfl⟩ := list_eq_ok_iff.1 hfound
  exact hs.nodup_query _

end

section
variable {concurrent : Bool} {guard : Guard} {call : Call} {s : Store} {a : Ability}

/-- What is stored is shown, if anything is allowed with a record of its person and its
opportunity. This need not be the record that is stored. -/
theorem shown_commit (ha : (standard concurrent guard).ability call s = .ok a) {action : Action}
    {t : Target} (ht : t.resource = .interest) (hallowed : a.can action t = true) {i : Interest}
    (hperson : (s.save i).1.field "person" = t.field "person")
    (hopportunity : (s.save i).1.field "opportunity" = t.field "opportunity")
    (kind : UpdateKind) : Shown a (commit s i kind).store (s.save i).1 := by
  obtain ⟨hread, hlist⟩ := readable_of_can ha ht hallowed hperson hopportunity
  exact ⟨Store.get?_save_self s i, hread, hlist⟩

/-- **What a request gives back is stored, and may be read and listed.** -/
theorem shown_of_answer (hs : s.Keyed) {request : Request} {saved : Interest}
    (h : ((standard concurrent guard).handle call request s).answer = .ok (.interest saved)) :
    ∃ a, (standard concurrent guard).ability call s = .ok a ∧
      Shown a ((standard concurrent guard).handle call request s).store saved := by
  cases request with
  | list q =>
    obtain ⟨found, -, hfound⟩ := map_eq_ok_iff.1 h
    cases hfound
  | get id =>
    obtain ⟨a, ha, -, hstored, hread⟩ := (get_eq_ok_iff hs).1 h
    obtain rfl : saved.id = id := hs id saved hstored
    obtain ⟨-, hlist⟩ := readable_of_can ha rfl hread rfl rfl
    exact ⟨a, ha, hstored, hread, hlist⟩
  | create data =>
    rw [answer_create] at h
    obtain ⟨i, hdrafted, hsaved⟩ := map_eq_ok_iff.1 h
    cases hsaved
    obtain ⟨a, hdraft⟩ := drafted_eq_ok_iff.1 hdrafted
    rw [handle_create_of_ok hdrafted]
    have hcreated := created_of_draft hdraft
    exact ⟨a, hdraft.ability, shown_commit hdraft.ability rfl hdraft.allowed_requested
      (hcreated.fields "person" (by decide) (by decide))
      (hcreated.fields "opportunity" (by decide) (by decide)) .accept⟩
  | update id change =>
    obtain ⟨j, hrevised, hreply⟩ := handle_update_of_ok h
    rw [hreply] at h ⊢
    cases h
    obtain ⟨a, i, target, hrevision, rfl⟩ := (revised_eq_ok_iff hs).1 hrevised
    exact ⟨a, hrevision.ability,
      shown_commit hrevision.ability rfl hrevision.allowed (Store.field_save s _ (by decide))
        (Store.field_save s _ (by decide)) change.kind⟩
  | delete id =>
    simp only [handle] at h
    split at h
    · cases h
    · split at h <;> cases h

end

/-! ## The next request -/

/-- **What a request gives back is shown by the next one.** An interest that a session has created
or changed is what it finds under the interest's id, and it is in its list exactly once. -/
theorem read_back {f : Fixtures} {s : Store} (hs : Store.Reachable f s) (concurrent : Bool)
    (guard : Guard) {call : Call} (hserved : call.Served) (request : Request) {saved : Interest}
    (h : ((standard concurrent guard).handle call request s).answer = .ok (.interest saved))
    (now : UInt64) :
    ((standard concurrent guard).handle { call with now } (.get saved.id)
        ((standard concurrent guard).handle call request s).store).answer =
      .ok (.interest saved) ∧
    ∃ found, ((standard concurrent guard).handle { call with now } (.list .unrestricted)
        ((standard concurrent guard).handle call request s).store).answer =
          .ok (.interests found) ∧ found.count saved = 1 := by
  obtain ⟨a, ha, hshown⟩ := shown_of_answer hs.keyed h
  have hkeyed := hs.keyed.handle (standard concurrent guard) call request
  have hagain : (standard concurrent guard).ability { call with now }
      ((standard concurrent guard).handle call request s).store = .ok a :=
    (ability_handle _ { call with now } call request s).trans ha
  exact ⟨hshown.answer_get hkeyed hserved hagain, hshown.answer_list hkeyed hserved hagain⟩

/-- A volunteer reads back an own request. An administrator reads back an invitation, also where
it is stored under an id that the administrator has not asked for. -/
theorem read_back_invited :
    (∃ saved, ((standard true .standard).handle asVolunteer (.create signup) .empty).answer =
        .ok (.interest saved) ∧
      ((standard true .standard).handle asVolunteer (.get saved.id)
        ((standard true .standard).handle asVolunteer (.create signup) .empty).store).answer =
          .ok (.interest saved)) ∧
    ((standard false .standard).handle byAdministrator (.get "interest-1")
      ((standard false .standard).handle byAdministrator (.update "" invitation)
        (.ofFixtures (Store.seeded ""))).store).answer = .ok (.interest (invited "interest-1")) := by
  obtain ⟨saved, hsaved⟩ : ∃ saved,
      ((standard true .standard).handle asVolunteer (.create signup) .empty).answer =
        .ok (.interest saved) := ⟨_, rfl⟩
  have hinvited : ((standard false .standard).handle byAdministrator (.update "" invitation)
      (.ofFixtures (Store.seeded ""))).answer = .ok (.interest (invited "interest-1")) := rfl
  have hempty : Store.Reachable .empty .empty := .seeded
  obtain ⟨hvolunteer, -⟩ := read_back hempty true .standard (fun _ => rfl) _ hsaved 7
  obtain ⟨hadministrator, -⟩ := read_back .seeded false .standard (fun _ => rfl) _ hinvited 7
  exact ⟨⟨saved, hsaved, hvolunteer⟩, hadministrator⟩

end Service

end VolunteerAccess
