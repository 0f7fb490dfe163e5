import VolunteerAccess.Proofs.Service.Answers
import VolunteerAccess.Proofs.Service.Refusals
import VolunteerAccess.Proofs.Store.Order

/-!
# What a list contains

A list is made by one search, with the filter of the session's ability and the filter of the
narrowing joined into one. Either of them may be trivial, and then it leaves no trace in the
joined filter. Still a narrowing takes interests from a list and never adds one.

- `ListQuery.selects`: the interests that a narrowing asks for;
  `ListQuery.holds_toFilter`: its filter selects them.
- `Service.listed_eq_error_iff`: the only reason for which there is no list.
- `Service.Lists`: a list that is complete, in order, and holds nothing else or twice.
- `Service.list_decided`: **a list is given if and only if a grant stands, and it is the
  unrestricted one with the narrowing applied**.
-/

namespace VolunteerAccess

/-! ## Narrowings -/

/-- A test that may be left out is one more conjunct where it is given. -/
theorem Condition.holds_elim_eq {c : Condition} {name : String} (h : c.tests.get? name = none)
    (given : Option String) (t : Target) :
    (given.elim c fun text => c.eq name (.text text)).holds t =
      (given.all (fun text => passes t (name, .eq (.text text))) && c.holds t) := by
  cases given with
  | none => rfl
  | some text => exact holds_eq h (.text text) t

/-- Whether an interest is of the opportunity and of the person that are given. -/
def ListQuery.selects (q : ListQuery) (i : Interest) : Bool :=
  q.opportunity.all (· == i.opportunity) && q.person.all (· == i.person)

/-- The filter of a narrowing selects what the narrowing asks for. -/
theorem ListQuery.holds_toFilter (q : ListQuery) (i : Interest) :
    q.toFilter.holds i.target = q.selects i := by
  have hunset : (q.opportunity.elim .empty fun o =>
      Condition.empty.eq "opportunity" (.text o)).tests.get? "person" = none := by
    cases q.opportunity with
    | none => rfl
    | some o => exact Dict.get?_insert_of_ne _ _ (by decide)
  unfold toFilter condition selects
  rw [Filter.holds_ofCondition, Condition.holds_elim_eq hunset, Condition.holds_elim_eq rfl,
    Condition.holds_empty, Bool.and_true, Bool.and_comm]
  -- At an interest the tests compare the texts.
  rfl

/-- Without a narrowing all interests are asked for. -/
theorem ListQuery.selects_unrestricted (i : Interest) : unrestricted.selects i = true := rfl

namespace Service

variable {svc : Service} {call : Call} {a : Ability} {s : Store} {e : Failure} {q : ListQuery}

/-! ## Lists -/

/-- There is no list if no grant stands, and for no other reason. -/
theorem listed_eq_error_iff (ha : svc.ability call s = .ok a) (hserved : call.Served) :
    svc.listed call q s = .error e ↔ (¬ ∃ r, Ability.Standing (a.rulesFor .list) r) ∧
      e = .denied (.forbidden .list .interest) := by
  unfold listed
  rw [ha]
  show (requireGrant a .list >>= _) = _ ↔ _
  rw [bind_eq_error_iff, requireGrant_eq_error_iff, reach_of_served hserved]
  refine or_iff_left ?_
  rintro ⟨-, -, hfound⟩
  cases hfound

/-- A list of the stored interests that an ability allows to be listed and a narrowing asks for,
without any other, in the order of interests. -/
structure Lists (s : Store) (a : Ability) (q : ListQuery) (found : List Interest) : Prop where
  ordered : found.Pairwise Interest.Precedes
  once : found.Nodup
  complete : ∀ i, i ∈ found ↔
    i ∈ s.interests.values ∧ a.can .list i.target = true ∧ q.selects i = true

/-- What the joined filter selects is allowed and asked for. -/
theorem holds_filterFor_list (ha : a.subject = .interest) (q : ListQuery) (i : Interest) :
    ((a.filterFor .list).and q.toFilter).holds i.target =
      (a.can .list i.target && q.selects i) := by
  rw [Filter.holds_and, holds_filterFor_interest ha, q.holds_toFilter]

theorem lists_query (hs : s.Keyed) (ha : a.subject = .interest) (q : ListQuery) :
    Lists s a q (s.query ((a.filterFor .list).and q.toFilter)) where
  ordered := hs.pairwise_query _
  once := hs.nodup_query _
  complete i := by
    rw [Store.mem_query_iff, holds_filterFor_list ha, Bool.and_eq_true]

/-- **A list is given if and only if a grant stands, and it is the unrestricted one with the
narrowing applied.** The only failure is that no grant stands. Otherwise the list holds every
stored interest once that may be listed and is asked for, and nothing else, oldest first. -/
theorem list_decided {f : Fixtures} (hs : Store.Reachable f s) (hserved : call.Served)
    (ha : svc.ability call s = .ok a) (q : ListQuery) :
    (∀ e, (svc.handle call (.list q) s).answer = .error e ↔
      (¬ ∃ r, Ability.Standing (a.rulesFor .list) r) ∧ e = .denied (.forbidden .list .interest)) ∧
    ((∃ r, Ability.Standing (a.rulesFor .list) r) → ∃ found all,
      (svc.handle call (.list q) s).answer = .ok (.interests found) ∧
      (svc.handle call (.list .unrestricted) s).answer = .ok (.interests all) ∧
      Lists s a q found ∧ found = all.filter q.selects) := by
  have hsubject := svc.subject_of_ability call ha
  refine ⟨fun e => ?_, fun hstanding => ?_⟩
  · show (svc.listed call q s).map Answer.interests = .error e ↔ _
    rw [map_eq_error_iff, listed_eq_error_iff ha hserved]
  · have hgrant := (a.hasGrant_iff_standing .list).2 hstanding
    have hanswer (q : ListQuery) : (svc.handle call (.list q) s).answer =
        .ok (.interests (s.query ((a.filterFor .list).and q.toFilter))) :=
      list_eq_ok_iff.2 ⟨a, ha, hgrant, hserved .query, rfl⟩
    refine ⟨_, _, hanswer q, hanswer .unrestricted, lists_query hs.keyed hsubject q,
      hs.keyed.query_eq_filter fun i => ?_⟩
    rw [holds_filterFor_list hsubject, holds_filterFor_list hsubject,
      ListQuery.selects_unrestricted, Bool.and_true]

/-- A request of nobody in particular. -/
def byNobody : Call := { session := .anonymous, now := 7, outages := .none }

/-- A volunteer finds the own interest in the list of its opportunity. Nobody else is given a
list, however much it is narrowed. -/
theorem list_decided_seeded :
    (∃ a found i, (standard false .standard).ability byVolunteer
        (.ofFixtures (Store.seeded "i1")) = .ok a ∧
      ((standard false .standard).handle byVolunteer (.list (.forOpportunity "o2"))
        (.ofFixtures (Store.seeded "i1"))).answer = .ok (.interests found) ∧
      Lists (.ofFixtures (Store.seeded "i1")) a (.forOpportunity "o2") found ∧
      i ∈ found ∧ i.id = "i1") ∧
    ∃ a, (standard false .standard).ability byNobody (.ofFixtures (Store.seeded "i1")) = .ok a ∧
      ¬ ∃ r, Ability.Standing (a.rulesFor .list) r := by
  have hreached : Store.Reachable (Store.seeded "i1") (.ofFixtures (Store.seeded "i1")) := .seeded
  obtain ⟨a, ha, hgrant, hallowed⟩ : ∃ a, (standard false .standard).ability byVolunteer
      (.ofFixtures (Store.seeded "i1")) = .ok a ∧ a.hasGrant .list = true ∧
        a.can .list { Store.newcomer with id := "i1", person := "p1" : Interest }.target = true :=
    ⟨_, rfl, rfl, rfl⟩
  obtain ⟨b, hb⟩ : ∃ b, (standard false .standard).ability byNobody
      (.ofFixtures (Store.seeded "i1")) = .ok b := ⟨_, rfl⟩
  obtain ⟨-, hlisted⟩ := list_decided hreached (fun _ => rfl) ha (.forOpportunity "o2")
  obtain ⟨hrefused, -⟩ := list_decided hreached (fun _ => rfl) hb (.forOpportunity "o2")
  obtain ⟨found, all, hanswer, -, hlists, -⟩ := hlisted ((a.hasGrant_iff_standing .list).1 hgrant)
  have hmem := (hlists.complete { Store.newcomer with id := "i1", person := "p1" }).2
    ⟨List.mem_singleton.2 rfl, hallowed, rfl⟩
  exact ⟨⟨a, found, _, ha, hanswer, hlists, hmem, rfl⟩, b, hb, ((hrefused _).1 rfl).1⟩

end Service

end VolunteerAccess
