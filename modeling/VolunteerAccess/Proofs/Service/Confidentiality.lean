import VolunteerAccess.Proofs.Ability.Verdict
import VolunteerAccess.Proofs.Dict.Selection
import VolunteerAccess.Proofs.Service.Effects

/-!
# Hidden records stay hidden

A session is told of an interest only through what it may list, read or delete.
Two stores that differ only in interests which it may do none of these with are
the same to it: a sequence of requests is answered alike, refusals included, and
the same events are announced.

- `Ability.shows`: the interests that an ability lets a session observe;
  `Ability.Confines`: the filters that select no others.
- `Store.Alike`: two stores with the same shown interests.
- `Reply.Alike`, `Store.Alike.handle`: the step, one case for each kind of request.
  The relation survives the creation of an interest that is hidden at once.
- `Service.run_eq_of_alike`: **whole runs are told apart by nothing hidden**.
-/

namespace VolunteerAccess

/-- Whether an ability lets a session observe an interest. -/
def Ability.shows (a : Ability) (i : Interest) : Bool :=
  a.can .list i.target || a.can .read i.target || a.can .delete i.target

/-- The actions that a store is searched for. -/
def Action.observing : List Action := [.list, .read, .delete]

/-- Whether a filter selects shown interests only. -/
def Ability.Confines (a : Ability) (f : Filter) : Prop :=
  ∀ i : Interest, f.holds i.target = true → a.shows i = true

/-- The filter of an observing action selects shown interests only, however it is narrowed. -/
theorem Ability.confines_filterFor {a : Ability} (ha : a.subject = .interest) {action : Action}
    (haction : action ∈ Action.observing) (f : Filter) :
    a.Confines ((a.filterFor action).and f) := by
  intro i h
  rw [Filter.holds_and, Bool.and_eq_true, holds_filterFor a action ha.symm, ← can_eq_verdict] at h
  have hcan := h.1
  unfold shows
  simp only [Action.observing, List.mem_cons, List.not_mem_nil, or_false] at haction
  obtain rfl | rfl | rfl := haction
  · rw [hcan, Bool.true_or, Bool.true_or]
  · rw [hcan, Bool.or_true, Bool.true_or]
  · rw [hcan, Bool.or_true]

/-! ## Stores that look the same -/

namespace Store

/-- Two stores that differ, for the sessions of an ability, in hidden interests only. -/
structure Alike (a : Ability) (s t : Store) : Prop where
  shown : s.interests.select a.shows = t.interests.select a.shows
  opportunities : s.opportunities = t.opportunities
  archivedOpportunities : s.archivedOpportunities = t.archivedOpportunities
  /-- Otherwise the next fresh id would tell how many interests were made. -/
  issued : s.issued = t.issued

namespace Alike

variable {a : Ability} {s t : Store} (h : s.Alike a t)
include h

theorem query {f : Filter} (hf : a.Confines f) : s.query f = t.query f := by
  unfold Store.query
  rw [Dict.filter_values_congr h.shown hf]

theorem findOne {f : Filter} (hf : a.Confines f) : s.findOne f = t.findOne f := by
  rw [findOne_eq_head?, findOne_eq_head?, Dict.filter_values_congr h.shown hf]

theorem save_fst (i : Interest) : (s.save i).1 = (t.save i).1 := by
  rw [Store.save_fst, Store.save_fst, h.issued]

/-- Both stores get the same interest, whatever they held under its id. -/
theorem save (i : Interest) : (s.save i).2.Alike a (t.save i).2 where
  shown := by
    rw [interests_save, interests_save, h.save_fst i]
    exact Dict.select_insert_congr h.shown _ _
  opportunities := by
    rw [opportunities_save, opportunities_save, h.opportunities]
  archivedOpportunities := by
    rw [archivedOpportunities_save, archivedOpportunities_save, h.archivedOpportunities]
  issued := by
    rw [issued_save, issued_save, h.issued]

/-- Both stores lose the entry under one id, which may be hidden in either. -/
theorem deleteOne {f : Filter} (hf : a.Confines f) :
    (s.deleteOne f).2.Alike a (t.deleteOne f).2 where
  shown := by
    rw [interests_deleteOne, interests_deleteOne, h.findOne hf]
    cases t.findOne f with
    | none => exact h.shown
    | some i => exact Dict.select_erase_congr h.shown i.id
  opportunities := by
    rw [opportunities_deleteOne, opportunities_deleteOne, h.opportunities]
  archivedOpportunities := by
    rw [archivedOpportunities_deleteOne, archivedOpportunities_deleteOne, h.archivedOpportunities]
  issued := by
    rw [issued_deleteOne, issued_deleteOne, h.issued]

end Alike

end Store

/-! ## Decisions -/

namespace Service

variable {svc : Service} {call : Call} {a : Ability} {s t : Store}

/-- The ability that one store gives is given by every store that looks the same. -/
theorem ability_of_alike (h : s.Alike a t) (hs : svc.ability call s = .ok a) :
    svc.ability call t = .ok a := by
  rw [← svc.ability_congr call h.opportunities h.archivedOpportunities]
  exact hs

theorem findVisible_congr (h : s.Alike a t) (ha : a.subject = .interest) {action : Action}
    (haction : action ∈ Action.observing) (id : String) :
    findVisible call a action id s = findVisible call a action id t := by
  unfold findVisible
  rw [h.findOne (Ability.confines_filterFor ha haction _)]

theorem listed_congr (h : s.Alike a t) (hs : svc.ability call s = .ok a) (q : ListQuery) :
    svc.listed call q s = svc.listed call q t := by
  have ha := svc.subject_of_ability call hs
  unfold listed
  rw [hs, ability_of_alike h hs]
  show (requireGrant a .list >>= fun _ => reach call .query >>= fun _ => .ok (s.query _)) = _
  rw [h.query (Ability.confines_filterFor ha (by decide) _)]
  rfl

theorem visible_congr (h : s.Alike a t) (hs : svc.ability call s = .ok a) (id : String) :
    svc.visible call id s = svc.visible call id t := by
  unfold visible
  rw [hs, ability_of_alike h hs]
  exact findVisible_congr h (svc.subject_of_ability call hs) (by decide) id

/-- What may be created does not depend on what is stored. -/
theorem drafted_congr (h : s.Alike a t) (hs : svc.ability call s = .ok a) (data : NewInterest) :
    svc.drafted call data s = svc.drafted call data t := by
  unfold drafted
  rw [hs, ability_of_alike h hs]

theorem revised_congr (h : s.Alike a t) (hs : svc.ability call s = .ok a) (id : String)
    (change : InterestUpdate) : svc.revised call id change s = svc.revised call id change t := by
  have hfound : findVisible call a .read id s = findVisible call a .read id t :=
    findVisible_congr h (svc.subject_of_ability call hs) (by decide) id
  unfold revised
  rw [hs, ability_of_alike h hs]
  show (findVisible call a .read id s >>= _) = (findVisible call a .read id t >>= _)
  rw [hfound]

theorem confines_of_doomed (hs : svc.ability call s = .ok a) {id : String} {f : Filter}
    (h : svc.doomed call id s = .ok f) : a.Confines f := by
  unfold doomed at h
  rw [hs] at h
  obtain ⟨b, hb, h⟩ := bind_eq_ok_iff.1 h
  cases hb
  obtain ⟨-, -, h⟩ := bind_eq_ok_iff.1 h
  obtain ⟨-, -, h⟩ := bind_eq_ok_iff.1 h
  cases h
  exact Ability.confines_filterFor (svc.subject_of_ability call hs) (by decide) _

theorem doomed_congr (h : s.Alike a t) (hs : svc.ability call s = .ok a) (id : String) :
    svc.doomed call id s = svc.doomed call id t := by
  unfold doomed
  rw [hs, ability_of_alike h hs]

end Service

/-! ## Requests -/

/-- Two replies that a session cannot tell apart, and that leave stores that look the same. -/
structure Reply.Alike (a : Ability) (r r' : Reply) : Prop where
  answer : r.answer = r'.answer
  events : r.events = r'.events
  store : r.store.Alike a r'.store

namespace Store.Alike

variable {svc : Service} {call : Call} {a : Ability} {s t : Store} (h : s.Alike a t)
include h

theorem unchanged (answer : Except Failure Answer) :
    (Service.unchanged s answer).Alike a (Service.unchanged t answer) :=
  ⟨rfl, rfl, h⟩

theorem commit (i : Interest) (kind : UpdateKind) :
    (Service.commit s i kind).Alike a (Service.commit t i kind) where
  answer := by
    show Except.ok (Answer.interest (s.save i).1) = .ok (.interest (t.save i).1)
    rw [h.save_fst i]
  events := by
    show [Service.announcement (s.save i).1 kind] = [Service.announcement (t.save i).1 kind]
    rw [h.save_fst i]
  store := h.save i

/-- **One request cannot tell the stores apart**, and the stores it leaves look the same. -/
theorem handle (hs : svc.ability call s = .ok a) (request : Request) :
    (svc.handle call request s).Alike a (svc.handle call request t) := by
  cases request with
  | list q =>
    simp only [Service.handle]
    rw [Service.listed_congr h hs q]
    exact h.unchanged _
  | get id =>
    simp only [Service.handle]
    rw [Service.visible_congr h hs id]
    exact h.unchanged _
  | create data =>
    simp only [Service.handle]
    rw [Service.drafted_congr h hs data]
    cases svc.drafted call data t with
    | error e => exact h.unchanged _
    | ok i => exact h.commit i .accept
  | update id change =>
    simp only [Service.handle]
    rw [Service.revised_congr h hs id change]
    cases svc.revised call id change t with
    | error e => exact h.unchanged _
    | ok i => exact h.commit i change.kind
  | delete id =>
    have hsame := Service.doomed_congr h hs id
    cases hdoomed : svc.doomed call id t with
    | error e =>
      simp only [Service.handle, hsame, hdoomed]
      exact h.unchanged _
    | ok f =>
      rw [hdoomed] at hsame
      have hf : a.Confines f := Service.confines_of_doomed hs hsame
      -- The same interest is found in both stores, or none in either.
      rw [svc.handle_delete call hsame, svc.handle_delete call hdoomed, h.findOne hf]
      cases t.findOne f with
      | none => exact h.unchanged _
      | some i => exact ⟨rfl, rfl, h.deleteOne hf⟩

end Store.Alike

/-! ## Runs -/

namespace Service

/-- **Hidden records do not influence what a session observes**: two runs of the same requests
on stores that look the same give the same answers and announce the same events, and the stores
still look the same afterwards. -/
theorem run_eq_of_alike (svc : Service) (session : Session) (refusals : Store.Refusals)
    {a : Ability} {s t : Store}
    (ha : (svc.compiler (s.ownership refusals)).compile session .interest = .ok a)
    (h : s.Alike a t) (requests : List (Call × Request))
    (hsession : ∀ r ∈ requests, r.1.session = session ∧ r.1.outages.lookups = refusals) :
    (svc.run requests s).1 = (svc.run requests t).1 ∧
      (svc.run requests s).2.2 = (svc.run requests t).2.2 ∧
      (svc.run requests s).2.1.Alike a (svc.run requests t).2.1 := by
  induction requests generalizing s t with
  | nil => exact ⟨rfl, rfl, h⟩
  | cons r rest ih =>
    obtain ⟨call, request⟩ := r
    obtain ⟨⟨hcall, hlookups⟩, hrest⟩ := List.forall_mem_cons.1 hsession
    have hability : svc.ability call s = .ok a := by
      rw [svc.ability_eq_ok_iff call, hcall, hlookups]
      exact ha
    have hstep := h.handle hability request
    -- The ability is compiled anew for each request, from opportunities that stay the same.
    have hnext : svc.ability call (svc.handle call request s).store = .ok a := by
      rw [svc.ability_handle call call request s]
      exact hability
    rw [svc.ability_eq_ok_iff call, hcall, hlookups] at hnext
    obtain ⟨hanswers, hevents, hlast⟩ := ih hnext hstep.store hrest
    unfold run
    refine ⟨?_, ?_, hlast⟩
    · dsimp only
      rw [hstep.answer, hanswers]
    · dsimp only
      rw [hstep.events, hevents]

/-- The interest of the volunteer who asks. -/
def ownInterest : Interest :=
  { id := "i1", person := "p2", opportunity := "o1", status := .interested, messages := [],
    dateAdded := 5 }

/-- An interest of somebody else, in the same opportunity. -/
def foreignInterest : Interest := { ownInterest with id := "i0", person := "p3" }

/-- A store that holds some interests and no opportunity. -/
def storeOf (is : List Interest) : Store := { Store.empty with interests := Store.index is }

/-- Requests of a volunteer, two of which name the interest of somebody else. -/
def curious : List (Call × Request) :=
  [.list .unrestricted, .get "i0",
    .create { person := none, opportunity := some "o1", status := none, messages := [] },
    .delete "i0", .list .unrestricted].map fun request =>
      ({ session := .ofPerson "p2" [.volunteer] [], now := 7, outages := .none }, request)

theorem run_eq_of_alike_curious :
    (storeOf [ownInterest]).interests.get? "i0" = none ∧
      (storeOf [foreignInterest, ownInterest]).interests.get? "i0" = some foreignInterest ∧
      ((standard false .standard).run curious (storeOf [ownInterest])).1 =
        ((standard false .standard).run curious (storeOf [foreignInterest, ownInterest])).1 := by
  have h := run_eq_of_alike (standard false .standard) (.ofPerson "p2" [.volunteer] []) .none
    (s := storeOf [ownInterest]) (t := storeOf [foreignInterest, ownInterest])
    (a := { subject := .interest, rules := (Policy.volunteerRules "p2").rules })
    rfl ⟨rfl, rfl, rfl, rfl⟩ curious fun r hr => by
      obtain ⟨request, -, rfl⟩ := List.mem_map.1 hr
      exact ⟨rfl, rfl⟩
  exact ⟨rfl, rfl, h.1⟩

end Service

end VolunteerAccess
