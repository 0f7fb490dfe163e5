import VolunteerAccess.Proofs.Ability.Constants
import VolunteerAccess.Proofs.Service.Guarding

/-!
# Why an update is refused

An update is refused for one of six reasons, which the checks look for in a fixed
order. The order is part of the policy: a session that may not read an interest
must not learn from the answer what else is wrong with its request, because that
would tell that the interest exists.

- `Service.requireGrant_eq_error_iff` to `Service.judge_eq_error_iff`: what each check
  reports, and when.
- `Store.Offers`, `Service.Unseen`: the interest of an id that an action is allowed with,
  and why there is none.
- `Service.Acceptable`, `Service.UpdateRefused`: what has to hold for an update, and the
  first thing that does not.
- `Service.update_decided`: **an update succeeds if and only if all of it holds, and
  fails with the first reason otherwise**.
-/

namespace VolunteerAccess

/-- A call during which every operation of the store works. -/
def Call.Served (call : Call) : Prop := ∀ op, call.outages.operation op = none

/-- A guard does not stand against a change of status. Without a status that is asked for there
is nothing to stand against. -/
def Guard.Admits (g : Guard) (session : Session) (i : Interest) (target : Option Status) : Prop :=
  ∀ st table, target = some st → g.Binds session i table →
    table.permits i.status.name st.name = true

/-- A table of a guard that binds is the only one. -/
theorem Guard.Binds.unique {g : Guard} {session : Session} {i : Interest}
    {table table' : TransitionTable} (h : g.Binds session i table)
    (h' : g.Binds session i table') : table' = table :=
  Option.some.inj (h'.tabled.symm.trans h.tabled)

/-- A text is no status if it is the name of none. -/
theorem Status.ofText?_eq_none_iff {text : String} :
    ofText? text = none ↔ ∀ st : Status, text ≠ st.name := by
  rw [Option.eq_none_iff_forall_ne_some]
  exact forall_congr' fun st => not_congr ofText?_eq_some_iff

namespace Service

variable {svc : Service} {call : Call} {a : Ability} {s : Store} {e : Failure}

/-! ## Single checks -/

theorem requireGrant_eq_error_iff {action : Action} : requireGrant a action = .error e ↔
    (¬ ∃ r, Ability.Standing (a.rulesFor action) r) ∧
      e = .denied (.forbidden action .interest) := by
  rw [← a.hasGrant_iff_standing action]
  unfold requireGrant
  cases a.hasGrant action <;> simp [eq_comm]

theorem checkMessages_eq_error_iff {ms : List Message} : checkMessages ms = .error e ↔
    (∃ m ∈ ms, Text.isBlank m.body = true) ∧ e = .validation .emptyMessage := by
  rw [← List.any_eq_true]
  unfold checkMessages
  cases ms.any fun m => Text.isBlank m.body <;> simp [eq_comm]

theorem parseStatus_eq_error_iff {text : String} : parseStatus text = .error e ↔
    (∀ st : Status, text ≠ st.name) ∧ e = .validation (.unknownStatus text) := by
  rw [← Status.ofText?_eq_none_iff]
  unfold parseStatus
  cases Status.ofText? text <;> simp [eq_comm]

/-- A status that may be left out is not known if it is given and has no known name. -/
theorem mapM_parseStatus_eq_error_iff {text : Option String} :
    text.mapM parseStatus = .error e ↔ ∃ t, text = some t ∧ (∀ st : Status, t ≠ st.name) ∧
      e = .validation (.unknownStatus t) := by
  cases text with
  | none =>
    refine iff_of_false (fun h => by cases h) ?_
    rintro ⟨t, ht, -⟩
    cases ht
  | some text =>
    show (parseStatus text >>= fun st => Except.ok (some st)) = .error e ↔ _
    rw [bind_eq_error_iff, parseStatus_eq_error_iff]
    simp

theorem permit_eq_error_iff {action : Action} {t : Target} {d : Denial} :
    permit a action t d = .error e ↔ a.can action t = false ∧ e = .denied d := by
  unfold permit
  cases a.can action t <;> simp [eq_comm]

theorem required_eq_error_iff {name : String} {given : Option String} :
    required name given = .error e ↔ given = none ∧ e = .validation (.missingField name) := by
  cases given <;> simp [required, eq_comm]

theorem reach_of_served (h : call.Served) (op : StoreOperation) : reach call op = .ok () :=
  reach_eq_ok_iff.2 (h op)

/-- The guard rejects a change that a table stands against which binds the session. -/
theorem judge_eq_error_iff {session : Session} {i : Interest} {target : Option Status} :
    svc.judge session i target = .error e ↔ ∃ st table, target = some st ∧
      svc.guard.Binds session i table ∧ table.permits i.status.name st.name = false ∧
        e = .transition (rejection i st.name) := by
  cases target with
  | none =>
    refine iff_of_false (fun h => by cases h) ?_
    rintro ⟨st, table, hst, -⟩
    cases hst
  | some st =>
    show svc.checkTransition session i st = .error e ↔ _
    by_cases hbound : ∃ table, svc.guard.Binds session i table
    · obtain ⟨table, hbinds⟩ := hbound
      rw [checkTransition_of_binds hbinds]
      constructor
      · intro h
        split at h
        · cases h
        · next hforbidden =>
          cases h
          exact ⟨st, table, rfl, hbinds, Bool.eq_false_iff.2 hforbidden, rfl⟩
      · rintro ⟨_, table', hst, hbinds', hforbidden, rfl⟩
        cases hst
        rw [hbinds.unique hbinds'] at hforbidden
        rw [hforbidden]
        rfl
    · rw [checkTransition_of_not_binds fun table hbinds => hbound ⟨table, hbinds⟩]
      refine iff_of_false (fun h => by cases h) ?_
      rintro ⟨_, table, -, hbinds, -⟩
      exact hbound ⟨table, hbinds⟩

theorem judge_eq_ok_iff {session : Session} {i : Interest} {target : Option Status} {u : Unit} :
    svc.judge session i target = .ok u ↔ svc.guard.Admits session i target := by
  constructor
  · rintro hjudged st table rfl hbinds
    exact permits_of_judge hbinds hjudged
  · intro hadmits
    cases hjudged : svc.judge session i target with
    | ok => rfl
    | error e =>
      obtain ⟨st, table, htarget, hbinds, hforbidden, -⟩ := judge_eq_error_iff.1 hjudged
      rw [hadmits st table htarget hbinds] at hforbidden
      cases hforbidden

end Service

/-! ## Looking an interest up -/

/-- An interest that carries an id is stored, and an ability allows an action with it. -/
structure Store.Offers (s : Store) (a : Ability) (action : Action) (id : String) (i : Interest) :
    Prop where
  stored : i ∈ s.interests.values
  named : i.id = id
  allowed : a.can action i.target = true

/-- What carries an id is stored under it. -/
theorem Store.Keyed.offers_iff {s : Store} (h : s.Keyed) {a : Ability} {action : Action}
    {id : String} {i : Interest} : s.Offers a action id i ↔
      s.interests.get? id = some i ∧ a.can action i.target = true := by
  constructor
  · rintro ⟨hstored, rfl, hallowed⟩
    exact ⟨h.get?_of_mem_values hstored, hallowed⟩
  · rintro ⟨hstored, hallowed⟩
    exact ⟨Dict.mem_values_iff.2 ⟨id, hstored⟩, h id i hstored, hallowed⟩

namespace Service

variable {svc : Service} {call : Call} {a : Ability} {s : Store} {e : Failure} {id : String}

/-- Why no interest of an id is found for an action. If no grant is left the answer is the same
for all ids, and otherwise it does not tell a hidden interest from a missing one. -/
inductive Unseen (a : Ability) (s : Store) (action : Action) (id : String) : Failure → Prop where
  | forbidden (hgrant : ¬ ∃ r, Ability.Standing (a.rulesFor action) r) :
      Unseen a s action id (.denied (.forbidden action .interest))
  | notFound (hgrant : ∃ r, Ability.Standing (a.rulesFor action) r)
      (hnone : ∀ i, ¬ s.Offers a action id i) :
      Unseen a s action id (.denied (.notFound action .interest))

/-- What a search for an id finds with the filter of an ability is the interest of the id. -/
theorem findOne_eq_some_iff_offers (hs : s.Keyed) (ha : a.subject = .interest) {action : Action}
    {i : Interest} : s.findOne ((a.filterFor action).and (.byId (.text id))) = some i ↔
      s.Offers a action id i := by
  rw [hs.findOne_byId, Option.filter_eq_some_iff, holds_filterFor_interest ha, hs.offers_iff]

theorem findVisible_eq_ok_iff_offers (hs : s.Keyed) (ha : a.subject = .interest)
    (hserved : call.Served) {action : Action} {i : Interest} :
    findVisible call a action id s = .ok i ↔ s.Offers a action id i := by
  rw [findVisible_eq_ok_iff hs ha, hs.offers_iff, and_iff_right (hserved .findOne)]

theorem findVisible_eq_error_iff (hs : s.Keyed) (ha : a.subject = .interest)
    (hserved : call.Served) {action : Action} :
    findVisible call a action id s = .error e ↔ Unseen a s action id e := by
  unfold findVisible
  simp only [bind_eq_error_iff, requireGrant_eq_error_iff, requireGrant_eq_ok_iff,
    a.hasGrant_iff_standing, reach_of_served hserved]
  constructor
  · rintro (⟨hnone, rfl⟩ | ⟨-, hgrant, hreach | ⟨-, -, hsearch⟩⟩)
    · exact .forbidden hnone
    · cases hreach
    · cases hfound : s.findOne ((a.filterFor action).and (.byId (.text id))) with
      | some i =>
        rw [hfound] at hsearch
        cases hsearch
      | none =>
        rw [hfound] at hsearch
        cases hsearch
        refine .notFound hgrant fun i hi => ?_
        rw [(findOne_eq_some_iff_offers hs ha).2 hi] at hfound
        cases hfound
  · intro h
    cases h with
    | forbidden hnone => exact .inl ⟨hnone, rfl⟩
    | notFound hgrant hnone =>
      have hmissing : s.findOne ((a.filterFor action).and (.byId (.text id))) = none :=
        Option.eq_none_iff_forall_ne_some.2 fun i hi =>
          hnone i ((findOne_eq_some_iff_offers hs ha).1 hi)
      refine .inr ⟨(), hgrant, .inr ⟨(), trivial, ?_⟩⟩
      rw [hmissing]
      rfl

/-! ## Updates -/

/-- What has to hold for an update of an interest: it may be read, the status that is asked for
is known, no message is blank, the guard does not stand against the change, and the interest may
be updated as it would be after the change. -/
structure Acceptable (svc : Service) (session : Session) (a : Ability) (s : Store) (id : String)
    (change : InterestUpdate) (i : Interest) (target : Option Status) : Prop where
  shown : s.Offers a .read id i
  known : change.status = target.map Status.name
  worded : ∀ m ∈ change.messages, Text.isBlank m.body = false
  admitted : svc.guard.Admits session i target
  allowed : a.can .update (i.amended target change.messages).target = true

/-- The first thing that does not hold for an update, and how it is reported. -/
inductive UpdateRefused (svc : Service) (session : Session) (a : Ability) (s : Store) (id : String)
    (change : InterestUpdate) : Failure → Prop where
  | unseen {e : Failure} (h : Unseen a s .read id e) :
      UpdateRefused svc session a s id change e
  | unknownStatus {i : Interest} {text : String} (hshown : s.Offers a .read id i)
      (htext : change.status = some text) (hunknown : ∀ st : Status, text ≠ st.name) :
      UpdateRefused svc session a s id change (.validation (.unknownStatus text))
  | emptyMessage {i : Interest} {target : Option Status} (hshown : s.Offers a .read id i)
      (hknown : change.status = target.map Status.name)
      (hblank : ∃ m ∈ change.messages, Text.isBlank m.body = true) :
      UpdateRefused svc session a s id change (.validation .emptyMessage)
  | invalidTransition {i : Interest} {st : Status} {table : TransitionTable}
      (hshown : s.Offers a .read id i) (hknown : change.status = some st.name)
      (hworded : ∀ m ∈ change.messages, Text.isBlank m.body = false)
      (hbinds : svc.guard.Binds session i table)
      (hforbidden : table.permits i.status.name st.name = false) :
      UpdateRefused svc session a s id change
        (.transition { subject := .interest, source := i.status.name, target := st.name })
  | invalidUpdate {i : Interest} {target : Option Status} (hshown : s.Offers a .read id i)
      (hknown : change.status = target.map Status.name)
      (hworded : ∀ m ∈ change.messages, Text.isBlank m.body = false)
      (hadmitted : svc.guard.Admits session i target)
      (hdenied : a.can .update (i.amended target change.messages).target = false) :
      UpdateRefused svc session a s id change
        (.denied (.forbiddenBecause .update .interest "invalid update attempted"))

variable {change : InterestUpdate}

/-- The checks of an update report the first thing that does not hold. -/
theorem revised_eq_error_iff (hs : s.Keyed) (ha : svc.ability call s = .ok a)
    (hserved : call.Served) : svc.revised call id change s = .error e ↔
      UpdateRefused svc call.session a s id change e := by
  have hsubject := svc.subject_of_ability call ha
  rw [revised_eq, ha]
  show (findVisible call a .read id s >>= _) = _ ↔ _
  simp only [bind_eq_error_iff, findVisible_eq_error_iff hs hsubject hserved,
    findVisible_eq_ok_iff_offers hs hsubject hserved, mapM_parseStatus_eq_error_iff,
    mapM_parseStatus_eq_ok_iff, checkMessages_eq_error_iff, checkMessages_eq_ok_iff,
    judge_eq_error_iff, judge_eq_ok_iff, permit_eq_error_iff, permit_eq_ok_iff,
    reach_of_served hserved]
  -- One alternative is left for each check, with what the checks before it have found out.
  constructor
  · rintro (hunseen | ⟨i, hshown, hrest⟩)
    · exact .unseen hunseen
    rcases hrest with ⟨text, htext, hunknown, rfl⟩ | ⟨target, hknown, hrest⟩
    · exact .unknownStatus hshown htext hunknown
    rcases hrest with ⟨hblank, rfl⟩ | ⟨-, hworded, hrest⟩
    · exact .emptyMessage hshown hknown hblank
    rcases hrest with ⟨st, table, rfl, hbinds, hforbidden, rfl⟩ | ⟨-, hadmitted, hrest⟩
    · exact .invalidTransition hshown hknown hworded hbinds hforbidden
    rcases hrest with ⟨hdenied, rfl⟩ | ⟨-, -, hsave | ⟨-, -, hdone⟩⟩
    · exact .invalidUpdate hshown hknown hworded hadmitted hdenied
    · cases hsave
    · cases hdone
  · intro h
    cases h with
    | unseen hunseen => exact .inl hunseen
    | unknownStatus hshown htext hunknown =>
      exact .inr ⟨_, hshown, .inl ⟨_, htext, hunknown, rfl⟩⟩
    | emptyMessage hshown hknown hblank =>
      exact .inr ⟨_, hshown, .inr ⟨_, hknown, .inl ⟨hblank, rfl⟩⟩⟩
    | invalidTransition hshown hknown hworded hbinds hforbidden =>
      exact .inr ⟨_, hshown, .inr ⟨some _, hknown, .inr ⟨(), hworded,
        .inl ⟨_, _, rfl, hbinds, hforbidden, rfl⟩⟩⟩⟩
    | invalidUpdate hshown hknown hworded hadmitted hdenied =>
      exact .inr ⟨_, hshown, .inr ⟨_, hknown, .inr ⟨(), hworded, .inr ⟨(), hadmitted,
        .inl ⟨hdenied, rfl⟩⟩⟩⟩⟩

theorem revised_eq_ok_iff_acceptable (hs : s.Keyed) (ha : svc.ability call s = .ok a)
    (hserved : call.Served) {j : Interest} : svc.revised call id change s = .ok j ↔
      ∃ i target, Acceptable svc call.session a s id change i target ∧
        j = i.amended target change.messages := by
  rw [revised_eq_ok_iff hs]
  constructor
  · rintro ⟨a', i, target, h, rfl⟩
    obtain rfl : a = a' := Except.ok.inj (ha.symm.trans h.ability)
    exact ⟨i, target, ⟨hs.offers_iff.2 ⟨h.stored, h.readable⟩, h.known, h.worded,
      judge_eq_ok_iff.1 h.judged, h.allowed⟩, rfl⟩
  · rintro ⟨i, target, h, rfl⟩
    obtain ⟨hstored, hreadable⟩ := hs.offers_iff.1 h.shown
    exact ⟨a, i, target, ⟨ha, hstored, hreadable, h.known, h.worded, judge_eq_ok_iff.2 h.admitted,
      h.allowed, hserved .findOne, hserved .save⟩, rfl⟩

/-- The answer to an update is what was decided, as it is stored. -/
theorem answer_update : (svc.handle call (.update id change) s).answer =
    (svc.revised call id change s).map fun j => .interest (s.save j).1 := by
  unfold handle
  dsimp only
  cases svc.revised call id change s <;> rfl

/-- **An update is decided by its checks, in their order.** It succeeds if and only if there is an
interest of the id for which everything holds that has to, and it fails with a reason if and only
if that is the first thing which does not hold. -/
theorem update_decided {f : Fixtures} (hs : Store.Reachable f s) (hserved : call.Served)
    (ha : svc.ability call s = .ok a) (id : String) (change : InterestUpdate) :
    ((∃ saved, (svc.handle call (.update id change) s).answer = .ok (.interest saved)) ↔
      ∃ i target, Acceptable svc call.session a s id change i target) ∧
    ∀ e, (svc.handle call (.update id change) s).answer = .error e ↔
      UpdateRefused svc call.session a s id change e := by
  rw [answer_update]
  refine ⟨?_, fun e => ?_⟩
  · constructor
    · rintro ⟨saved, hsaved⟩
      obtain ⟨j, hj, -⟩ := map_eq_ok_iff.1 hsaved
      obtain ⟨i, target, h, -⟩ := (revised_eq_ok_iff_acceptable hs.keyed ha hserved).1 hj
      exact ⟨i, target, h⟩
    · rintro ⟨i, target, h⟩
      have hj := (revised_eq_ok_iff_acceptable hs.keyed ha hserved).2 ⟨i, target, h, rfl⟩
      exact ⟨_, map_eq_ok_iff.2 ⟨_, hj, rfl⟩⟩
  · rw [map_eq_error_iff, revised_eq_error_iff hs.keyed ha hserved]

/-- The invitation of an administrator passes all checks, and the commitment of the volunteer who
has not been invited only those before the guard. -/
theorem update_decided_seeded :
    (∃ a i target, (standard false .standard).ability byAdministrator
        (.ofFixtures (Store.seeded "i1")) = .ok a ∧
      Acceptable (standard false .standard) byAdministrator.session a
        (.ofFixtures (Store.seeded "i1")) "i1" invitation i target) ∧
    ∃ a, (standard false .standard).ability byVolunteer
        (.ofFixtures (Store.seeded "i1")) = .ok a ∧
      UpdateRefused (standard false .standard) byVolunteer.session a
        (.ofFixtures (Store.seeded "i1")) "i1" commitment
        (.transition { subject := .interest, source := "interested", target := "committed" }) := by
  have hreached : Store.Reachable (Store.seeded "i1") (.ofFixtures (Store.seeded "i1")) := .seeded
  obtain ⟨a, ha⟩ : ∃ a, (standard false .standard).ability byAdministrator
      (.ofFixtures (Store.seeded "i1")) = .ok a := ⟨_, rfl⟩
  obtain ⟨b, hb⟩ : ∃ b, (standard false .standard).ability byVolunteer
      (.ofFixtures (Store.seeded "i1")) = .ok b := ⟨_, rfl⟩
  obtain ⟨haccepted, -⟩ := update_decided hreached (fun _ => rfl) ha "i1" invitation
  obtain ⟨-, hrefused⟩ := update_decided hreached (fun _ => rfl) hb "i1" commitment
  obtain ⟨i, target, hacceptable⟩ := haccepted.1 ⟨_, rfl⟩
  exact ⟨⟨a, i, target, ha, hacceptable⟩, b, hb, (hrefused _).1 rfl⟩

end Service

end VolunteerAccess
