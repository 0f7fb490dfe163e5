import VolunteerAccess.Proofs.Ability.Grants
import VolunteerAccess.Proofs.Service.Effects

/-!
# What a decision has found out

A request is decided by a chain of checks. Here each chain is said once, as the
conjunction of what its checks have found out when it succeeds:

- `Service.revised_eq`, `Service.drafted_eq`: the chains, check by check.
- `Service.visible_eq_ok_iff`: an interest is shown if it is stored under the id
  and may be read.
- `Service.Revision`, `Service.revised_eq_ok_iff`: **when an update is decided**,
  and what the interest becomes.
- `Service.Draft`, `Service.drafted_eq_ok_iff`: **when a creation is decided**.
- `Service.doomed_eq_ok_iff`: what a deletion searches for.
-/

namespace VolunteerAccess

/-! ## Statuses and changes -/

namespace Status

theorem ofText?_name (st : Status) : ofText? st.name = some st := by cases st <;> rfl

theorem ofText?_eq_some_iff {text : String} {st : Status} :
    ofText? text = some st ↔ text = st.name := by
  constructor
  · intro h
    have hname := List.find?_some h
    exact (beq_iff_eq.1 hname).symm
  · rintro rfl
    exact ofText?_name st

end Status

/-- The interest in another status, if one is given, and with further messages. -/
def Interest.amended (i : Interest) (target : Option Status) (ms : List Message) : Interest :=
  { i with status := target.getD i.status, messages := i.messages ++ ms }

/-! ## Single checks -/

namespace Service

variable {svc : Service} {call : Call} {a : Ability} {s : Store}

theorem requireGrant_eq_ok_iff {action : Action} {u : Unit} :
    requireGrant a action = .ok u ↔ a.hasGrant action = true := by
  unfold requireGrant
  cases a.hasGrant action <;> simp

theorem reach_eq_ok_iff {op : StoreOperation} {u : Unit} :
    reach call op = .ok u ↔ call.outages.operation op = none := by
  unfold reach
  cases call.outages.operation op <;> simp

theorem checkMessages_eq_ok_iff {ms : List Message} {u : Unit} :
    checkMessages ms = .ok u ↔ ∀ m ∈ ms, Text.isBlank m.body = false := by
  unfold checkMessages
  cases h : ms.any fun m => Text.isBlank m.body with
  | true =>
    obtain ⟨m, hm, hblank⟩ := List.any_eq_true.1 h
    refine iff_of_false (fun heq => by cases heq) fun hall => ?_
    rw [hall m hm] at hblank
    cases hblank
  | false => exact iff_of_true rfl fun m hm => by simpa using List.any_eq_false.1 h m hm

theorem parseStatus_eq_ok_iff {text : String} {st : Status} :
    parseStatus text = .ok st ↔ text = st.name := by
  rw [← Status.ofText?_eq_some_iff]
  unfold parseStatus
  cases Status.ofText? text <;> simp

/-- A status that may be left out is known if it is left out or has a known name. -/
theorem mapM_parseStatus_eq_ok_iff {text : Option String} {st : Option Status} :
    text.mapM parseStatus = .ok st ↔ text = st.map Status.name := by
  cases text with
  | none =>
    show Except.ok none = Except.ok st ↔ none = st.map Status.name
    cases st <;> simp
  | some text =>
    show (parseStatus text >>= fun st => Except.ok (some st)) = Except.ok st ↔ _
    rw [bind_eq_ok_iff]
    simp only [parseStatus_eq_ok_iff, Except.ok.injEq]
    constructor
    · rintro ⟨st', rfl, rfl⟩
      rfl
    · intro h
      cases st with
      | none => cases h
      | some st' => exact ⟨st', Option.some.inj h, rfl⟩

/-- A record that must be allowed; the denial is the answer if it is not. -/
def permit (a : Ability) (action : Action) (t : Target) (d : Denial) : Except Failure Unit :=
  if a.can action t then .ok () else .error (.denied d)

theorem permit_eq_ok_iff {action : Action} {t : Target} {d : Denial} {u : Unit} :
    permit a action t d = .ok u ↔ a.can action t = true := by
  unfold permit
  cases a.can action t <;> simp

/-- A field that must be given. -/
def required (name : String) : Option String → Except Failure String
  | some value => .ok value
  | none => .error (.validation (.missingField name))

theorem required_eq_ok_iff {name : String} {given : Option String} {value : String} :
    required name given = .ok value ↔ given = some value := by
  cases given <;> simp [required]

/-! ## Looking an interest up -/

/-- The filter selects the interests for which the check says yes. -/
theorem holds_filterFor_interest (ha : a.subject = .interest) (action : Action) (i : Interest) :
    (a.filterFor action).holds i.target = a.can action i.target := by
  rw [Ability.holds_filterFor a action ha.symm, Ability.can_eq_verdict]

theorem findVisible_eq_ok_iff (hs : s.Keyed) (ha : a.subject = .interest) {action : Action}
    {id : String} {i : Interest} : findVisible call a action id s = .ok i ↔
      call.outages.operation .findOne = none ∧ s.interests.get? id = some i ∧
        a.can action i.target = true := by
  unfold findVisible
  rw [hs.findOne_byId]
  simp only [bind_eq_ok_iff, requireGrant_eq_ok_iff, reach_eq_ok_iff, holds_filterFor_interest ha]
  constructor
  · rintro ⟨-, -, -, hreach, hfound⟩
    cases hi : (s.interests.get? id).filter fun j => a.can action j.target with
    | none =>
      rw [hi] at hfound
      cases hfound
    | some j =>
      rw [hi] at hfound
      cases hfound
      obtain ⟨hstored, hallowed⟩ := Option.filter_eq_some_iff.1 hi
      exact ⟨hreach, hstored, hallowed⟩
  · rintro ⟨hreach, hstored, hallowed⟩
    refine ⟨(), Ability.hasGrant_of_can ha.symm hallowed, (), hreach, ?_⟩
    rw [Option.filter_eq_some_iff.2 ⟨hstored, hallowed⟩]
    rfl

/-- An interest is shown if it is stored under the id and may be read. -/
theorem visible_eq_ok_iff (hs : s.Keyed) {id : String} {i : Interest} :
    svc.visible call id s = .ok i ↔ ∃ a, svc.ability call s = .ok a ∧
      call.outages.operation .findOne = none ∧ s.interests.get? id = some i ∧
        a.can .read i.target = true := by
  unfold visible
  rw [bind_eq_ok_iff]
  refine exists_congr fun a => and_congr_right fun ha => ?_
  exact findVisible_eq_ok_iff hs (svc.subject_of_ability call ha)

/-! ## Updates -/

/-- The judgement of the guard on a status that may be left out. -/
def judge (svc : Service) (session : Session) (i : Interest) : Option Status → Except Failure Unit
  | none => .ok ()
  | some target => svc.checkTransition session i target

/-- The denial of a change after which the record would not be allowed. -/
def invalidUpdate : Denial :=
  .forbiddenBecause .update .interest "invalid update attempted"

/-- An update is decided by these checks, in this order. -/
theorem revised_eq (svc : Service) (call : Call) (id : String) (change : InterestUpdate)
    (s : Store) : svc.revised call id change s = (do
      let a ← svc.ability call s
      let i ← findVisible call a .read id s
      let target ← change.status.mapM parseStatus
      checkMessages change.messages
      svc.judge call.session i target
      permit a .update (i.amended target change.messages).target invalidUpdate
      reach call .save
      return i.amended target change.messages) := by
  unfold revised
  refine bind_congr fun a => bind_congr fun i => bind_congr fun target => bind_congr fun _ => ?_
  have htail : (if a.can .update (i.amended target change.messages).target = true then do
        reach call .save
        pure (i.amended target change.messages)
      else throw (.denied invalidUpdate)) = (do
        permit a .update (i.amended target change.messages).target invalidUpdate
        reach call .save
        return i.amended target change.messages) := by
    unfold permit
    split <;> rfl
  cases target with
  | none => exact htail
  | some st => exact bind_congr fun _ => htail

/-- What the checks of an update have found out when all of them succeed. -/
structure Revision (svc : Service) (call : Call) (id : String) (change : InterestUpdate)
    (s : Store) (a : Ability) (i : Interest) (target : Option Status) : Prop where
  ability : svc.ability call s = .ok a
  stored : s.interests.get? id = some i
  readable : a.can .read i.target = true
  known : change.status = target.map Status.name
  worded : ∀ m ∈ change.messages, Text.isBlank m.body = false
  judged : svc.judge call.session i target = .ok ()
  allowed : a.can .update (i.amended target change.messages).target = true
  found : call.outages.operation .findOne = none
  kept : call.outages.operation .save = none

/-- **When an update is decided**, and what the interest becomes. -/
theorem revised_eq_ok_iff (hs : s.Keyed) {id : String} {change : InterestUpdate} {j : Interest} :
    svc.revised call id change s = .ok j ↔
      ∃ a i target, Revision svc call id change s a i target ∧
        j = i.amended target change.messages := by
  rw [revised_eq]
  simp only [bind_eq_ok_iff, checkMessages_eq_ok_iff,
    mapM_parseStatus_eq_ok_iff, permit_eq_ok_iff, reach_eq_ok_iff]
  constructor
  · rintro ⟨a, ha, i, hi, target, hknown, -, hworded, ⟨⟩, hjudged, -, hallowed, -, hsave, hj⟩
    obtain ⟨hfind, hstored, hread⟩ :=
      (findVisible_eq_ok_iff hs (svc.subject_of_ability call ha)).1 hi
    cases hj
    exact ⟨a, i, target, ⟨ha, hstored, hread, hknown, hworded, hjudged, hallowed, hfind, hsave⟩, rfl⟩
  · rintro ⟨a, i, target, h, rfl⟩
    have hi : findVisible call a .read id s = .ok i :=
      (findVisible_eq_ok_iff hs (svc.subject_of_ability call h.ability)).2
        ⟨h.found, h.stored, h.readable⟩
    exact ⟨a, h.ability, i, hi, target, h.known, (), h.worded, (), h.judged, (), h.allowed, (),
      h.kept, rfl⟩

/-! ## Creations -/

/-- The person of a new interest: the one that is given, or else the one who asks. -/
def personOf (call : Call) (data : NewInterest) : Option String :=
  data.person.or call.session.identity

/-- The status of a new interest: the one that is given, or else the initial one. -/
def statusTextOf (data : NewInterest) : String := data.status.getD Status.initial.name

/-- A creation is decided by these checks, in this order. -/
theorem drafted_eq (svc : Service) (call : Call) (data : NewInterest) (s : Store) :
    svc.drafted call data s = (do
      let a ← svc.ability call s
      requireGrant a .create
      permit a .create
        (requestedRecord (personOf call data) data.opportunity (statusTextOf data)).target
        (.forbidden .create .interest)
      let person ← required "person" (personOf call data)
      let opportunity ← required "opportunity" data.opportunity
      let status ← parseStatus (statusTextOf data)
      checkMessages data.messages
      reach call .save
      return { id := "", person, opportunity, status, messages := data.messages,
               dateAdded := call.now }) := by
  unfold drafted
  refine bind_congr fun a => bind_congr fun _ => ?_
  dsimp only [permit, personOf, statusTextOf]
  split
  · cases data.person.or call.session.identity with
    | none => rfl
    | some person => cases data.opportunity <;> rfl
  · rfl

/-- What the checks of a creation have found out when all of them succeed. -/
structure Draft (svc : Service) (call : Call) (data : NewInterest) (s : Store) (a : Ability)
    (i : Interest) : Prop where
  ability : svc.ability call s = .ok a
  allowed : a.can .create
    (requestedRecord (some i.person) (some i.opportunity) i.status.name).target = true
  id : i.id = ""
  person : data.person.or call.session.identity = some i.person
  opportunity : data.opportunity = some i.opportunity
  status : data.status.getD Status.initial.name = i.status.name
  messages : i.messages = data.messages
  worded : ∀ m ∈ data.messages, Text.isBlank m.body = false
  dateAdded : i.dateAdded = call.now
  kept : call.outages.operation .save = none

/-- **When a creation is decided**, and what the new interest is. -/
theorem drafted_eq_ok_iff {data : NewInterest} {i : Interest} :
    svc.drafted call data s = .ok i ↔ ∃ a, Draft svc call data s a i := by
  rw [drafted_eq]
  simp only [bind_eq_ok_iff, checkMessages_eq_ok_iff, parseStatus_eq_ok_iff,
    permit_eq_ok_iff, requireGrant_eq_ok_iff, required_eq_ok_iff, reach_eq_ok_iff]
  constructor
  · rintro ⟨a, ha, -, -, -, hallowed, person, hperson, opportunity, hopportunity, status, hstatus,
      -, hworded, -, hsave, hi⟩
    cases hi
    rw [hperson, hopportunity, hstatus] at hallowed
    exact ⟨a, ha, hallowed, rfl, hperson, hopportunity, hstatus, rfl, hworded, rfl, hsave⟩
  · rintro ⟨a, h⟩
    have hallowed := h.allowed
    rw [← h.person, ← h.opportunity, ← h.status] at hallowed
    have hgrant : a.hasGrant .create = true :=
      Ability.hasGrant_of_can (svc.subject_of_ability call h.ability).symm hallowed
    refine ⟨a, h.ability, (), hgrant, (), hallowed, i.person, h.person, i.opportunity,
      h.opportunity, i.status, h.status, (), h.worded, (), h.kept, ?_⟩
    rw [← h.id, ← h.messages, ← h.dateAdded]
    rfl

/-! ## Deletions -/

/-- What a deletion searches for. -/
theorem doomed_eq_ok_iff {id : String} {f : Filter} : svc.doomed call id s = .ok f ↔
    ∃ a, svc.ability call s = .ok a ∧ a.hasGrant .delete = true ∧
      call.outages.operation .deleteOne = none ∧
        f = (a.filterFor .delete).and (.byId (.text id)) := by
  unfold doomed
  simp only [bind_eq_ok_iff, requireGrant_eq_ok_iff, reach_eq_ok_iff]
  constructor
  · rintro ⟨a, ha, -, hgrant, -, hreach, hf⟩
    cases hf
    exact ⟨a, ha, hgrant, hreach, rfl⟩
  · rintro ⟨a, ha, hgrant, hreach, rfl⟩
    exact ⟨a, ha, (), hgrant, (), hreach, rfl⟩

end Service

end VolunteerAccess
