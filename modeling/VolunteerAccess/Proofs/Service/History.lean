import VolunteerAccess.Proofs.Document.Encoding
import VolunteerAccess.Proofs.Service.Effects

/-!
# The history that events tell

A request that is refused, or that only asks to be shown interests, leaves no
trace: neither in the store, nor among the events. Every other request is a
mutation that succeeded, and it is announced by one event.

- `Service.Ending`: the ways a request may end, each with its whole reply;
  `Service.ending_handle`: there are no others.
- `Service.store_handle_of_idle`: **an idle request leaves the store as it is**;
  `Service.run_effective`: idle requests may be dropped from a run, and the store
  and the events at its end stay the same.
- `Service.Announces`: what an event tells of a mutation; `Service.run_events`:
  **the events of a run are the announcements of its mutations**, in order.
-/

namespace VolunteerAccess

/-- Whether a request only asks to be shown interests. -/
def Request.reads : Request → Bool
  | .list _ | .get _ => true
  | .create _ | .update _ _ | .delete _ => false

namespace Service

/-! ## Ends of a request -/

/-- The ways a request may end. -/
inductive Ending (s : Store) : Request → Reply → Prop where
  | shown {request : Request} (h : request.reads = true) (answer : Except Failure Answer) :
      Ending s request (unchanged s answer)
  | refused (request : Request) (e : Failure) : Ending s request (unchanged s (.error e))
  | created (data : NewInterest) (i : Interest) : Ending s (.create data) (commit s i .accept)
  | updated (id : String) (change : InterestUpdate) (i : Interest) :
      Ending s (.update id change) (commit s i change.kind)
  | deleted (id : String) (f : Filter) : Ending s (.delete id)
      { answer := .ok .done, store := (s.deleteOne f).2, events := [deletion id] }

variable (svc : Service) (call : Call)

theorem ending_handle (request : Request) (s : Store) :
    Ending s request (svc.handle call request s) := by
  cases request with
  | list q => exact .shown rfl _
  | get id => exact .shown rfl _
  | create data =>
    simp only [handle]
    cases svc.drafted call data s with
    | error e => exact .refused _ e
    | ok i => exact .created data i
  | update id change =>
    simp only [handle]
    cases svc.revised call id change s with
    | error e => exact .refused _ e
    | ok i => exact .updated id change i
  | delete id =>
    cases h : svc.doomed call id s with
    | error e =>
      simp only [handle, h]
      exact .refused _ e
    | ok f =>
      rw [svc.handle_delete call h]
      cases s.findOne f with
      | none => exact .refused _ _
      | some i => exact .deleted id f

/-! ## Requests without a trace -/

/-- Whether a request was refused, or only asked to be shown interests. -/
def idle (request : Request) : Except Failure Answer → Bool
  | .ok _ => request.reads
  | .error _ => true

theorem idle_iff {request : Request} {answer : Except Failure Answer} :
    idle request answer = true ↔ (∃ e, answer = .error e) ∨ request.reads = true := by
  cases answer with
  | error e => exact iff_of_true rfl (.inl ⟨e, rfl⟩)
  | ok a =>
    show request.reads = true ↔ _
    refine ⟨.inr, ?_⟩
    rintro (⟨e, he⟩ | h)
    · cases he
    · exact h

/-- An idle request has an answer and no other consequence. -/
theorem Ending.eq_unchanged {s : Store} {request : Request} {reply : Reply}
    (h : Ending s request reply) (hidle : idle request reply.answer = true) :
    reply = unchanged s reply.answer := by
  cases h with
  | shown h answer => rfl
  | refused _ e => rfl
  | created data i => cases hidle
  | updated id change i => cases hidle
  | deleted id f => cases hidle

/-- **An idle request leaves the store as it is**, the counter of fresh ids included. -/
theorem store_handle_of_idle (request : Request) (s : Store)
    (h : (∃ e, (svc.handle call request s).answer = .error e) ∨ request.reads = true) :
    (svc.handle call request s).store = s := by
  rw [(svc.ending_handle call request s).eq_unchanged (idle_iff.2 h)]
  rfl

/-- An interest that is still open. -/
def undecided : Interest :=
  { id := "i1", person := "p1", opportunity := "o1", status := .interested, messages := [],
    dateAdded := 5 }

/-- A service that lets everybody read, and update what is still open after the update. -/
def openOnly : Service :=
  { compiler := fun _ => (Compiler.empty false).register
      { subject := .interest, roles := Role.all, build := fun _ _ =>
          { yields := 0, outcome := .ok (((RuleSet.empty .interest).grant .read).grantIf .update
              (Condition.empty.eq "status" (.text Status.interested.name))) } }
    guard := .standard }

theorem store_handle_of_idle_closing :
    let call : Call := { session := .anonymous, now := 7, outages := .none }
    let request :=
      Request.update "i1" { status := some "completed", messages := [], kind := .accept }
    let s := (Store.empty.save undecided).2
    (openOnly.handle call request s).answer =
        .error (.denied (.forbiddenBecause .update .interest "invalid update attempted")) ∧
      (openOnly.handle call request s).store = s :=
  ⟨rfl, store_handle_of_idle openOnly _ _ _ (.inl ⟨_, rfl⟩)⟩

/-- The requests of a run that are not idle. -/
def effective (svc : Service) : List (Call × Request) → Store → List (Call × Request)
  | [], _ => []
  | (call, request) :: rest, s =>
    let reply := svc.handle call request s
    if idle request reply.answer then svc.effective rest reply.store
    else (call, request) :: svc.effective rest reply.store

theorem snd_run_cons (request : Request) (rest : List (Call × Request)) (s : Store) :
    let reply := svc.handle call request s
    (svc.run ((call, request) :: rest) s).2 =
      ((svc.run rest reply.store).2.1, reply.events ++ (svc.run rest reply.store).2.2) := rfl

/-- **Idle requests may be dropped from a run**: the others lead to the same store, with the
same events. -/
theorem run_effective (requests : List (Call × Request)) (s : Store) :
    (svc.run (svc.effective requests s) s).2 = (svc.run requests s).2 := by
  induction requests generalizing s with
  | nil => rfl
  | cons r rest ih =>
    obtain ⟨call, request⟩ := r
    rw [snd_run_cons]
    unfold effective
    dsimp only
    split
    · next hidle =>
      -- The reply is the state before it, so the rest runs from there.
      rw [(svc.ending_handle call request s).eq_unchanged hidle]
      exact ih s
    · rw [snd_run_cons, ih]

/-! ## Announcements -/

/-- An event tells of an interest and of what was done with it. -/
structure Tells (i : Interest) (kind : UpdateKind) (e : Event) : Prop where
  topic : e.topic = if kind = .message then .interestMessage else .interestUpdate
  kind : e.payload.get? "type" = some kind.encode
  /-- The record is all of the payload but for the kind. -/
  record : Interest.decode? (e.payload.without "type") = some i

/-- The payload is the encoded record with one more member. -/
theorem payload_announcement (i : Interest) (kind : UpdateKind) : ∃ d : Dict Json,
    d.get? "type" = none ∧ i.encode = .ofDict d ∧
      (announcement i kind).payload = .ofDict (d.insert "type" kind.encode) := by
  refine ⟨_, ?_, rfl, congrArg Json.ofDict (Dict.ofList_entries_append _ _ _)⟩
  -- No field of an interest has the name that the kind is put under.
  rw [← Dict.not_mem_keys_iff, Dict.mem_keys_iff]
  rintro ⟨v, hv⟩
  have hmem := Dict.mem_of_get?_ofList hv
  simp at hmem

theorem tells_announcement (i : Interest) (kind : UpdateKind) :
    Tells i kind (announcement i kind) := by
  obtain ⟨d, hnew, hencode, hpayload⟩ := payload_announcement i kind
  constructor
  · cases kind <;> rfl
  · rw [hpayload, Json.get?_ofDict, Dict.get?_insert_self]
  · rw [hpayload, Json.without_ofDict, Dict.erase_insert_of_none hnew, ← hencode]
    exact i.decode?_encode

/-- What an event tells of a mutation that was answered. -/
inductive Announces : Request × Answer → Event → Prop where
  | created {data : NewInterest} {i : Interest} {e : Event} (h : Tells i .accept e) :
      Announces (.create data, .interest i) e
  | updated {id : String} {change : InterestUpdate} {i : Interest} {e : Event}
      (h : Tells i change.kind e) : Announces (.update id change, .interest i) e
  | deleted {id : String} : Announces (.delete id, .done)
      { topic := .interestDelete, payload := .object [("_id", .text id)] }

/-- A mutation that succeeded, with its answer. -/
def mutation? (request : Request) : Except Failure Answer → Option (Request × Answer)
  | .ok answer => if request.reads then none else some (request, answer)
  | .error _ => none

/-- The mutations that succeeded among some requests with their answers. -/
def mutations (requests : List (Call × Request)) (answers : List (Except Failure Answer)) :
    List (Request × Answer) :=
  (requests.zip answers).filterMap fun p => mutation? p.1.2 p.2

/-- A request is announced once if it is a mutation that succeeded, and else not at all. -/
theorem Ending.announces {s : Store} {request : Request} {reply : Reply}
    (h : Ending s request reply) :
    List.Forall₂ Announces (mutation? request reply.answer).toList reply.events := by
  cases h with
  | shown h answer =>
    cases answer with
    | error e => exact .nil
    | ok a =>
      show List.Forall₂ Announces (if request.reads = true then none else _).toList []
      rw [if_pos h]
      exact .nil
  | refused _ e => exact .nil
  | created data i => exact .cons (.created (tells_announcement _ _)) .nil
  | updated id change i => exact .cons (.updated (tells_announcement _ _)) .nil
  | deleted id f => exact .cons .deleted .nil

/-- **The events of a run are the announcements of its mutations**: one for each that succeeded,
in order, and none for any other request. -/
theorem run_events (requests : List (Call × Request)) (s : Store) :
    (svc.run requests s).1.length = requests.length ∧
      List.Forall₂ Announces (mutations requests (svc.run requests s).1)
        (svc.run requests s).2.2 := by
  induction requests generalizing s with
  | nil => exact ⟨rfl, .nil⟩
  | cons r rest ih =>
    obtain ⟨call, request⟩ := r
    obtain ⟨hlength, hrest⟩ := ih (svc.handle call request s).store
    refine ⟨congrArg (· + 1) hlength, ?_⟩
    show List.Forall₂ Announces
      (((((call, request), (svc.handle call request s).answer) ::
        rest.zip (svc.run rest (svc.handle call request s).store).1)).filterMap _)
      ((svc.handle call request s).events ++ _)
    rw [List.filterMap_eq_flatMap_toList, List.flatMap_cons, ← List.filterMap_eq_flatMap_toList]
    exact List.rel_append (svc.ending_handle call request s).announces hrest

end Service

end VolunteerAccess
