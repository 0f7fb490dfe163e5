import VolunteerAccess.Proofs.Service.Confinement
import VolunteerAccess.Proofs.Service.Refusals

/-!
# What a creation stores

Permission for a new interest is judged on the record that the request asks for, whatever
texts the caller has put into it. The interest that is stored is made afterwards, from data
that has been checked. The two must be views of one request, or a session could be allowed
one record and store another.

- `Service.requested`: the record of a request, with what may be left out filled in.
  `Service.target_requestedRecord`: permission is judged on it;
  `Service.field_eq_requested`: an interest that is made from the request looks like it.
- `Service.CreateRefused`: the first thing that is wrong with a creation.
  `Service.drafted_eq_error_iff`: it is what the checks report. The check for a grant
  comes before the record is looked at, and reports nothing that the record would not.
- `Service.Created`: one interest is stored, and it is the requested one.
- `Service.create_decided`: **a creation is decided by the verdict on the requested record,
  then by its data, and stores exactly this record**.
-/

namespace VolunteerAccess

namespace Service

variable {svc : Service} {call : Call} {a : Ability} {s : Store} {e : Failure}
variable {data : NewInterest} {i : Interest}

/-! ## The requested record -/

/-- The record that a creation asks for. The person and the status are filled in where they are
left out, and what is still missing is unset. -/
def requested (call : Call) (data : NewInterest) : Target where
  resource := .interest
  field
    | "person" => (personOf call data).map .text
    | "opportunity" => data.opportunity.map .text
    | "status" => some (.text (statusTextOf data))
    | _ => none

/-- A text that may be left out is unset where it is. -/
theorem filter_ofText? (text : Option String) :
    (some (Json.ofText? text)).filter (fun v => !v.isNull) = text.map .text := by
  cases text <;> rfl

/-- Permission is judged on the requested record. -/
theorem target_requestedRecord (call : Call) (data : NewInterest) :
    (requestedRecord (personOf call data) data.opportunity (statusTextOf data)).target =
      requested call data := by
  have hfield (name : String) :
      (requestedRecord (personOf call data) data.opportunity (statusTextOf data)).field name =
        (requested call data).field name := by
    unfold requestedRecord Record.set Record.field
    -- The fields were set one after another, so they are looked up in the opposite order.
    by_cases hstatus : name = "status"
    · subst hstatus
      rw [Dict.get?_insert_self]
      rfl
    rw [Dict.get?_insert_of_ne _ _ hstatus]
    by_cases hopportunity : name = "opportunity"
    · subst hopportunity
      rw [Dict.get?_insert_self]
      exact filter_ofText? data.opportunity
    rw [Dict.get?_insert_of_ne _ _ hopportunity]
    by_cases hperson : name = "person"
    · subst hperson
      rw [Dict.get?_insert_self]
      exact filter_ofText? (personOf call data)
    rw [Dict.get?_insert_of_ne _ _ hperson]
    simp [requested, Record.empty]
  exact congrArg (Target.mk .interest) (funext hfield)

/-- An interest that is made from a request looks like the requested record, but for what the
request cannot say. -/
theorem field_eq_requested (hperson : personOf call data = some i.person)
    (hopportunity : data.opportunity = some i.opportunity)
    (hstatus : statusTextOf data = i.status.name) {name : String} (hid : name ≠ "_id")
    (hdateAdded : name ≠ "dateAdded") : i.field name = (requested call data).field name := by
  unfold requested
  rw [hperson, hopportunity, hstatus]
  unfold Interest.field
  split
  · exact absurd rfl hid
  · rfl
  · rfl
  · rfl
  · exact absurd rfl hdateAdded
  · simp

/-! ## Refusals -/

/-- The first thing that is wrong with a creation, and how it is reported. -/
inductive CreateRefused (call : Call) (a : Ability) (data : NewInterest) : Failure → Prop where
  | forbidden (hdenied : a.can .create (requested call data) = false) :
      CreateRefused call a data (.denied (.forbidden .create .interest))
  | missingPerson (hallowed : a.can .create (requested call data) = true)
      (hperson : personOf call data = none) :
      CreateRefused call a data (.validation (.missingField "person"))
  | missingOpportunity {person : String} (hallowed : a.can .create (requested call data) = true)
      (hperson : personOf call data = some person) (hopportunity : data.opportunity = none) :
      CreateRefused call a data (.validation (.missingField "opportunity"))
  | unknownStatus {person opportunity : String}
      (hallowed : a.can .create (requested call data) = true)
      (hperson : personOf call data = some person)
      (hopportunity : data.opportunity = some opportunity)
      (hunknown : ∀ st : Status, statusTextOf data ≠ st.name) :
      CreateRefused call a data (.validation (.unknownStatus (statusTextOf data)))
  | emptyMessage {person opportunity : String} {status : Status}
      (hallowed : a.can .create (requested call data) = true)
      (hperson : personOf call data = some person)
      (hopportunity : data.opportunity = some opportunity)
      (hstatus : statusTextOf data = status.name)
      (hblank : ∃ m ∈ data.messages, Text.isBlank m.body = true) :
      CreateRefused call a data (.validation .emptyMessage)

/-- A creation is forbidden if and only if the requested record is not allowed. -/
theorem createRefused_forbidden_iff :
    CreateRefused call a data (.denied (.forbidden .create .interest)) ↔
      a.can .create (requested call data) = false := by
  constructor
  · intro h
    cases h with
    | forbidden hdenied => exact hdenied
  · exact .forbidden

/-- Without a standing grant no record is allowed, so asking for one first rejects nothing that
the verdict on the record would let pass. -/
theorem can_eq_false_of_not_standing {action : Action} {t : Target} (ht : t.resource = a.subject)
    (h : ¬ ∃ r, Ability.Standing (a.rulesFor action) r) : a.can action t = false :=
  Bool.eq_false_iff.2 fun hcan => h (Ability.standing_of_can ht hcan)

/-- The checks of a creation report the first thing that is wrong. -/
theorem drafted_eq_error_iff (ha : svc.ability call s = .ok a) (hserved : call.Served) :
    svc.drafted call data s = .error e ↔ CreateRefused call a data e := by
  have hsubject : (requested call data).resource = a.subject :=
    (svc.subject_of_ability call ha).symm
  rw [drafted_eq, ha, target_requestedRecord]
  show (requireGrant a .create >>= _) = _ ↔ _
  simp only [bind_eq_error_iff, requireGrant_eq_error_iff, permit_eq_error_iff, permit_eq_ok_iff,
    required_eq_error_iff, required_eq_ok_iff, parseStatus_eq_error_iff, parseStatus_eq_ok_iff,
    checkMessages_eq_error_iff, reach_of_served hserved]
  constructor
  · rintro (⟨hnone, rfl⟩ | ⟨-, -, hrest⟩)
    · exact .forbidden (can_eq_false_of_not_standing hsubject hnone)
    rcases hrest with ⟨hdenied, rfl⟩ | ⟨-, hallowed, hrest⟩
    · exact .forbidden hdenied
    rcases hrest with ⟨hperson, rfl⟩ | ⟨person, hperson, hrest⟩
    · exact .missingPerson hallowed hperson
    rcases hrest with ⟨hopportunity, rfl⟩ | ⟨opportunity, hopportunity, hrest⟩
    · exact .missingOpportunity hallowed hperson hopportunity
    rcases hrest with ⟨hunknown, rfl⟩ | ⟨status, hstatus, hrest⟩
    · exact .unknownStatus hallowed hperson hopportunity hunknown
    rcases hrest with ⟨hblank, rfl⟩ | ⟨-, -, hsave | ⟨-, -, hdone⟩⟩
    · exact .emptyMessage hallowed hperson hopportunity hstatus hblank
    · cases hsave
    · cases hdone
  · intro h
    by_cases hgrant : ∃ r, Ability.Standing (a.rulesFor .create) r
    · refine .inr ⟨(), requireGrant_eq_ok_iff.2 ((a.hasGrant_iff_standing .create).2 hgrant), ?_⟩
      cases h with
      | forbidden hdenied => exact .inl ⟨hdenied, rfl⟩
      | missingPerson hallowed hperson => exact .inr ⟨(), hallowed, .inl ⟨hperson, rfl⟩⟩
      | missingOpportunity hallowed hperson hopportunity =>
        exact .inr ⟨(), hallowed, .inr ⟨_, hperson, .inl ⟨hopportunity, rfl⟩⟩⟩
      | unknownStatus hallowed hperson hopportunity hunknown =>
        exact .inr ⟨(), hallowed, .inr ⟨_, hperson, .inr ⟨_, hopportunity,
          .inl ⟨hunknown, rfl⟩⟩⟩⟩
      | emptyMessage hallowed hperson hopportunity hstatus hblank =>
        exact .inr ⟨(), hallowed, .inr ⟨_, hperson, .inr ⟨_, hopportunity, .inr ⟨_, hstatus,
          .inl ⟨hblank, rfl⟩⟩⟩⟩⟩
    · -- Every later reason needs an allowed record, for which there would be a grant.
      have hdenied := can_eq_false_of_not_standing hsubject hgrant
      refine .inl ⟨hgrant, ?_⟩
      cases h with
      | forbidden => rfl
      | missingPerson hallowed | missingOpportunity hallowed | unknownStatus hallowed
      | emptyMessage hallowed =>
        rw [hdenied] at hallowed
        cases hallowed

/-! ## Creations -/

/-- One interest is stored, under an id of its own. It is the one that the request asks for, in
its parts and as a record. -/
structure Created (call : Call) (data : NewInterest) (s t : Store) (saved : Interest) :
    Prop where
  named : saved.id ≠ ""
  person : personOf call data = some saved.person
  opportunity : data.opportunity = some saved.opportunity
  status : statusTextOf data = saved.status.name
  messages : saved.messages = data.messages
  dateAdded : saved.dateAdded = call.now
  fields : ∀ name, name ≠ "_id" → name ≠ "dateAdded" →
    saved.field name = (requested call data).field name
  stored : t.interests.get? saved.id = some saved
  others : ∀ k, k ≠ saved.id → t.interests.get? k = s.interests.get? k

/-- A creation is allowed as the request asks for it. -/
theorem Draft.allowed_requested (h : Draft svc call data s a i) :
    a.can .create (requested call data) = true := by
  have hallowed := h.allowed
  rw [← h.person, ← h.opportunity, ← h.status] at hallowed
  rw [← target_requestedRecord]
  exact hallowed

/-- A creation that is decided stores the requested interest under the next number. -/
theorem created_of_draft (h : Draft svc call data s a i) :
    Created call data s (s.save i).2 (s.save i).1 := by
  have hsaved : (s.save i).1 = { i with id := Store.freshId s.issued } := by
    rw [Store.save_fst, h.id]
    rfl
  have hperson : personOf call data = some (s.save i).1.person := by
    rw [hsaved]
    exact h.person
  have hopportunity : data.opportunity = some (s.save i).1.opportunity := by
    rw [hsaved]
    exact h.opportunity
  have hstatus : statusTextOf data = (s.save i).1.status.name := by
    rw [hsaved]
    exact h.status
  refine ⟨?_, hperson, hopportunity, hstatus, ?_, ?_, fun name hid hdateAdded => ?_,
    Store.get?_save_self s i, fun k hk => Store.get?_save_of_ne s i hk⟩
  · rw [Store.id_save_of_empty s i h.id]
    exact Store.freshId_ne_empty s.issued
  · rw [hsaved]
    exact h.messages
  · rw [hsaved]
    exact h.dateAdded
  · exact field_eq_requested hperson hopportunity hstatus hid hdateAdded

/-- The reply to a creation that is decided. -/
theorem handle_create_of_ok (h : svc.drafted call data s = .ok i) :
    svc.handle call (.create data) s = commit s i .accept := by
  simp only [handle, h]

/-- The answer to a creation is what was decided, as it is stored. -/
theorem answer_create : (svc.handle call (.create data) s).answer =
    (svc.drafted call data s).map fun i => .interest (s.save i).1 := by
  cases hdrafted : svc.drafted call data s with
  | error e => simp only [handle, hdrafted]; rfl
  | ok i => rw [handle_create_of_ok hdrafted]; rfl

/-- **A creation is decided by the verdict on the requested record, then by its data, and stores
exactly this record.** It is forbidden if and only if the record is not allowed, it fails
otherwise with the first thing that is wrong with the data, and if nothing is wrong then it
gives back and stores the interest that was asked for. -/
theorem create_decided (hserved : call.Served) (ha : svc.ability call s = .ok a)
    (data : NewInterest) :
    ((svc.handle call (.create data) s).answer = .error (.denied (.forbidden .create .interest)) ↔
      a.can .create (requested call data) = false) ∧
    (∀ e, (svc.handle call (.create data) s).answer = .error e ↔ CreateRefused call a data e) ∧
    ((∀ e, ¬ CreateRefused call a data e) →
      ∃ saved, (svc.handle call (.create data) s).answer = .ok (.interest saved) ∧
        Created call data s (svc.handle call (.create data) s).store saved) := by
  have hrefused (e : Failure) :
      (svc.handle call (.create data) s).answer = .error e ↔ CreateRefused call a data e := by
    rw [answer_create, map_eq_error_iff, drafted_eq_error_iff ha hserved]
  refine ⟨(hrefused _).trans createRefused_forbidden_iff, hrefused, fun hnone => ?_⟩
  cases hdrafted : svc.drafted call data s with
  | error e => exact absurd ((drafted_eq_error_iff ha hserved).1 hdrafted) (hnone e)
  | ok i =>
    obtain ⟨a', hdraft⟩ := drafted_eq_ok_iff.1 hdrafted
    rw [handle_create_of_ok hdrafted]
    exact ⟨(s.save i).1, rfl, created_of_draft hdraft⟩

/-- A request that leaves out the person and the status. -/
def signup : NewInterest :=
  { person := none, opportunity := some "o1", status := none, messages := [] }

/-- A volunteer may sign up, but not for a commitment. Of a request of an administrator from which
the opportunity is missing and the status is not known, the former is reported. -/
theorem create_decided_signup :
    (∃ a saved, (standard false .standard).ability asVolunteer .empty = .ok a ∧
      Created asVolunteer signup .empty
        ((standard false .standard).handle asVolunteer (.create signup) .empty).store saved) ∧
    (∃ a, (standard false .standard).ability asVolunteer .empty = .ok a ∧
      a.can .create (requested asVolunteer { signup with status := some "committed" }) = false) ∧
    ∃ a, (standard false .standard).ability byAdministrator .empty = .ok a ∧
      CreateRefused byAdministrator a { signup with opportunity := none, status := some "eager" }
        (.validation (.missingField "opportunity")) := by
  obtain ⟨a, ha⟩ : ∃ a, (standard false .standard).ability asVolunteer .empty = .ok a := ⟨_, rfl⟩
  obtain ⟨b, hb⟩ : ∃ b, (standard false .standard).ability byAdministrator .empty = .ok b :=
    ⟨_, rfl⟩
  obtain ⟨-, hrefused, hcreated⟩ := create_decided (fun _ => rfl) ha signup
  obtain ⟨hforbidden, -⟩ :=
    create_decided (fun _ => rfl) ha { signup with status := some "committed" }
  obtain ⟨-, hreported, -⟩ := create_decided (fun _ => rfl) hb
    { signup with opportunity := none, status := some "eager" }
  obtain ⟨answer, hanswer⟩ : ∃ answer,
      ((standard false .standard).handle asVolunteer (.create signup) .empty).answer =
        .ok answer := ⟨_, rfl⟩
  obtain ⟨saved, -, hstored⟩ := hcreated fun e he => by
    have herror := (hrefused e).2 he
    rw [hanswer] at herror
    cases herror
  exact ⟨⟨a, saved, ha, hstored⟩, ⟨a, ha, hforbidden.1 rfl⟩, b, hb, (hreported _).1 rfl⟩

end Service

end VolunteerAccess
