import VolunteerAccess.Proofs.Policy.Lookups
import VolunteerAccess.Service

/-!
# Requests while look-ups fail

A look-up that fails is not an empty answer: the session is not told that it owns
nothing, which would deny what it may do, nor is it granted anything.

- `Service.handle_congr`: a request sees its compiler only through the ability.
- `Service.handle_of_ability_error`: without an ability every request has the same
  answer, and nothing happens.
- `Service.withLookups`: the service of the standard policy over other look-ups, which may take
  their time.
- `Service.handle_withLookups`: **a look-up that the session needs and that fails is the answer to
  every request; a look-up that it does not need makes no difference**.
-/

namespace VolunteerAccess

/-- A look-up that is not refused gives what the store has. -/
theorem Store.Refusals.eq_of_guarded {refusal : Option String} {scope : Scope}
    {ids found : List String} (h : guarded refusal scope ids = .ok found) : found = ids := by
  cases refusal with
  | none =>
    cases h
    rfl
  | some reason => cases h

/-- Refused look-ups are completed by those of the store itself. -/
theorem Store.completes_ownership (s : Store) (r : Refusals) :
    (s.ownership .none).Completes (s.ownership r) where
  requestedBy _ _ := ⟨_, rfl, fun _ => Refusals.eq_of_guarded⟩
  offeredBy _ _ := ⟨_, rfl, fun _ => Refusals.eq_of_guarded⟩

namespace Service

variable {svc svc' : Service} {call : Call} {s : Store}

/-! ## Requests and abilities -/

/-- Services with one guard and one ability handle requests alike. -/
theorem handle_congr (hguard : svc.guard = svc'.guard)
    (hability : svc.ability call s = svc'.ability call s) (request : Request) :
    svc.handle call request s = svc'.handle call request s := by
  cases request with
  | list q =>
    unfold handle listed
    rw [hability]
  | get id =>
    unfold handle visible
    rw [hability]
  | create data =>
    unfold handle drafted
    rw [hability]
  | update id change =>
    unfold handle revised checkTransition
    rw [hability, hguard]
  | delete id =>
    unfold handle doomed
    rw [hability]

/-- Without an ability nothing is decided and nothing is done. -/
theorem handle_of_ability_error {e : Failure} (h : svc.ability call s = .error e)
    (request : Request) : svc.handle call request s = unchanged s (.error e) := by
  cases request with
  | list q =>
    unfold handle listed
    rw [h]
    rfl
  | get id =>
    unfold handle visible
    rw [h]
    rfl
  | create data =>
    unfold handle drafted
    rw [h]
    rfl
  | update id change =>
    unfold handle revised
    rw [h]
    rfl
  | delete id =>
    unfold handle doomed
    rw [h]
    rfl

/-! ## Other look-ups -/

/-- The service of the standard policy over given look-ups, where the rules of a role may take
some turns to be found. -/
def withLookups (lookup : Ownership) (concurrent : Bool) (turns : Role → Nat) (guard : Guard) :
    Service :=
  { compiler := fun _ => (Policy.standard concurrent lookup).scheduled concurrent turns, guard }

theorem ability_withLookups (lookup : Ownership) (concurrent : Bool) (turns : Role → Nat)
    (guard : Guard) (call : Call) (s : Store) :
    (withLookups lookup concurrent turns guard).ability call s =
      (((Policy.standard concurrent lookup).scheduled concurrent turns).compile call.session
        .interest).mapError .build := rfl

/-- The standard service looks up in the store that the request is for, and at once. -/
theorem handle_standard (concurrent : Bool) (guard : Guard) (call : Call) (request : Request)
    (s : Store) : (standard concurrent guard).handle call request s =
      (withLookups (s.ownership call.outages.lookups) concurrent (fun _ => 0) guard).handle call
        request s := by
  have hability : (standard concurrent guard).ability call s =
      (withLookups (s.ownership call.outages.lookups) concurrent (fun _ => 0) guard).ability call
        s := rfl
  refine handle_congr ?_ hability request
  rfl

/-- **A look-up that the session needs and that fails is the answer to every request**, whatever
the request, and no record and no event tells of it. It is a failure inside, not a decision of
the policy. **A look-up that the session does not need makes no difference**: the reply is that
of look-ups that never fail. -/
theorem handle_withLookups {lookup total : Ownership} (htotal : total.Completes lookup)
    (concurrent : Bool) (turns : Role → Nat) (guard : Guard) (call : Call) (request : Request)
    (s : Store) :
    ((∃ role cause, lookup.Refuses call.session role cause) →
      ∃ role cause, lookup.Refuses call.session role cause ∧
        (withLookups lookup concurrent turns guard).handle call request s =
          { answer := .error (.build (.lookup role cause)), store := s, events := [] } ∧
        (Failure.build (.lookup role cause)).statusCode = 500 ∧
        (Failure.build (.lookup role cause)).isPolicyDecision = false) ∧
    ((∀ role cause, ¬ lookup.Refuses call.session role cause) →
      (withLookups lookup concurrent turns guard).handle call request s =
        (withLookups total concurrent turns guard).handle call request s) := by
  constructor
  · intro hrefuses
    obtain ⟨role, cause, hneeded, hcompile⟩ :=
      Policy.compile_of_refuses hrefuses concurrent turns
    have hability : (withLookups lookup concurrent turns guard).ability call s =
        .error (.build (.lookup role cause)) := by
      rw [ability_withLookups, hcompile]
      rfl
    exact ⟨role, cause, hneeded, handle_of_ability_error hability request, rfl, rfl⟩
  · intro hanswered
    have hability : (withLookups lookup concurrent turns guard).ability call s =
        (withLookups total concurrent turns guard).ability call s := by
      rw [ability_withLookups, ability_withLookups, Policy.compile_of_completes htotal hanswered]
    refine handle_congr ?_ hability request
    rfl

/-- The look-ups by person are out of order, those by organisation are not. -/
def halfRefused : Store.Refusals := { requested := some "unavailable", offered := none }

/-- An interest in the only opportunity of a store. -/
def soleInterest : Interest :=
  { id := "i1", person := "p2", opportunity := "o1", status := .interested, messages := [],
    dateAdded := 5 }

def soleOpportunity : Store :=
  { Store.empty with
    interests := Store.index [soleInterest]
    opportunities := [{ id := "o1", requestor := "p1", offerOrg := some "g1" }] }

/-- A request of the person p1 in some roles. -/
def hostCall (roles : List Role) : Call :=
  { session := .ofPerson "p1" roles ["g1"], now := 7, outages := .none }

/-- Who requested the opportunity is refused even what no policy could grant; who administers the
organisation is shown the interest. -/
theorem handle_withLookups_halfRefused :
    (∃ role cause,
      (soleOpportunity.ownership halfRefused).Refuses (hostCall [.opportunityProvider]).session
        role cause ∧
      (withLookups (soleOpportunity.ownership halfRefused) true (fun _ => 2) .standard).handle
          (hostCall [.opportunityProvider]) (.delete "i9") soleOpportunity =
        { answer := .error (.build (.lookup role cause)), store := soleOpportunity, events := [] } ∧
      (Failure.build (.lookup role cause)).statusCode = 500 ∧
      (Failure.build (.lookup role cause)).isPolicyDecision = false) ∧
    (withLookups (soleOpportunity.ownership halfRefused) true (fun _ => 2) .standard).handle
        (hostCall [.organisationAdmin]) (.get "i1") soleOpportunity =
      (withLookups (soleOpportunity.ownership .none) true (fun _ => 2) .standard).handle
        (hostCall [.organisationAdmin]) (.get "i1") soleOpportunity ∧
    ((withLookups (soleOpportunity.ownership halfRefused) true (fun _ => 2) .standard).handle
        (hostCall [.organisationAdmin]) (.get "i1") soleOpportunity).answer =
      .ok (.interest soleInterest) := by
  have htotal := soleOpportunity.completes_ownership halfRefused
  have hanswered : ∀ role cause, ¬ (soleOpportunity.ownership halfRefused).Refuses
      (hostCall [.organisationAdmin]).session role cause := by
    intro role cause hrefuses
    cases hrefuses with
    | requested _ hheld _ => cases hheld
    | offered _ _ he => cases he
  obtain ⟨hrefused, -⟩ := handle_withLookups htotal true (fun _ => 2) .standard
    (hostCall [.opportunityProvider]) (.delete "i9") soleOpportunity
  obtain ⟨-, hequal⟩ := handle_withLookups htotal true (fun _ => 2) .standard
    (hostCall [.organisationAdmin]) (.get "i1") soleOpportunity
  exact ⟨hrefused ⟨_, _, .requested rfl rfl rfl⟩, hequal hanswered, by rfl⟩

end Service

end VolunteerAccess
