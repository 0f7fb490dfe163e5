import VolunteerAccess.Proofs.Filter.Queries
import VolunteerAccess.Proofs.Policy.RuleSets
import VolunteerAccess.Service

/-!
# The queries of the standard policy

A store that is searched with query documents selects what the abilities allow
only if the documents say what the filters mean. The conditions of the standard
policy, and those by which the service narrows a search, are of a kind for which
they do.

- `Policy.Restricts`: the conditions of the standard policy;
  `Policy.restricts_of_compile`: no ability that it gives tests anything else.
- `Service.Narrows`: the filters by which the service narrows a search.
- `Service.queries_faithful`: **query documents select what filters select**, for all
  plain filters and for all that the service searches with.
-/

namespace VolunteerAccess

/-! ## The policy -/

namespace Policy

/-- The conditions of the standard policy. -/
inductive Restricts : Condition → Prop where
  | own (person : String) : Restricts (own person)
  | ownInitial (person : String) :
      Restricts ((own person).eq "status" (.text Status.initial.name))
  | ofOpportunities (ids : List String) : Restricts (ofOpportunities ids)

theorem Restricts.plain {c : Condition} (h : Restricts c) : c.plain = true := by
  cases h with
  | own person => exact Condition.plain_eq_text rfl (by decide) person
  | ownInitial person =>
    exact Condition.plain_eq_text (Condition.plain_eq_text rfl (by decide) person) (by decide) _
  | ofOpportunities ids => exact Condition.plain_insert rfl (by decide) rfl

theorem tests_ownerRules (subject : Resource) (ids : List String) :
    (ownerRules subject ids).Tests Restricts := by
  simp [ownerRules, Restricts.ofOpportunities]

/-- The rules of an owner test opportunities, whichever are found. -/
theorem tests_of_ownedIds {lookup : Ownership} {scope : Scope} {session : Session} {role : Role}
    {subject : Resource} {set : RuleSet}
    (h : (ownedIds lookup scope session role).map
      (·.elim (.empty subject) (ownerRules subject)) = .ok set) : set.Tests Restricts := by
  cases hids : ownedIds lookup scope session role with
  | error e =>
    rw [hids] at h
    cases h
  | ok ids =>
    rw [hids] at h
    cases h
    cases ids with
    | none => exact RuleSet.tests_empty
    | some ids => exact tests_ownerRules subject ids

theorem tests_liveRules {lookup : Ownership} {session : Session} {role : Role} {set : RuleSet}
    (h : liveRules lookup session role = .ok set) : set.Tests Restricts := by
  cases role with
  | opportunityProvider | organisationAdmin => exact tests_of_ownedIds h
  | anonymous | administrator =>
    cases h
    simp [RuleSet.denyAll, RuleSet.grantAll, Action.all]
  | volunteer =>
    cases h
    cases session.identity with
    | none => exact RuleSet.tests_empty
    | some p => simp [volunteerRules, Restricts.own, Restricts.ownInitial]

theorem tests_archiveRules {lookup : Ownership} {session : Session} {role : Role} {set : RuleSet}
    (h : archiveRules lookup session role = .ok set) : set.Tests Restricts := by
  cases role with
  | opportunityProvider | organisationAdmin => exact tests_of_ownedIds h
  | anonymous | administrator =>
    cases h
    simp [RuleSet.denyAll, administratorArchiveRules, Action.all]
  | volunteer =>
    cases h
    cases session.identity with
    | none => exact RuleSet.tests_empty
    | some p => simp [volunteerArchiveRules, Restricts.own]

/-- The rules of an ability of the standard policy have none but its conditions, whatever the
look-ups answer. -/
theorem restricts_of_compile {concurrent : Bool} {lookup : Ownership} {session : Session}
    {subject : Resource} {a : Ability}
    (h : (standard concurrent lookup).compile session subject = .ok a) {r : Rule}
    (hr : r ∈ a.rules) {c : Condition} (hc : r.conditions = some c) : Restricts c := by
  obtain ⟨b, role, set, hb, houtcome, hmem⟩ := Compiler.exists_build_of_mem_rules h hr
  cases subject with
  | interest =>
    cases hb
    exact tests_liveRules houtcome r hmem c hc
  | interestArchive =>
    cases hb
    exact tests_archiveRules houtcome r hmem c hc

theorem plain_filterFor {concurrent : Bool} {lookup : Ownership} {session : Session}
    {subject : Resource} {a : Ability}
    (h : (standard concurrent lookup).compile session subject = .ok a) (action : Action) :
    (a.filterFor action).Plain := by
  intro c hc
  obtain ⟨r, hr, hcond⟩ := Ability.mem_conditions_filterFor hc
  exact (restricts_of_compile h hr hcond).plain

end Policy

/-! ## The service -/

theorem ListQuery.plain_condition (q : ListQuery) : q.condition.plain = true := by
  have hopportunity : (q.opportunity.elim Condition.empty fun o =>
      Condition.empty.eq "opportunity" (.text o)).plain = true := by
    cases q.opportunity with
    | none => rfl
    | some o => exact Condition.plain_eq_text rfl (by decide) o
  unfold ListQuery.condition
  cases q.person with
  | none => exact hopportunity
  | some p => exact Condition.plain_eq_text hopportunity (by decide) p

namespace Service

/-- The filters by which the service narrows a search. -/
inductive Narrows : Filter → Prop where
  | unrestricted : Narrows .everything
  | listed (q : ListQuery) : Narrows q.toFilter
  | named (id : String) : Narrows (.byId (.text id))

theorem Narrows.plain {f : Filter} (h : Narrows f) : f.Plain := by
  cases h with
  | unrestricted => exact Filter.plain_everything
  | listed q => exact Filter.plain_ofCondition q.plain_condition
  | named id =>
    intro c hc
    rw [List.mem_singleton.1 hc]
    exact Condition.plain_eq_text rfl (by decide) id

/-- **Query documents select what filters select**: every filter with plain conditions, however
deep, and every filter of an ability of the standard policy, however the service narrows it. -/
theorem queries_faithful :
    (∀ (f : Filter) (t : Target), f.Plain → Query.selects t f.toQuery = f.holds t) ∧
      ∀ (concurrent : Bool) (lookup : Ownership) (session : Session) (subject : Resource)
        (a : Ability), (Policy.standard concurrent lookup).compile session subject = .ok a →
        ∀ (action : Action) (narrowing : Filter), Narrows narrowing → ∀ t : Target,
          Query.selects t ((a.filterFor action).and narrowing).toQuery =
            ((a.filterFor action).and narrowing).holds t := by
  refine ⟨fun f t hf => Filter.selects_toQuery t f hf, ?_⟩
  intro concurrent lookup session subject a ha action narrowing hnarrowing t
  exact Filter.selects_toQuery t _ ((Policy.plain_filterFor ha action).and hnarrowing.plain)

/-- A record of a person, in which no opportunity is set. -/
def unplaced : Target := ((Record.empty .interest).set "person" (.text "p2")).target

/-- A filter in which a constant, an empty disjunction and an unset field meet. -/
def tangled : Filter :=
  .not (.all [.where (Policy.own "p2"), .not (.where (Policy.ofOpportunities ["o1"])),
    .any [.nothing, .any []]])

/-- What a volunteer may list, narrowed to an opportunity. -/
def volunteered : Filter :=
  let a : Ability := { subject := .interest, rules := (Policy.volunteerRules "p2").rules }
  (a.filterFor .list).and (ListQuery.forOpportunity "o1").toFilter

theorem queries_faithful_unplaced :
    (Query.selects unplaced tangled.toQuery = tangled.holds unplaced ∧
        tangled.holds unplaced = true) ∧
      Query.selects unplaced volunteered.toQuery = volunteered.holds unplaced ∧
        volunteered.holds unplaced = false := by
  have hplain : tangled.Plain := by
    intro c hc
    obtain rfl | rfl : c = Policy.own "p2" ∨ c = Policy.ofOpportunities ["o1"] := by
      simpa [tangled, Filter.conditions, Filter.conditionsOf] using hc
    · exact (Policy.Restricts.own "p2").plain
    · exact (Policy.Restricts.ofOpportunities ["o1"]).plain
  exact ⟨⟨queries_faithful.1 tangled unplaced hplain, rfl⟩,
    queries_faithful.2 false (Store.empty.ownership .none) (.ofPerson "p2" [.volunteer] [])
      .interest _ rfl .list _ (.listed (.forOpportunity "o1")) unplaced, rfl⟩

end Service

end VolunteerAccess
