import VolunteerAccess.Proofs.Compilation.Failures
import VolunteerAccess.Proofs.Dict.Insertion
import VolunteerAccess.Proofs.Text.ByteOrder

/-!
# What an ability is compiled from

The builds of a session are picked, run, checked and joined in separate passes.
Together they do something that is said without them: every role that counts
contributes its rules, in the order of the roles, and all of these must be
well-formed.

- `Rule.Faulty`, `Rule.check_eq_error_iff`: which failure a rule is reported with. The
  tested fields are kept in order, so the one that is found is the least.
- `Builder.Succeeds`, `Builder.contributed`: whether the roles that count have all
  their rules, and the list of these.
- `Compiler.join_eq_error_iff`: the checks of rule after rule in set after set report the
  first rule that is not well-formed.
- `Compiler.compile_contributed`: **an ability has just the contributed rules**. It exists
  if and only if all builds succeed and all these rules are well-formed; with a rule that
  is not, the first of them is reported.
-/

namespace VolunteerAccess

/-! ## Faulty rules -/

/-- Of the tested fields with some property the least is found. -/
theorem Condition.find?_fields_eq_some_iff {c : Condition} {p : String → Bool} {field : String} :
    c.fields.find? p = some field ↔
      field ∈ c.fields ∧ p field = true ∧
        ∀ f ∈ c.fields, p f = true → Text.bytes field ≤ Text.bytes f := by
  have hkeys : c.fields.Pairwise (· < ·) := c.tests.pairwise_keys
  rw [List.find?_eq_some_iff_append]
  constructor
  · rintro ⟨hp, before, after, hsplit, hbefore⟩
    rw [hsplit] at hkeys ⊢
    refine ⟨List.mem_append_right _ List.mem_cons_self, hp, fun f hf hpf => ?_⟩
    rw [Text.bytes_le_iff]
    rcases List.mem_append.1 hf with hf | hf
    · have hnot := hbefore f hf
      rw [hpf] at hnot
      cases hnot
    · rcases List.mem_cons.1 hf with rfl | hf
      · exact String.le_refl f
      · have hafter := (List.pairwise_append.1 hkeys).2.1
        have hlt : field < f := (List.pairwise_cons.1 hafter).1 f hf
        exact String.not_lt.1 (String.lt_asymm hlt)
  · rintro ⟨hmem, hp, hleast⟩
    obtain ⟨before, after, hsplit⟩ := List.append_of_mem hmem
    refine ⟨hp, before, after, hsplit, fun f hf => ?_⟩
    cases hpf : p f with
    | false => rfl
    | true =>
      -- A field that stands before it would be a smaller one.
      have hle := hleast f (hsplit ▸ List.mem_append_left _ hf) hpf
      rw [hsplit] at hkeys
      have hlt : f < field := (List.pairwise_append.1 hkeys).2.2 f hf field List.mem_cons_self
      exact absurd hlt (String.not_lt.2 (Text.bytes_le_iff.1 hle))

/-- How a rule that is not well-formed for a resource is reported. In one for another resource
the fields are not looked at. -/
inductive Rule.Faulty (subject : Resource) (r : Rule) : BuildFailure → Prop where
  | misplaced (hsubject : r.subject ≠ subject) :
      Faulty subject r (.subjectMismatch subject r.subject)
  | unknown {c : Condition} {field : String} (hsubject : r.subject = subject)
      (hc : r.conditions = some c) (hmem : field ∈ c.fields) (hfield : field ∉ subject.fields)
      (hleast : ∀ f ∈ c.fields, f ∉ subject.fields → Text.bytes field ≤ Text.bytes f) :
      Faulty subject r (.unknownField subject field)

theorem Rule.check_eq_error_iff {subject : Resource} {r : Rule} {e : BuildFailure} :
    Rule.check subject r = .error e ↔ r.Faulty subject e := by
  have hunknown : ∀ f, (!subject.hasField f) = true ↔ f ∉ subject.fields := by
    intro f
    rw [Bool.not_eq_true', ← Bool.not_eq_true, Resource.hasField, List.contains_iff_mem]
  unfold Rule.check
  by_cases hsub : r.subject = subject
  · rw [if_neg (by simp [hsub])]
    constructor
    · intro h
      split at h
      · next field hfound =>
        cases h
        cases hc : r.conditions with
        | none =>
          rw [hc] at hfound
          cases hfound
        | some c =>
          rw [hc] at hfound
          obtain ⟨hmem, hfield, hleast⟩ := Condition.find?_fields_eq_some_iff.1 hfound
          exact .unknown hsub hc hmem ((hunknown field).1 hfield) fun f hf hnot =>
            hleast f hf ((hunknown f).2 hnot)
      · cases h
    · intro h
      cases h with
      | misplaced hne => exact absurd hsub hne
      | unknown _ hc hmem hfield hleast =>
        have hfound := Condition.find?_fields_eq_some_iff.2
          ⟨hmem, (hunknown _).2 hfield, fun f hf hnot => hleast f hf ((hunknown f).1 hnot)⟩
        simp only [hc, Option.elim_some, hfound]
  · rw [if_pos (by simp [hsub]), Except.error.injEq]
    constructor
    · rintro rfl
      exact .misplaced hsub
    · intro h
      cases h with
      | misplaced _ => rfl
      | unknown heq => exact absurd heq hsub

/-! ## Contributions -/

/-- The rules of a build; a build that fails has none. -/
def Build.rules (b : Build) : List Rule :=
  match b.outcome with
  | .ok set => set.rules
  | .error _ => []

namespace Builder

variable {b : Builder} {session : Session}

/-- Every build of the session succeeds. -/
def Succeeds (b : Builder) (session : Session) : Prop :=
  ∀ role, session.holds role = true → role ∈ b.roles →
    ∃ set, (b.build session role).outcome = .ok set

/-- The rules of all builds of the session, in the order of the roles. -/
def contributed (b : Builder) (session : Session) : List Rule :=
  (Role.all.filter fun role => session.holds role && b.roles.contains role).flatMap fun role =>
    (b.build session role).rules

theorem contributed_eq_flatMap_builds (b : Builder) (session : Session) :
    b.contributed session = (Compiler.builds b session).flatMap fun p => p.2.rules := by
  unfold contributed Compiler.builds RoleSet.toList
  rw [List.filter_filter, List.flatMap_map]
  simp only [Bool.and_comm]
  rfl

end Builder

theorem Builds.flatMap_rules {builds : List (Role × Build)} {sets : List RuleSet}
    (h : Builds builds sets) :
    sets.flatMap RuleSet.rules = builds.flatMap fun p => p.2.rules := by
  induction h with
  | nil => rfl
  | cons hbuild _ ih =>
    rw [List.flatMap_cons, List.flatMap_cons, ih, Build.rules, hbuild]

namespace Compiler

variable {c : Compiler} {b : Builder} {session : Session} {subject : Resource} {a : Ability}

theorem flatMap_rules_of_builds {sets : List RuleSet} (h : Builds (builds b session) sets) :
    sets.flatMap RuleSet.rules = b.contributed session := by
  rw [h.flatMap_rules, b.contributed_eq_flatMap_builds]

/-- All builds of a session succeed if and only if there are their rule sets. -/
theorem exists_builds_iff (hb : c.builder? subject = some b) :
    (∃ sets, Builds (builds b session) sets) ↔ b.Succeeds session := by
  constructor
  · rintro ⟨sets, hbuilds⟩ role hheld hrole
    obtain ⟨set, -, hset⟩ :=
      exists_mem_of_forall₂_left hbuilds (mem_builds_iff.2 ⟨hheld, hrole, rfl⟩)
    exact ⟨set, hset⟩
  · intro hsucceeds
    refine exists_builds (fun role e hfails => ?_) hb
    obtain ⟨b', hb', hheld, hrole, he⟩ := hfails
    rw [hb] at hb'
    cases hb'
    obtain ⟨set, hset⟩ := hsucceeds role hheld hrole
    rw [hset] at he
    cases he

/-- The checks of one set after another are the checks of all their rules in order. -/
theorem join_eq_error_iff {sets : List RuleSet} {e : BuildFailure} :
    join subject sets = .error e ↔ ∃ earlier r later,
      sets.flatMap RuleSet.rules = earlier ++ r :: later ∧
        (∀ r' ∈ earlier, r'.WellFormed subject) ∧ r.Faulty subject e := by
  have hjoin : join subject sets = .error e ↔
      (sets.flatMap RuleSet.rules).forM (Rule.check subject) = .error e := by
    rw [← forM_flatMap]
    exact map_eq_error_iff (x := sets.forM (RuleSet.check subject))
  rw [hjoin, forM_eq_error_iff]
  simp only [Rule.check_eq_error_iff, ← Rule.check_eq_ok_iff]

/-- With all builds done, the contributed rules are checked in their order. -/
theorem compile_of_succeeds (hb : c.builder? subject = some b) (h : b.Succeeds session) :
    ∃ sets, c.compile session subject = join subject sets ∧
      sets.flatMap RuleSet.rules = b.contributed session := by
  obtain ⟨sets, hbuilds⟩ := (exists_builds_iff hb).2 h
  refine ⟨sets, ?_, flatMap_rules_of_builds hbuilds⟩
  rw [compile_of_builder hb, run_eq_ok_iff.2 hbuilds]
  rfl

/-- An ability is what is contributed, if there is one. -/
theorem compile_eq_ok_iff_contributed (hb : c.builder? subject = some b) :
    c.compile session subject = .ok a ↔
      b.Succeeds session ∧ (∀ r ∈ b.contributed session, r.WellFormed subject) ∧
        a = { subject, rules := b.contributed session } := by
  have hwell : ∀ sets : List RuleSet, (∀ s ∈ sets, s.WellFormed subject) ↔
      ∀ r ∈ sets.flatMap RuleSet.rules, r.WellFormed subject := by
    intro sets
    rw [List.forall_mem_flatMap]
    rfl
  constructor
  · intro h
    obtain ⟨b', hb', sets, hbuilds, hall, rfl⟩ := compile_eq_ok_iff.1 h
    rw [hb] at hb'
    cases hb'
    rw [hwell, flatMap_rules_of_builds hbuilds] at hall
    rw [flatMap_rules_of_builds hbuilds]
    exact ⟨(exists_builds_iff hb).1 ⟨sets, hbuilds⟩, hall, rfl⟩
  · rintro ⟨hsucceeds, hall, rfl⟩
    obtain ⟨sets, hcompile, hrules⟩ := compile_of_succeeds hb hsucceeds
    rw [← hrules] at hall ⊢
    rw [hcompile, join_eq_ok_iff, hwell]
    exact ⟨hall, rfl⟩

/-- An ability grants nothing on records of other resources. -/
theorem can_of_compile_of_ne (h : c.compile session subject = .ok a) (action : Action) {t : Target}
    (ht : t.resource ≠ subject) : a.can action t = false := by
  have hnone : a.rules.reverse.find? (fun r => r.appliesTo t.resource action && r.holds t) =
      none := by
    rw [List.find?_eq_none]
    intro r hr hspeaks
    have hsubject := (wellFormed_of_compile h r (List.mem_reverse.1 hr)).subject_eq
    simp only [Rule.appliesTo, Bool.and_eq_true, beq_iff_eq] at hspeaks
    exact ht (hspeaks.1.1.symm.trans hsubject)
  unfold Ability.can
  rw [hnone]

/-- **An ability has just the rules that the roles of a session contribute**, in the order of the
roles and of each rule set. It exists if and only if all builds succeed and all these rules are
well-formed. If the builds succeed and some rule is not well-formed, the first such rule is
reported. -/
theorem compile_contributed (hb : c.builder? subject = some b) :
    ((∃ a, c.compile session subject = .ok a) ↔
      b.Succeeds session ∧ ∀ r ∈ b.contributed session, r.WellFormed subject) ∧
    (∀ a, c.compile session subject = .ok a →
      a = { subject, rules := b.contributed session } ∧
      (∀ r ∈ a.rules, ∀ cond ∈ r.conditions, ∀ field ∈ cond.fields, field ∈ subject.fields) ∧
      ∀ action t, t.resource ≠ subject → a.can action t = false) ∧
    (b.Succeeds session → (∃ r ∈ b.contributed session, ¬ r.WellFormed subject) →
      ∃ earlier r later e, b.contributed session = earlier ++ r :: later ∧
        (∀ r' ∈ earlier, r'.WellFormed subject) ∧ r.Faulty subject e ∧
        c.compile session subject = .error e) := by
  refine ⟨?_, fun a ha => ?_, fun hsucceeds hfaulty => ?_⟩
  · constructor
    · rintro ⟨a, ha⟩
      obtain ⟨hsucceeds, hall, -⟩ := (compile_eq_ok_iff_contributed hb).1 ha
      exact ⟨hsucceeds, hall⟩
    · rintro ⟨hsucceeds, hall⟩
      exact ⟨_, (compile_eq_ok_iff_contributed hb).2 ⟨hsucceeds, hall, rfl⟩⟩
  · obtain ⟨-, hall, rfl⟩ := (compile_eq_ok_iff_contributed hb).1 ha
    refine ⟨rfl, fun r hr cond hcond field hfield => ?_, fun action t ht => ?_⟩
    · exact List.contains_iff_mem.1 ((hall r hr).hasField cond hcond field hfield)
    · exact can_of_compile_of_ne ha action ht
  · obtain ⟨sets, hcompile, hrules⟩ := compile_of_succeeds hb hsucceeds
    cases hresult : c.compile session subject with
    | ok a =>
      -- Then all rules would be well-formed.
      obtain ⟨r, hr, hnot⟩ := hfaulty
      obtain ⟨-, hall, -⟩ := (compile_eq_ok_iff_contributed hb).1 hresult
      exact absurd (hall r hr) hnot
    | error e =>
      rw [hcompile, join_eq_error_iff, hrules] at hresult
      obtain ⟨earlier, r, later, hsplit, hearlier, hr⟩ := hresult
      exact ⟨earlier, r, later, e, hsplit, hearlier, hr, rfl⟩

/-- Rules for three roles: those for providers test fields that interests do not have, and those
for administrators are for archived interests. -/
def misspelt : Builder where
  subject := .interest
  roles := [.administrator, .volunteer, .opportunityProvider]
  build := fun _ role => {
    yields := 0
    outcome := .ok {
      subject := .interest
      rules :=
        match role with
        | .volunteer => [.grant .interest .create]
        | .opportunityProvider =>
          [.grant .interest .list,
            (Rule.grant .interest .read).onlyIf
              ((Condition.empty.eq "zeal" .null).eq "area" .null)]
        | .administrator => [.deny .interestArchive .read]
        | _ => [] } }

/-- With the rules for volunteers there is an ability; with those of all three roles the provider's
rule is reported, and of its fields the lesser one. -/
theorem compile_contributed_misspelt :
    ((∃ a, ((empty true).register misspelt).compile (.ofPerson "p1" [.volunteer] []) .interest =
        .ok a) ∧
      ∃ earlier r later e,
        misspelt.contributed (.ofPerson "p1" misspelt.roles []) = earlier ++ r :: later ∧
        (∀ r' ∈ earlier, r'.WellFormed .interest) ∧ r.Faulty .interest e ∧
        ((empty true).register misspelt).compile (.ofPerson "p1" misspelt.roles []) .interest =
          .error e) ∧
      ((empty true).register misspelt).compile (.ofPerson "p1" misspelt.roles []) .interest =
        .error (.unknownField .interest "area") := by
  have hsucceeds : ∀ session, misspelt.Succeeds session := fun _ _ _ _ => ⟨_, rfl⟩
  have hvolunteer : ∀ r ∈ misspelt.contributed (.ofPerson "p1" [.volunteer] []),
      r.WellFormed .interest := by
    intro r hr
    obtain rfl : r = .grant .interest .create := List.mem_singleton.1 hr
    exact Rule.check_eq_ok_iff.1 rfl
  have hmisplaced : ∃ r ∈ misspelt.contributed (.ofPerson "p1" misspelt.roles []),
      ¬ r.WellFormed .interest :=
    ⟨.deny .interestArchive .read, .tail _ (.tail _ (.tail _ (.head _))),
      fun h => by cases h.subject_eq⟩
  obtain ⟨hok, -, -⟩ := @compile_contributed ((empty true).register misspelt) misspelt
    (.ofPerson "p1" [.volunteer] []) .interest rfl
  obtain ⟨-, -, herror⟩ := @compile_contributed ((empty true).register misspelt) misspelt
    (.ofPerson "p1" misspelt.roles []) .interest rfl
  exact ⟨⟨hok.2 ⟨hsucceeds _, hvolunteer⟩, herror (hsucceeds _) hmisplaced⟩, by rfl⟩

end Compiler

end VolunteerAccess
