import VolunteerAccess.Proofs.Compilation.Validity
import VolunteerAccess.Proofs.Policy.RuleSets

/-!
# Which role decides

The rules of all roles that a session holds are joined into one list, and of that
list the last rule decides that speaks of the action on the record. For a session
of several roles this can be said without the list: of the roles whose own rules
say anything, the one of highest priority decides, by its own last rule.

- `Ability.Closes`: the last rule of a list that speaks of an action on a record.
- `Builder.ownRules`: the rules that one role has for a session; `Builder.Silent`:
  none of them speaks of the action on the record.
- `Builder.Decides`: the deciding role of a session, and its deciding rule.
- `Compiler.highest_role_decides`: **an ability answers as the deciding rule does**, with
  no if there is none, and a role that is silent may come and go without effect.
-/

namespace VolunteerAccess

/-! ## The last word in a list of rules -/

namespace Ability

variable {rs : List Rule} {action : Action} {t : Target}

/-- A rule is the last one of a list that speaks of an action on a record. -/
def Closes (rs : List Rule) (action : Action) (t : Target) (r : Rule) : Prop :=
  ∃ before after, rs = before ++ r :: after ∧ speaks action t r = true ∧
    ∀ r' ∈ after, speaks action t r' = false

theorem verdict_eq_some_iff {granted : Bool} : verdict rs action t = some granted ↔
    ∃ r, Closes rs action t r ∧ granted = !r.inverted := by
  have hfind (r : Rule) : rs.reverse.find? (speaks action t) = some r ↔ Closes rs action t r := by
    rw [List.find?_eq_some_iff_append]
    constructor
    · rintro ⟨hr, later, earlier, hsplit, hlater⟩
      have hrs : rs = earlier.reverse ++ r :: later.reverse := by
        rw [← List.reverse_reverse rs, hsplit]
        simp
      refine ⟨_, _, hrs, hr, fun r' hr' => ?_⟩
      simpa using hlater r' (List.mem_reverse.1 hr')
    · rintro ⟨before, after, rfl, hr, hafter⟩
      refine ⟨hr, after.reverse, before.reverse, by simp, fun r' hr' => ?_⟩
      rw [hafter r' (List.mem_reverse.1 hr')]
      rfl
  unfold verdict
  rw [Option.map_eq_some_iff]
  refine exists_congr fun r => and_congr (hfind r) eq_comm

theorem verdict_eq_none_iff :
    verdict rs action t = none ↔ ∀ r ∈ rs, speaks action t r = false := by
  unfold verdict
  rw [Option.map_eq_none_iff, List.find?_eq_none]
  simp

end Ability

/-! ## The rules of one role -/

namespace Builder

variable {b : Builder} {session : Session} {action : Action} {t : Target} {role : Role}

/-- The rules that a role has for a session. A role that the builder has no rules for has
none, whatever its build would make. -/
def ownRules (b : Builder) (session : Session) (role : Role) : List Rule :=
  if b.roles.contains role then (b.build session role).rules else []

/-- No rule of a role speaks of an action on a record. -/
def Silent (b : Builder) (session : Session) (action : Action) (t : Target) (role : Role) : Prop :=
  ∀ r ∈ b.ownRules session role, Ability.speaks action t r = false

/-- What is contributed are the own rules of the roles that are held. -/
theorem contributed_eq_flatMap_ownRules (b : Builder) (session : Session) :
    b.contributed session = session.roles.toList.flatMap (b.ownRules session) := by
  have hroles : (Role.all.filter fun role => session.holds role && b.roles.contains role) =
      session.roles.toList.filter b.roles.contains := by
    unfold RoleSet.toList
    rw [List.filter_filter]
    refine List.filter_congr fun role _ => ?_
    exact Bool.and_comm ..
  unfold contributed
  rw [hroles]
  induction session.roles.toList with
  | nil => rfl
  | cons role roles ih =>
    rw [List.filter_cons, List.flatMap_cons, ← ih, ownRules]
    split
    · rw [List.flatMap_cons]
    · rw [List.nil_append]

theorem silent_iff_verdict_eq_none : b.Silent session action t role ↔
    Ability.verdict (b.ownRules session role) action t = none :=
  Ability.verdict_eq_none_iff.symm

/-- A rule decides for a session: it has the last word among the rules of a role that is held,
and every role of higher priority that is held is silent. -/
structure Decides (b : Builder) (session : Session) (action : Action) (t : Target) (role : Role)
    (r : Rule) : Prop where
  held : session.holds role = true
  last : Ability.Closes (b.ownRules session role) action t r
  highest : ∀ above, role.priority < above.priority → session.holds above = true →
    b.Silent session action t above

/-- The rules of the roles that are held say what the deciding rule says. -/
theorem verdict_eq_some_iff_decides {granted : Bool} :
    Ability.verdict (session.roles.toList.flatMap (b.ownRules session)) action t = some granted ↔
      ∃ role r, b.Decides session action t role r ∧ granted = !r.inverted := by
  have hroles : session.roles.toList.reverse.Pairwise fun r r' => r'.priority < r.priority :=
    List.pairwise_reverse.2 (Role.pairwise_priority.filter _)
  have hmem (role : Role) : role ∈ session.roles.toList.reverse ↔ session.holds role = true := by
    rw [List.mem_reverse, RoleSet.mem_toList]
    rfl
  rw [Ability.verdict_flatMap, List.findSome?_eq_some_iff]
  constructor
  · rintro ⟨later, role, earlier, hsplit, hverdict, hlater⟩
    obtain ⟨r, hr, hgranted⟩ := Ability.verdict_eq_some_iff.1 hverdict
    refine ⟨role, r, ⟨?_, hr, fun above hpriority habove => ?_⟩, hgranted⟩
    · rw [← hmem, hsplit]
      exact List.mem_append_right _ List.mem_cons_self
    · -- A role of higher priority can only stand among the later ones.
      rw [hsplit, List.pairwise_append, List.pairwise_cons] at hroles
      rw [← hmem, hsplit] at habove
      rw [silent_iff_verdict_eq_none]
      rcases List.mem_append.1 habove with hin | hin
      · exact hlater above hin
      · rcases List.mem_cons.1 hin with rfl | hin
        · omega
        · have := hroles.2.1.1 above hin
          omega
  · rintro ⟨role, r, hdecides, hgranted⟩
    obtain ⟨later, earlier, hsplit⟩ := List.append_of_mem ((hmem role).2 hdecides.held)
    refine ⟨later, role, earlier, hsplit, ?_, fun above habove => ?_⟩
    · exact Ability.verdict_eq_some_iff.2 ⟨r, hdecides.last, hgranted⟩
    · rw [hsplit, List.pairwise_append] at hroles
      have hpriority := hroles.2.2 above habove role List.mem_cons_self
      have hheld : session.holds above = true := by
        rw [← hmem, hsplit]
        exact List.mem_append_left _ habove
      exact silent_iff_verdict_eq_none.1 (hdecides.highest above hpriority hheld)

/-- They say nothing exactly when each of the roles is silent. -/
theorem verdict_eq_none_iff_silent :
    Ability.verdict (session.roles.toList.flatMap (b.ownRules session)) action t = none ↔
      ∀ role, session.holds role = true → b.Silent session action t role := by
  rw [Ability.verdict_flatMap, List.findSome?_eq_none_iff]
  simp only [List.mem_reverse, RoleSet.mem_toList, silent_iff_verdict_eq_none]
  rfl

end Builder

/-! ## Abilities -/

/-- Two sessions hold the same roles, with one role left open. -/
def Session.SameBut (role : Role) (s s' : Session) : Prop :=
  ∀ r, r ≠ role → s.holds r = s'.holds r

namespace Compiler

variable {c : Compiler} {b : Builder} {session session' : Session} {subject : Resource}
variable {a a' : Ability} {action : Action} {t : Target}

/-- An ability answers with the verdict of the roles that are held. -/
theorem can_eq_verdict_ownRules (hb : c.builder? subject = some b)
    (ha : c.compile session subject = .ok a) : a.can action t =
      (Ability.verdict (session.roles.toList.flatMap (b.ownRules session)) action t).getD false := by
  obtain ⟨-, -, rfl⟩ := (compile_eq_ok_iff_contributed hb).1 ha
  rw [Ability.can_eq_verdict, b.contributed_eq_flatMap_ownRules]

/-- A silent role may come and go without effect on the verdict. -/
theorem verdict_congr_silent {role : Role} (hroles : Session.SameBut role session session')
    (hown : ∀ r, r ≠ role → session.holds r = true →
      b.ownRules session r = b.ownRules session' r)
    (hsilent : session.holds role = true → b.Silent session action t role)
    (hsilent' : session'.holds role = true → b.Silent session' action t role) :
    Ability.verdict (session.roles.toList.flatMap (b.ownRules session)) action t =
      Ability.verdict (session'.roles.toList.flatMap (b.ownRules session')) action t := by
  rw [Ability.verdict_flatMap_toList, Ability.verdict_flatMap_toList]
  congr 1
  funext r
  show (if session.holds r = true then _ else _) = if session'.holds r = true then _ else _
  by_cases hr : r = role
  · subst hr
    have hnone (s : Session) (h : s.holds r = true → b.Silent s action t r) :
        (if s.holds r = true then Ability.verdict (b.ownRules s r) action t else none) = none := by
      split
      · next hheld => exact Builder.silent_iff_verdict_eq_none.1 (h hheld)
      · rfl
    rw [hnone session hsilent, hnone session' hsilent']
  · rw [← hroles r hr]
    split
    · next hheld => rw [hown r hr hheld]
    · rfl

/-- **The role of highest priority that says anything decides**, by its own last rule that speaks
of the action on the record. There is such a role unless all roles that are held are silent, and
then the answer is no. A role that is silent may be taken on or laid down without changing the
answer, if the rules of the other roles stay the same. -/
theorem highest_role_decides (hb : c.builder? subject = some b)
    (ha : c.compile session subject = .ok a) (action : Action) (t : Target) :
    (∀ role r, b.Decides session action t role r → a.can action t = !r.inverted) ∧
    ((∃ role, session.holds role = true ∧ ¬ b.Silent session action t role) →
      ∃ role r, b.Decides session action t role r) ∧
    ((∀ role, session.holds role = true → b.Silent session action t role) →
      a.can action t = false) ∧
    ∀ role session' a', Session.SameBut role session session' →
      (∀ r, r ≠ role → session.holds r = true → b.ownRules session r = b.ownRules session' r) →
      (session.holds role = true → b.Silent session action t role) →
      (session'.holds role = true → b.Silent session' action t role) →
      c.compile session' subject = .ok a' → a'.can action t = a.can action t := by
  have hcan : a.can action t =
      (Ability.verdict (session.roles.toList.flatMap (b.ownRules session)) action t).getD false :=
    can_eq_verdict_ownRules hb ha
  refine ⟨fun role r hdecides => ?_, fun hspoken => ?_, fun hsilent => ?_,
    fun role session' a' hroles hown hsilent hsilent' ha' => ?_⟩
  · rw [hcan, Builder.verdict_eq_some_iff_decides.2 ⟨role, r, hdecides, rfl⟩]
    rfl
  · cases hverdict :
        Ability.verdict (session.roles.toList.flatMap (b.ownRules session)) action t with
    | none =>
      obtain ⟨role, hheld, hspeaks⟩ := hspoken
      exact absurd (Builder.verdict_eq_none_iff_silent.1 hverdict role hheld) hspeaks
    | some granted =>
      obtain ⟨role, r, hdecides, -⟩ := Builder.verdict_eq_some_iff_decides.1 hverdict
      exact ⟨role, r, hdecides⟩
  · rw [hcan, Builder.verdict_eq_none_iff_silent.2 hsilent]
    rfl
  · rw [hcan, can_eq_verdict_ownRules hb ha', verdict_congr_silent hroles hown hsilent hsilent']

/-- A denial of reading for the interests of one opportunity. -/
def warding : Rule :=
  (Rule.deny .interest .read).onlyIf (Condition.empty.isIn "opportunity" [.text "o1"])

/-- Rules for three roles. There would be some for organisation administrators as well, but they
are not asked for. -/
def tiered : Builder where
  subject := .interest
  roles := [.administrator, .volunteer, .opportunityProvider]
  build := fun _ role => {
    yields := 0
    outcome := .ok {
      subject := .interest
      rules :=
        match role with
        | .anonymous => []
        | .volunteer => [.grant .interest .read, .grant .interest .delete]
        | .opportunityProvider => [.grant .interest .read, warding, .deny .interest .delete]
        | .organisationAdmin => [.grant .interest .read]
        | .administrator => [.grant .interest .delete] } }

/-- Somebody who holds three roles. -/
def owner : Session := .ofPerson "p2" [.organisationAdmin, .volunteer, .opportunityProvider] []

/-- The same person as an administrator. -/
def promoted : Session := { owner with roles := owner.roles.insert .administrator }

/-- The provider's denial decides, although a role of higher priority is held; the rules of an
administrator do not speak of reading, so with that role the answer is the same. -/
theorem highest_role_decides_tiered :
    tiered.Decides owner .read Ability.withdrawn.target .opportunityProvider warding ∧
    ∃ a a', ((empty true).register tiered).compile owner .interest = .ok a ∧
      ((empty true).register tiered).compile promoted .interest = .ok a' ∧
      a.can .read Ability.withdrawn.target = false ∧
      a'.can .read Ability.withdrawn.target = a.can .read Ability.withdrawn.target := by
  have hdecides :
      tiered.Decides owner .read Ability.withdrawn.target .opportunityProvider warding := by
    refine ⟨rfl, ⟨[.grant .interest .read], [.deny .interest .delete], rfl, rfl, by decide⟩, ?_⟩
    intro above hpriority hheld
    cases above with
    | anonymous | volunteer | opportunityProvider => exact absurd hpriority (by decide)
    | organisationAdmin => exact fun r hr => absurd hr List.not_mem_nil
    | administrator => cases hheld
  obtain ⟨a, ha⟩ : ∃ a, ((empty true).register tiered).compile owner .interest = .ok a := ⟨_, rfl⟩
  obtain ⟨a', ha'⟩ : ∃ a', ((empty true).register tiered).compile promoted .interest = .ok a' :=
    ⟨_, rfl⟩
  obtain ⟨hdecided, -, -, hsilent⟩ :=
    @highest_role_decides _ tiered _ _ _ rfl ha .read Ability.withdrawn.target
  refine ⟨hdecides, a, a', ha, ha', hdecided _ _ hdecides, ?_⟩
  refine hsilent .administrator promoted a' (fun r hr => ?_) (fun _ _ _ => rfl)
    (fun hheld => by cases hheld) (fun _ r hr => ?_) ha'
  · cases r with
    | administrator => exact absurd rfl hr
    | _ => rfl
  · obtain rfl : r = .grant .interest .delete := List.mem_singleton.1 hr
    rfl

end Compiler

end VolunteerAccess
