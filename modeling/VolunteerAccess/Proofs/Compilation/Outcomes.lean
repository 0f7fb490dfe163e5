import VolunteerAccess.Compilation
import VolunteerAccess.Proofs.Fallible

/-!
# When an ability is compiled

Builds may run one after another or in turns, and the checks come after all of
them. Success does not depend on any of this:

- `Run.oneByOne_eq_ok_iff`, `Run.interleaved_eq_ok_iff`: both ways of running
  builds give rule sets exactly when every build does, and then the same ones,
  however often a build gives up its turn.
- `Rule.WellFormed`, `Rule.check_eq_ok_iff`: what the check asks of a rule.
- `Compiler.compile_eq_ok_iff`: an ability is compiled exactly when all builds
  succeed and all their rules are well-formed; its rules are theirs in order.
- `Compiler.exists_build_of_mem_rules`: where a rule of an ability comes from.
-/

namespace VolunteerAccess

/-! ## Running builds -/

/-- The rule sets are what the builds make, one for each. -/
def Builds (builds : List (Role × Build)) (sets : List RuleSet) : Prop :=
  List.Forall₂ (fun b set => b.2.outcome = .ok set) builds sets

namespace Run

theorem oneByOne_eq_ok_iff {builds : List (Role × Build)} {sets : List RuleSet} :
    (oneByOne builds).outcome = .ok sets ↔ Builds builds sets := by
  unfold Builds
  induction builds generalizing sets with
  | nil =>
    rw [List.forall₂_nil_left_iff]
    show Except.ok [] = Except.ok sets ↔ sets = []
    rw [Except.ok.injEq, eq_comm]
  | cons p builds ih =>
    obtain ⟨role, b⟩ := p
    rw [List.forall₂_cons_left_iff]
    unfold oneByOne
    cases hb : b.outcome with
    | error e => simp
    | ok set =>
      show (oneByOne builds).outcome.map (set :: ·) = Except.ok sets ↔ _
      constructor
      · intro h
        cases hrest : (oneByOne builds).outcome with
        | error e =>
          rw [hrest] at h
          cases h
        | ok rest =>
          rw [hrest] at h
          cases h
          exact ⟨set, rest, rfl, ih.1 hrest, rfl⟩
      · rintro ⟨_, rest, hset, hrest, rfl⟩
        cases hset
        rw [ih.2 hrest]
        rfl

namespace Slot

/-- The rule set that a slot has or will have. -/
def Produces : Slot → RuleSet → Prop
  | .done s, set => s = set
  | .waiting b, set => b.outcome = .ok set

/-- A turn does not change what a slot produces, and fails only if it produces nothing. -/
theorem produces_iff_turn (slot : Slot) (set : RuleSet) :
    slot.Produces set ↔ ∃ next, slot.turn = .ok next ∧ next.Produces set := by
  match slot with
  | .done s => simp [turn, Produces]
  | .waiting { yields := n + 1, outcome } => simp [turn, Produces]
  | .waiting { yields := 0, outcome } =>
    cases outcome with
    | error e => simp [turn, Produces, Except.map]
    | ok s => simp [turn, Produces, Except.map]

/-- Every turn brings a slot closer to its end. -/
theorem turnsLeft_turn {slot next : Slot} (h : slot.turn = .ok next) :
    next.turnsLeft ≤ slot.turnsLeft - 1 := by
  match slot with
  | .done s =>
    cases h
    exact Nat.zero_le _
  | .waiting { yields := n + 1, outcome } =>
    cases h
    exact Nat.le_refl _
  | .waiting { yields := 0, outcome } =>
    cases outcome with
    | error e => cases h
    | ok s =>
      cases h
      exact Nat.zero_le _

/-- A round brings all slots closer to their end. -/
theorem turnsLeft_of_turns {n : Nat} {slots next : List Slot}
    (hturns : List.Forall₂ (fun s s' => turn s = .ok s') slots next)
    (h : ∀ s ∈ slots, s.turnsLeft ≤ n + 1) : ∀ s' ∈ next, s'.turnsLeft ≤ n := by
  induction hturns with
  | nil => exact fun s' hs' => absurd hs' List.not_mem_nil
  | cons hturn _ ih =>
    intro s' hs'
    rcases List.mem_cons.1 hs' with rfl | hs'
    · have hle := turnsLeft_turn hturn
      have hn := h _ List.mem_cons_self
      omega
    · exact ih (fun s hs => h s (List.mem_cons_of_mem _ hs)) s' hs'

end Slot

/-- Slots that need no further turn have all their rule sets. -/
theorem filterMap_result?_eq_iff {slots : List Slot} (h : ∀ s ∈ slots, s.turnsLeft = 0)
    {sets : List RuleSet} :
    slots.filterMap Slot.result? = sets ↔ List.Forall₂ Slot.Produces slots sets := by
  induction slots generalizing sets with
  | nil => rw [List.forall₂_nil_left_iff, List.filterMap_nil, eq_comm]
  | cons s slots ih =>
    have hs := h s List.mem_cons_self
    have hslots : ∀ s' ∈ slots, s'.turnsLeft = 0 := fun s' hs' =>
      h s' (List.mem_cons_of_mem _ hs')
    rw [List.forall₂_cons_left_iff]
    cases s with
    | waiting b => cases hs
    | done set =>
      show set :: slots.filterMap Slot.result? = sets ↔ _
      constructor
      · rintro rfl
        exact ⟨set, _, rfl, (ih hslots).1 rfl, rfl⟩
      · rintro ⟨_, rest, rfl, hrest, rfl⟩
        rw [(ih hslots).2 hrest]

/-- Enough rounds give the rule sets that the slots produce. -/
theorem rounds_eq_ok_iff {n : Nat} {slots : List Slot} (h : ∀ s ∈ slots, s.turnsLeft ≤ n)
    {sets : List RuleSet} :
    rounds n slots = .ok sets ↔ List.Forall₂ Slot.Produces slots sets := by
  induction n generalizing slots with
  | zero =>
    show Except.ok (slots.filterMap Slot.result?) = Except.ok sets ↔ _
    rw [Except.ok.injEq]
    exact filterMap_result?_eq_iff fun s hs => Nat.le_zero.1 (h s hs)
  | succ n ih =>
    -- A round is one turn of every slot; what the slots produce is the same after it.
    have hsplit : List.Forall₂ Slot.Produces slots sets ↔
        ∃ next, List.Forall₂ (fun s s' => Slot.turn s = .ok s') slots next ∧
          List.Forall₂ Slot.Produces next sets := by
      rw [← forall₂_exists_iff]
      simp only [← Slot.produces_iff_turn]
    show (slots.mapM Slot.turn >>= rounds n) = .ok sets ↔ _
    rw [bind_eq_ok_iff, hsplit]
    constructor
    · rintro ⟨next, hturns, hrest⟩
      rw [mapM_eq_ok_iff] at hturns
      exact ⟨next, hturns, (ih (Slot.turnsLeft_of_turns hturns h)).1 hrest⟩
    · rintro ⟨next, hturns, hrest⟩
      exact ⟨next, mapM_eq_ok_iff.2 hturns, (ih (Slot.turnsLeft_of_turns hturns h)).2 hrest⟩

/-- The number of rounds is enough for each slot. -/
theorem turnsLeft_le_foldl {slots : List Slot} (n : Nat) :
    n ≤ slots.foldl (fun n s => max n s.turnsLeft) n ∧
      ∀ s ∈ slots, s.turnsLeft ≤ slots.foldl (fun n s => max n s.turnsLeft) n := by
  induction slots generalizing n with
  | nil => exact ⟨Nat.le_refl n, fun s hs => absurd hs List.not_mem_nil⟩
  | cons s slots ih =>
    obtain ⟨hstart, hall⟩ := ih (max n s.turnsLeft)
    rw [List.foldl_cons]
    refine ⟨Nat.le_trans (Nat.le_max_left _ _) hstart, fun s' hs' => ?_⟩
    rcases List.mem_cons.1 hs' with rfl | hs'
    · exact Nat.le_trans (Nat.le_max_right _ _) hstart
    · exact hall s' hs'

theorem interleaved_eq_ok_iff {builds : List (Role × Build)} {sets : List RuleSet} :
    (interleaved builds).outcome = .ok sets ↔ Builds builds sets := by
  unfold interleaved Builds
  show rounds _ _ = .ok sets ↔ _
  rw [rounds_eq_ok_iff (turnsLeft_le_foldl 0).2, List.forall₂_map_left_iff]
  rfl

end Run

/-! ## Checking rules -/

/-- A rule is for a resource and tests only fields of it. -/
structure Rule.WellFormed (subject : Resource) (r : Rule) : Prop where
  subject_eq : r.subject = subject
  hasField : ∀ c ∈ r.conditions, ∀ field ∈ c.fields, subject.hasField field = true

/-- A rule for all records tests no fields. -/
theorem Rule.wellFormed_iff_of_none {subject : Resource} {r : Rule} (h : r.conditions = none) :
    r.WellFormed subject ↔ r.subject = subject := by
  constructor
  · intro hr
    exact hr.subject_eq
  · intro hsub
    refine ⟨hsub, fun c hc => ?_⟩
    rw [h] at hc
    cases hc

theorem Rule.check_eq_ok_iff {subject : Resource} {r : Rule} :
    Rule.check subject r = .ok () ↔ r.WellFormed subject := by
  unfold Rule.check
  by_cases hsub : r.subject = subject
  · have hfields : (r.conditions.elim [] Condition.fields).find? (fun f => !subject.hasField f) =
        none ↔ ∀ c ∈ r.conditions, ∀ field ∈ c.fields, subject.hasField field = true := by
      cases r.conditions <;> simp
    rw [if_neg (by simp [hsub])]
    constructor
    · intro h
      split at h
      · cases h
      · next hnone => exact ⟨hsub, hfields.1 hnone⟩
    · rintro ⟨-, hall⟩
      rw [hfields.2 hall]
  · rw [if_pos (by simp [hsub])]
    exact ⟨fun h => (by cases h), fun h => absurd h.subject_eq hsub⟩

/-- All rules of a set are well-formed. -/
def RuleSet.WellFormed (subject : Resource) (s : RuleSet) : Prop :=
  ∀ r ∈ s.rules, r.WellFormed subject

theorem RuleSet.check_eq_ok_iff {subject : Resource} {s : RuleSet} :
    RuleSet.check subject s = .ok () ↔ s.WellFormed subject := by
  show s.rules.forM (Rule.check subject) = .ok ⟨⟩ ↔ _
  rw [forM_eq_ok_iff]
  exact forall₂_congr fun r _ => Rule.check_eq_ok_iff

/-! ## Compiling -/

namespace Compiler

/-- The rules of the sets are joined in their order. -/
theorem join_eq_ok_iff {subject : Resource} {sets : List RuleSet} {a : Ability} :
    join subject sets = .ok a ↔
      (∀ s ∈ sets, s.WellFormed subject) ∧ a = { subject, rules := sets.flatMap RuleSet.rules } := by
  show (sets.forM (RuleSet.check subject) >>= fun _ =>
    .ok { subject, rules := sets.flatMap RuleSet.rules }) = .ok a ↔ _
  rw [bind_eq_ok_iff]
  constructor
  · rintro ⟨⟨⟩, hcheck, heq⟩
    cases heq
    exact ⟨fun s hs => RuleSet.check_eq_ok_iff.1 (forM_eq_ok_iff.1 hcheck s hs), rfl⟩
  · rintro ⟨hall, rfl⟩
    exact ⟨⟨⟩, forM_eq_ok_iff.2 fun s hs => RuleSet.check_eq_ok_iff.2 (hall s hs), rfl⟩

/-- Both ways of running builds have the same successes. -/
theorem run_eq_ok_iff {c : Compiler} {b : Builder} {session : Session} {sets : List RuleSet} :
    (c.run b session).outcome = .ok sets ↔ Builds (builds b session) sets := by
  unfold run
  split
  · exact Run.interleaved_eq_ok_iff
  · exact Run.oneByOne_eq_ok_iff

/-- With a builder the rule sets of a run are joined. -/
theorem compile_of_builder {c : Compiler} {b : Builder} {session : Session} {subject : Resource}
    (hb : c.builder? subject = some b) :
    c.compile session subject = ((c.run b session).outcome >>= join subject) := by
  unfold compile
  rw [hb]

/-- Only the builds of the roles that are held matter. -/
theorem builds_congr {b b' : Builder} {session : Session} (hroles : b.roles = b'.roles)
    (h : ∀ role, session.holds role = true → b.build session role = b'.build session role) :
    builds b session = builds b' session := by
  unfold builds
  rw [hroles]
  refine List.map_congr_left fun role hrole => ?_
  rw [h role (RoleSet.mem_toList.1 (List.mem_filter.1 hrole).1)]

/-- Compilers that run the same builds in the same way have the same results. -/
theorem compile_congr {c c' : Compiler} {b b' : Builder} {session : Session} {subject : Resource}
    (hb : c.builder? subject = some b) (hb' : c'.builder? subject = some b')
    (hmode : c.concurrent = c'.concurrent) (hbuilds : builds b session = builds b' session) :
    c.compile session subject = c'.compile session subject := by
  rw [compile_of_builder hb, compile_of_builder hb']
  unfold run
  rw [hmode, hbuilds]

/-- An ability is compiled exactly when there is a builder, all its builds succeed, and all
rules that they make are well-formed. -/
theorem compile_eq_ok_iff {c : Compiler} {session : Session} {subject : Resource} {a : Ability} :
    c.compile session subject = .ok a ↔
      ∃ b, c.builder? subject = some b ∧ ∃ sets, Builds (builds b session) sets ∧
        (∀ s ∈ sets, s.WellFormed subject) ∧
        a = { subject, rules := sets.flatMap RuleSet.rules } := by
  cases hb : c.builder? subject with
  | none =>
    unfold compile
    rw [hb]
    constructor
    · intro h
      cases h
    · rintro ⟨b, hb', -⟩
      cases hb'
  | some b =>
    rw [compile_of_builder hb, bind_eq_ok_iff]
    constructor
    · rintro ⟨sets, hrun, hjoin⟩
      exact ⟨b, rfl, sets, run_eq_ok_iff.1 hrun, join_eq_ok_iff.1 hjoin⟩
    · rintro ⟨_, hb', sets, hbuilds, hjoin⟩
      cases hb'
      exact ⟨sets, run_eq_ok_iff.2 hbuilds, join_eq_ok_iff.2 hjoin⟩

/-- An ability is for the resource that it was compiled for. -/
theorem subject_of_compile {c : Compiler} {session : Session} {subject : Resource} {a : Ability}
    (h : c.compile session subject = .ok a) : a.subject = subject := by
  obtain ⟨b, -, sets, -, -, rfl⟩ := compile_eq_ok_iff.1 h
  rfl

/-- All rules of an ability passed the check. -/
theorem wellFormed_of_compile {c : Compiler} {session : Session} {subject : Resource} {a : Ability}
    (h : c.compile session subject = .ok a) : ∀ r ∈ a.rules, r.WellFormed subject := by
  obtain ⟨b, -, sets, -, hall, rfl⟩ := compile_eq_ok_iff.1 h
  intro r hr
  obtain ⟨set, hset, hmem⟩ := List.mem_flatMap.1 hr
  exact hall set hset r hmem

/-- Every rule of an ability comes from the rule set that was built for some role. -/
theorem exists_build_of_mem_rules {c : Compiler} {session : Session} {subject : Resource}
    {a : Ability} (h : c.compile session subject = .ok a) {r : Rule} (hr : r ∈ a.rules) :
    ∃ b role set, c.builder? subject = some b ∧ (b.build session role).outcome = .ok set ∧
      r ∈ set.rules := by
  obtain ⟨b, hb, sets, hbuilds, -, rfl⟩ := compile_eq_ok_iff.1 h
  obtain ⟨set, hset, hmem⟩ := List.mem_flatMap.1 hr
  obtain ⟨p, hp, houtcome⟩ := exists_mem_of_forall₂_right hbuilds hset
  obtain ⟨role, -, rfl⟩ := List.mem_map.1 hp
  exact ⟨b, role, set, hb, houtcome, hmem⟩

end Compiler

end VolunteerAccess
