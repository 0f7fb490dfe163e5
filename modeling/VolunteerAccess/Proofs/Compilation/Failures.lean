import Mathlib.Data.Prod.Lex
import Mathlib.Order.WellFounded
import VolunteerAccess.Proofs.Compilation.Outcomes

/-!
# Which failure is reported

Several builds of one session may fail, and one failure is reported. Builds that
run one after another report the first in role order. Builds that take turns
report one that fails in the earliest round, and of these the first in role
order. The checks come after all builds, so a rule that fails its check is never
reported in place of a failed build.

- `Run.oneByOne_eq_error`, `Run.interleaved_eq_error`: the failure that each way
  of running builds ends with.
- `Compiler.scheduled`: the same builders, run in one of the ways and with
  another timing.
- `Compiler.IsFirstFailure`: the failure that comes first in some order.
- `Compiler.compile_scheduled`: **both ways compile the same abilities, and each
  reports its own first failure**.
-/

namespace VolunteerAccess

namespace Run

/-! ## One after another -/

/-- The first build that fails ends the run. -/
theorem oneByOne_eq_error {earlier later : List (Role × Build)} {role : Role} {b : Build}
    {e : BuildFailure} (hearlier : ∀ p ∈ earlier, ∀ e', p.2.outcome ≠ .error e')
    (hb : b.outcome = .error e) :
    (oneByOne (earlier ++ (role, b) :: later)).outcome = .error e := by
  induction earlier with
  | nil =>
    rw [List.nil_append, oneByOne, hb]
  | cons p earlier ih =>
    obtain ⟨role', b'⟩ := p
    have hrest := ih fun p hp => hearlier p (List.mem_cons_of_mem _ hp)
    have hhead := hearlier (role', b') List.mem_cons_self
    rw [List.cons_append, oneByOne]
    cases hb' : b'.outcome with
    | error e' => exact absurd hb' (hhead e')
    | ok set =>
      show (oneByOne (earlier ++ (role, b) :: later)).outcome.map (set :: ·) = .error e
      rw [hrest]
      rfl

/-! ## In turns -/

namespace Slot

/-- The slot does not fail in the next `n` rounds. -/
def Lasts (n : Nat) : Slot → Prop
  | .done _ => True
  | .waiting b => ∀ e, b.outcome = .error e → n ≤ b.yields

theorem lasts_turn {n : Nat} {slot : Slot} (h : slot.Lasts (n + 1)) :
    ∃ next, slot.turn = .ok next ∧ next.Lasts n := by
  match slot with
  | .done set => exact ⟨_, rfl, trivial⟩
  | .waiting { yields := k + 1, outcome } =>
    exact ⟨_, rfl, fun e he => Nat.le_of_succ_le_succ (h e he)⟩
  | .waiting { yields := 0, outcome } =>
    cases outcome with
    | ok set => exact ⟨_, rfl, trivial⟩
    | error e => exact absurd (h e rfl) (Nat.not_succ_le_zero n)

/-- A round of slots that all last gives slots that last one round less. -/
theorem lasts_turns {n : Nat} {slots : List Slot} (h : ∀ s ∈ slots, s.Lasts (n + 1)) :
    ∃ next, slots.mapM turn = .ok next ∧ ∀ s ∈ next, s.Lasts n := by
  induction slots with
  | nil => exact ⟨[], rfl, fun s hs => absurd hs List.not_mem_nil⟩
  | cons slot slots ih =>
    obtain ⟨next, hturn, hnext⟩ := lasts_turn (h slot List.mem_cons_self)
    obtain ⟨rest, hturns, hrest⟩ := ih fun s hs => h s (List.mem_cons_of_mem _ hs)
    refine ⟨next :: rest, ?_, fun s hs => ?_⟩
    · rw [List.mapM_cons, hturn, hturns]
      rfl
    · rcases List.mem_cons.1 hs with rfl | hs
      · exact hnext
      · exact hrest s hs

end Slot

/-- Rounds end at the slot that fails in the earliest round, and of several such slots at the
first one. -/
theorem rounds_eq_error {n k : Nat} {e : BuildFailure} {earlier later : List Slot}
    (hearlier : ∀ s ∈ earlier, s.Lasts (n + 1)) (hlater : ∀ s ∈ later, s.Lasts n) (hk : n < k) :
    rounds k (earlier ++ .waiting { yields := n, outcome := .error e } :: later) = .error e := by
  -- On the rounds before the failure: each leaves slots of the same form.
  induction n generalizing k earlier later with
  | zero =>
    -- The earlier slots pass this round; the one at the split ends it.
    obtain ⟨k, rfl⟩ := Nat.exists_eq_add_of_lt hk
    obtain ⟨before, hbefore, -⟩ := Slot.lasts_turns hearlier
    show (List.mapM Slot.turn _ >>= rounds _) = .error e
    rw [List.mapM_append, hbefore, List.mapM_cons]
    rfl
  | succ n ih =>
    obtain ⟨k, rfl⟩ := Nat.exists_eq_add_of_lt hk
    obtain ⟨before, hbefore, hlasts⟩ := Slot.lasts_turns hearlier
    obtain ⟨after, hafter, hlasts'⟩ := Slot.lasts_turns hlater
    show (List.mapM Slot.turn _ >>= rounds _) = .error e
    rw [List.mapM_append, hbefore, List.mapM_cons, hafter]
    exact ih hlasts hlasts' (by omega)

/-- The failure of a build that gives up its turn less often than any failing build before it,
and not more often than any after it, ends the run. -/
theorem interleaved_eq_error {earlier later : List (Role × Build)} {role : Role} {b : Build}
    {e : BuildFailure} (hb : b.outcome = .error e)
    (hearlier : ∀ p ∈ earlier, ∀ e', p.2.outcome = .error e' → b.yields < p.2.yields)
    (hlater : ∀ p ∈ later, ∀ e', p.2.outcome = .error e' → b.yields ≤ p.2.yields) :
    (interleaved (earlier ++ (role, b) :: later)).outcome = .error e := by
  obtain ⟨n, outcome⟩ := b
  cases hb
  unfold interleaved
  rw [List.map_append, List.map_cons]
  -- An earlier build must last one round more than the split, a later one only as long.
  refine rounds_eq_error (fun s hs => ?_) (fun s hs => ?_) ?_
  · obtain ⟨p, hp, rfl⟩ := List.mem_map.1 hs
    exact fun e' he' => hearlier p hp e' he'
  · obtain ⟨p, hp, rfl⟩ := List.mem_map.1 hs
    exact fun e' he' => hlater p hp e' he'
  · exact (turnsLeft_le_foldl 0).2 (.waiting ⟨n, .error e⟩)
      (List.mem_append_right _ List.mem_cons_self)

end Run

/-! ## The order of roles -/

/-- The place of a role in priority order. -/
def Role.priority (r : Role) : Nat := Role.all.idxOf r

theorem Role.pairwise_priority : Role.all.Pairwise (fun r r' => r.priority < r'.priority) := by
  decide

/-- The same builds, where that of a role gives up its turn a given number of times. -/
def Builder.retimed (b : Builder) (turns : Role → Nat) : Builder :=
  { b with build := fun session role => { b.build session role with yields := turns role } }

namespace Compiler

variable {c : Compiler} {session : Session} {subject : Resource} {b : Builder}

/-- The builds of a session are in priority order. -/
theorem pairwise_builds (b : Builder) (session : Session) :
    (builds b session).Pairwise (fun p q => p.1.priority < q.1.priority) := by
  unfold builds RoleSet.toList
  rw [List.pairwise_map]
  exact (Role.pairwise_priority.filter _).filter _

theorem mem_builds_iff {role : Role} {build : Build} :
    (role, build) ∈ builds b session ↔
      session.holds role = true ∧ role ∈ b.roles ∧ build = b.build session role := by
  unfold builds
  simp only [List.mem_map, List.mem_filter, RoleSet.mem_toList, List.contains_iff_mem,
    Prod.mk.injEq]
  constructor
  · rintro ⟨r, ⟨hheld, hr⟩, rfl, rfl⟩
    exact ⟨hheld, hr, rfl⟩
  · rintro ⟨hheld, hr, rfl⟩
    exact ⟨role, ⟨hheld, hr⟩, rfl, rfl⟩

/-! ## Another timing -/

/-- The same builders, whose builds run one after another or take turns, with another timing. -/
def scheduled (c : Compiler) (concurrent : Bool) (turns : Role → Nat) : Compiler :=
  { concurrent, builder? := fun r => (c.builder? r).map (·.retimed turns) }

@[simp] theorem builder?_scheduled (c : Compiler) (concurrent : Bool) (turns : Role → Nat)
    (subject : Resource) : (c.scheduled concurrent turns).builder? subject =
      (c.builder? subject).map (·.retimed turns) := rfl

theorem builds_retimed_iff {turns : Role → Nat} {sets : List RuleSet} :
    Builds (builds (b.retimed turns) session) sets ↔ Builds (builds b session) sets := by
  unfold Builds builds
  rw [List.forall₂_map_left_iff, List.forall₂_map_left_iff]
  rfl

/-- The abilities that are compiled do not depend on the timing. -/
theorem compile_scheduled_eq_ok_iff {concurrent : Bool} {turns : Role → Nat} {a : Ability} :
    (c.scheduled concurrent turns).compile session subject = .ok a ↔
      c.compile session subject = .ok a := by
  rw [compile_eq_ok_iff, compile_eq_ok_iff]
  simp only [builder?_scheduled, Option.map_eq_some_iff]
  constructor
  · rintro ⟨_, ⟨b, hb, rfl⟩, sets, hbuilds, hjoin⟩
    exact ⟨b, hb, sets, builds_retimed_iff.1 hbuilds, hjoin⟩
  · rintro ⟨b, hb, sets, hbuilds, hjoin⟩
    exact ⟨_, ⟨b, hb, rfl⟩, sets, builds_retimed_iff.2 hbuilds, hjoin⟩

/-! ## Failed builds -/

/-- The session holds a role, and the build for it fails. -/
def Fails (c : Compiler) (session : Session) (subject : Resource) (role : Role)
    (e : BuildFailure) : Prop :=
  ∃ b, c.builder? subject = some b ∧ session.holds role = true ∧ role ∈ b.roles ∧
    (b.build session role).outcome = .error e

/-- A failed build that comes before all others in an order of the roles. -/
structure IsFirstFailure {ι : Type} [LE ι] (c : Compiler) (session : Session)
    (subject : Resource) (rank : Role → ι) (role : Role) (e : BuildFailure) : Prop where
  fails : c.Fails session subject role e
  first : ∀ role' e', c.Fails session subject role' e' → rank role ≤ rank role'

theorem exists_isFirstFailure {ι : Type} [LinearOrder ι] [WellFoundedLT ι] (rank : Role → ι)
    (h : ∃ role e, c.Fails session subject role e) :
    ∃ role e, c.IsFirstFailure session subject rank role e := by
  obtain ⟨role, e, hfails⟩ := h
  obtain ⟨_, ⟨first, e', hfirst, rfl⟩, hmin⟩ := wellFounded_lt.has_min
    {i | ∃ role e, c.Fails session subject role e ∧ rank role = i} ⟨_, role, e, hfails, rfl⟩
  exact ⟨first, e', hfirst, fun r e'' hr => not_lt.1 (hmin _ ⟨r, e'', hr, rfl⟩)⟩

/-- Without a failed build, every build gives a rule set. -/
theorem exists_builds (h : ∀ role e, ¬ c.Fails session subject role e)
    (hb : c.builder? subject = some b) : ∃ sets, Builds (builds b session) sets := by
  have hall : ∀ p ∈ builds b session, ∃ set, p.2.outcome = .ok set := by
    rintro ⟨role, build⟩ hp
    obtain ⟨hheld, hrole, rfl⟩ := mem_builds_iff.1 hp
    cases hout : (b.build session role).outcome with
    | ok set => exact ⟨set, rfl⟩
    | error e => exact absurd ⟨b, hb, hheld, hrole, hout⟩ (h role e)
  choose! set hset using hall
  exact ⟨(builds b session).map set,
    List.forall₂_map_right_iff.2 (List.forall₂_same.2 hset)⟩

/-- A build stands between those of earlier roles and those of later roles. -/
theorem builds_split {role : Role} {build : Build} (h : (role, build) ∈ builds b session) :
    ∃ earlier later, builds b session = earlier ++ (role, build) :: later ∧
      (∀ p ∈ earlier, p ∈ builds b session ∧ p.1.priority < role.priority) ∧
      (∀ p ∈ later, p ∈ builds b session) := by
  obtain ⟨earlier, later, hsplit⟩ := List.append_of_mem h
  have hpairwise := pairwise_builds b session
  rw [hsplit] at hpairwise ⊢
  refine ⟨earlier, later, rfl, fun p hp => ⟨List.mem_append_left _ hp, ?_⟩, fun p hp =>
    List.mem_append_right _ (List.mem_cons_of_mem _ hp)⟩
  exact (List.pairwise_append.1 hpairwise).2.2 p hp _ List.mem_cons_self

theorem fails_of_mem_builds {turns : Role → Nat} {p : Role × Build} {e : BuildFailure}
    (hb : c.builder? subject = some b) (hp : p ∈ builds (b.retimed turns) session)
    (he : p.2.outcome = .error e) :
    c.Fails session subject p.1 e ∧ p.2.yields = turns p.1 := by
  obtain ⟨role, build⟩ := p
  obtain ⟨hheld, hrole, rfl⟩ := mem_builds_iff.1 hp
  exact ⟨⟨b, hb, hheld, hrole, he⟩, rfl⟩

/-- The first failure in an order of the roles, between the builds of earlier roles and those of
later ones. -/
theorem IsFirstFailure.split {ι : Type} [LE ι] {rank : Role → ι} {role : Role} {e : BuildFailure}
    (h : c.IsFirstFailure session subject rank role e) (turns : Role → Nat) :
    ∃ b earlier build later, c.builder? subject = some b ∧
      builds (b.retimed turns) session = earlier ++ (role, build) :: later ∧
      build.outcome = .error e ∧ build.yields = turns role ∧
      (∀ p ∈ earlier, ∀ e', p.2.outcome = .error e' →
        p.2.yields = turns p.1 ∧ rank role ≤ rank p.1 ∧ p.1.priority < role.priority) ∧
      (∀ p ∈ later, ∀ e', p.2.outcome = .error e' →
        p.2.yields = turns p.1 ∧ rank role ≤ rank p.1) := by
  obtain ⟨b, hb, hheld, hrole, he⟩ := h.fails
  obtain ⟨earlier, later, hsplit, hearlier, hlater⟩ := builds_split
    (mem_builds_iff.2 ⟨hheld, hrole, rfl⟩ : (role, _) ∈ builds (b.retimed turns) session)
  -- Builds on both sides may fail too; what is known of them is that they do not come first.
  refine ⟨b, earlier, _, later, hb, hsplit, he, rfl, fun p hp e' he' => ?_, fun p hp e' he' => ?_⟩
  · obtain ⟨hmem, hlt⟩ := hearlier p hp
    obtain ⟨hfails, hyields⟩ := fails_of_mem_builds hb hmem he'
    exact ⟨hyields, h.first _ _ hfails, hlt⟩
  · obtain ⟨hfails, hyields⟩ := fails_of_mem_builds hb (hlater p hp) he'
    exact ⟨hyields, h.first _ _ hfails⟩

/-- A failure that ends the run of the builds is the result, whatever the checks would say. -/
theorem compile_scheduled_of_run {concurrent : Bool} {turns : Role → Nat} {e : BuildFailure}
    (hb : c.builder? subject = some b)
    (h : ((c.scheduled concurrent turns).run (b.retimed turns) session).outcome = .error e) :
    (c.scheduled concurrent turns).compile session subject = .error e := by
  have hb' : (c.scheduled concurrent turns).builder? subject = some (b.retimed turns) := by
    simp [hb]
  rw [compile_of_builder hb', h]
  rfl

/-- One after another, the builds report the first failure in priority order. -/
theorem compile_sequential_eq_error {role : Role} {e : BuildFailure}
    (h : c.IsFirstFailure session subject Role.priority role e) (turns : Role → Nat) :
    (c.scheduled false turns).compile session subject = .error e := by
  obtain ⟨b, earlier, build, later, hb, hsplit, he, -, hearlier, -⟩ := h.split turns
  refine compile_scheduled_of_run hb ?_
  show (Run.oneByOne (builds (b.retimed turns) session)).outcome = .error e
  rw [hsplit]
  refine Run.oneByOne_eq_error (fun p hp e' he' => ?_) he
  -- A failure of an earlier role would come first.
  obtain ⟨-, hle, hlt⟩ := hearlier p hp e' he'
  exact absurd hle (Nat.not_le_of_lt hlt)

/-- In turns, they report the one that comes first by its turns, and then in priority order. -/
theorem compile_concurrent_eq_error {turns : Role → Nat} {role : Role} {e : BuildFailure}
    (h : c.IsFirstFailure session subject (fun r => toLex (turns r, r.priority)) role e) :
    (c.scheduled true turns).compile session subject = .error e := by
  obtain ⟨b, earlier, build, later, hb, hsplit, he, hyields, hearlier, hlater⟩ := h.split turns
  refine compile_scheduled_of_run hb ?_
  show (Run.interleaved (builds (b.retimed turns) session)).outcome = .error e
  rw [hsplit]
  refine Run.interleaved_eq_error he (fun p hp e' he' => ?_) fun p hp e' he' => ?_
  · -- With as many turns an earlier role would come first, so it must have more.
    obtain ⟨hyields', hle, hlt⟩ := hearlier p hp e' he'
    rw [hyields, hyields']
    rcases Prod.Lex.toLex_le_toLex.1 hle with hturns | ⟨-, hprio⟩
    · exact hturns
    · exact absurd hprio (Nat.not_le_of_lt hlt)
  · obtain ⟨hyields', hle⟩ := hlater p hp e' he'
    rw [hyields, hyields']
    rcases Prod.Lex.toLex_le_toLex.1 hle with hturns | ⟨hturns, -⟩
    · exact Nat.le_of_lt hturns
    · exact Nat.le_of_eq hturns

/-- Without a failed build, the timing does not matter at all. -/
theorem compile_scheduled_of_not_fails (h : ∀ role e, ¬ c.Fails session subject role e)
    (concurrent : Bool) (turns : Role → Nat) :
    (c.scheduled concurrent turns).compile session subject = c.compile session subject := by
  cases hb : c.builder? subject with
  | none =>
    unfold compile
    simp [hb]
  | some b =>
    obtain ⟨sets, hsets⟩ := exists_builds h hb
    have hb' : (c.scheduled concurrent turns).builder? subject = some (b.retimed turns) := by
      simp [hb]
    rw [compile_of_builder hb, compile_of_builder hb', run_eq_ok_iff.2 hsets,
      run_eq_ok_iff.2 (builds_retimed_iff.2 hsets)]

/-- With a failed build, either way reports one of the failures. -/
theorem compile_scheduled_of_fails (h : ∃ role e, c.Fails session subject role e)
    (concurrent : Bool) (turns : Role → Nat) :
    ∃ role e, c.Fails session subject role e ∧
      (c.scheduled concurrent turns).compile session subject = .error e := by
  cases concurrent with
  | false =>
    obtain ⟨role, e, hfirst⟩ := exists_isFirstFailure Role.priority h
    exact ⟨role, e, hfirst.fails, compile_sequential_eq_error hfirst turns⟩
  | true =>
    obtain ⟨role, e, hfirst⟩ :=
      exists_isFirstFailure (fun r => toLex (turns r, r.priority)) h
    exact ⟨role, e, hfirst.fails, compile_concurrent_eq_error hfirst⟩

/-! ## Both ways of running builds -/

/-- **Builds that take turns give what builds one after another give.** They compile the same
abilities; without a failed build they also report the same failed check; and with a failed
build each reports the failure that comes first in its own order, and no failed check. -/
theorem compile_scheduled (c : Compiler) (session : Session) (subject : Resource)
    (turns turns' : Role → Nat) :
    (∀ a, (c.scheduled true turns).compile session subject = .ok a ↔
      (c.scheduled false turns').compile session subject = .ok a) ∧
    ((∀ role e, ¬ c.Fails session subject role e) →
      (c.scheduled true turns).compile session subject =
        (c.scheduled false turns').compile session subject) ∧
    ((∃ role e, c.Fails session subject role e) →
      (∃ role e, c.IsFirstFailure session subject Role.priority role e ∧
        (c.scheduled false turns').compile session subject = .error e) ∧
      ∃ role e, c.IsFirstFailure session subject (fun r => toLex (turns r, r.priority)) role e ∧
        (c.scheduled true turns).compile session subject = .error e) := by
  refine ⟨fun a => ?_, fun h => ?_, fun h => ⟨?_, ?_⟩⟩
  · rw [compile_scheduled_eq_ok_iff, compile_scheduled_eq_ok_iff]
  · rw [compile_scheduled_of_not_fails h, compile_scheduled_of_not_fails h]
  · obtain ⟨role, e, hfirst⟩ := exists_isFirstFailure Role.priority h
    exact ⟨role, e, hfirst, compile_sequential_eq_error hfirst turns'⟩
  · obtain ⟨role, e, hfirst⟩ :=
      exists_isFirstFailure (fun r => toLex (turns r, r.priority)) h
    exact ⟨role, e, hfirst, compile_concurrent_eq_error hfirst⟩

/-- A compiler whose interest rules need a look-up for two roles, and the look-up fails. -/
def unavailable : Compiler :=
  (empty true).register {
    subject := .interest
    roles := [.anonymous, .volunteer, .administrator]
    build := fun _ role => {
      yields := 0
      outcome :=
        if role = .anonymous then .ok { subject := .interest, rules := [] }
        else .error (.lookup role { collection := "organisations", reason := "unavailable" }) } }

/-- The build for volunteers takes longest. -/
def slowForVolunteers (role : Role) : Nat := if role = .volunteer then 2 else 0

/-- A person with two roles. -/
def helper : Session := .ofPerson "p1" [.administrator, .volunteer] []

/-- With two failed builds the two ways report different ones, and with none they agree. -/
theorem compile_scheduled_unavailable :
    ((unavailable.scheduled false slowForVolunteers).compile helper .interest =
        .error (.lookup .volunteer { collection := "organisations", reason := "unavailable" }) ∧
      (unavailable.scheduled true slowForVolunteers).compile helper .interest =
        .error (.lookup .administrator { collection := "organisations", reason := "unavailable" }) ∧
      ∃ role e, unavailable.IsFirstFailure helper .interest
          (fun r => toLex (slowForVolunteers r, r.priority)) role e ∧
        (unavailable.scheduled true slowForVolunteers).compile helper .interest = .error e) ∧
    (unavailable.scheduled true slowForVolunteers).compile .anonymous .interest =
      (unavailable.scheduled false slowForVolunteers).compile .anonymous .interest := by
  have hfails : unavailable.Fails helper .interest .volunteer
      (.lookup .volunteer { collection := "organisations", reason := "unavailable" }) :=
    ⟨_, rfl, rfl, by decide, rfl⟩
  have hnone : ∀ role e, ¬ unavailable.Fails .anonymous .interest role e := by
    rintro role e ⟨b, hb, hheld, -, he⟩
    cases hb
    cases role with
    | anonymous => cases he
    | _ => cases hheld
  obtain ⟨-, -, hfailed⟩ :=
    compile_scheduled unavailable helper .interest slowForVolunteers slowForVolunteers
  obtain ⟨-, hequal, -⟩ :=
    compile_scheduled unavailable .anonymous .interest slowForVolunteers slowForVolunteers
  exact ⟨⟨rfl, rfl, (hfailed ⟨_, _, hfails⟩).2⟩, hequal hnone⟩

end Compiler

end VolunteerAccess
