import Mathlib.Data.List.Nodup
import VolunteerAccess.Proofs.Transition.Configuration

/-!
# The relation that a configuration describes

A guard made of a configuration holds sets of states that were put together pair by pair,
over a table that was there before. What it lets pass is said here without any of this: a
resource that is configured has the actor, the field and the pairs that are listed for it,
none more and none left over, and any other resource is as in the standard guard.

- `TransitionTable.permits_allowPairs_iff`: what a table permits after some more pairs.
- `TransitionTable.Encodes`: the table says what a configured one does.
  `TransitionTable.encodes_of_ofConfig`: as does every table that is made of one.
- `Guard.Refuses`: when a guard refuses a pair of states to a role.
- `Guard.ofConfig_encodes`: **a guard encodes its configuration**, if no resource is named
  twice there.
-/

namespace VolunteerAccess

/-! ## Tables -/

namespace TransitionTable

/-- A table that was made of a configured one for a resource. -/
structure Encodes (t : TransitionTable) (subject : Resource) (c : TransitionConfig) : Prop where
  subject : t.subject = subject
  actor : t.actor = c.actor
  field : t.field = c.field
  permits : ∀ source target, t.permits source target = true ↔
    ∃ targets, (source, targets) ∈ c.allowed ∧ target ∈ targets

theorem permits_eq_row (t : TransitionTable) (source target : String) :
    t.permits source target = (t.row source).contains target := by
  unfold permits row
  cases t.allowed.get? source <;> rfl

theorem permits_allow_iff {t : TransitionTable} {a b source target : String} :
    (t.allow a b).permits source target = true ↔
      t.permits source target = true ∨ (source, target) = (a, b) := by
  rw [permits_eq_row, permits_eq_row, Prod.mk.injEq]
  by_cases hsource : source = a
  · subst hsource
    rw [row_allow_self]
    by_cases htarget : target = b
    · subst htarget
      simp [Dict.contains]
    · simp [Dict.contains, Dict.get?_insert_of_ne _ _ htarget, htarget]
  · rw [row_allow_of_ne t b hsource]
    simp [hsource]

/-- A table permits what it did and the pairs that are added. -/
theorem permits_allowPairs_iff {t : TransitionTable} {ps : List (String × String)}
    {source target : String} : (t.allowPairs ps).permits source target = true ↔
      t.permits source target = true ∨ (source, target) ∈ ps := by
  induction ps generalizing t with
  | nil => simp [allowPairs]
  | cons p ps ih =>
    show ((t.allow p.1 p.2).allowPairs ps).permits source target = true ↔ _
    rw [ih, permits_allow_iff, List.mem_cons, or_assoc]

/-- **The table that is made of a configured one encodes it.** -/
theorem encodes_of_ofConfig {subject : Resource} {c : TransitionConfig} {t : TransitionTable}
    (h : ofConfig subject c = .ok t) : t.Encodes subject c := by
  obtain ⟨-, -, rfl⟩ := ofConfig_eq_ok_iff.1 h
  refine ⟨?_, ?_, ?_, fun source target => ?_⟩
  · exact congrArg TransitionTable.subject (allowPairs_eq _ c.pairs)
  · exact congrArg TransitionTable.actor (allowPairs_eq _ c.pairs)
  · exact congrArg TransitionTable.field (allowPairs_eq _ c.pairs)
  · have hempty : (empty subject c.actor c.field).permits source target = false := rfl
    rw [permits_allowPairs_iff, hempty, TransitionConfig.mem_pairs_iff]
    simp

end TransitionTable

/-! ## Guards -/

namespace Guard

variable {g : Guard} {entries : List (String × TransitionConfig)} {subject : Resource}
  {actor : Role} {source target : String}

/-- The resource has a table, which is for the role and in which the pair is missing. -/
def Refuses (g : Guard) (subject : Resource) (actor : Role) (source target : String) : Prop :=
  ∃ t, g.table? subject = some t ∧ t.actor = actor ∧ t.permits source target = false

theorem allows_eq_false_iff :
    g.allows subject source target actor = false ↔ g.Refuses subject actor source target := by
  unfold allows Refuses
  cases g.table? subject with
  | none => simp
  | some t =>
    by_cases hactor : t.actor = actor
    · simp [hactor]
    · simp [hactor]

/-- A refusal is reported with the pair that was asked for. -/
theorem check_eq_error_iff {e : InvalidTransition} :
    g.check subject source target actor = .error e ↔
      e = { subject, source, target } ∧ g.Refuses subject actor source target := by
  rw [← allows_eq_false_iff]
  unfold check
  cases g.allows subject source target actor <;> simp [eq_comm]

/-- The entry that names a resource, if no other one does, provides its table. -/
theorem table?_of_mem (hnames : (entries.map fun entry => Resource.ofText? entry.1).Nodup)
    (h : ofConfig entries = .ok g) {entry : String × TransitionConfig} (hentry : entry ∈ entries) :
    ∃ t, Provides entry t ∧ g.table? t.subject = some t := by
  obtain ⟨t, ht⟩ := ofConfig_succeeds_iff.1 ⟨g, h⟩ entry hentry
  refine ⟨t, ht, ?_⟩
  obtain ⟨entry', hentry', t', ht', hsubject, htable⟩ | ⟨hnone, -⟩ := table?_ofConfig h t.subject
  · have hname : Resource.ofText? entry'.1 = Resource.ofText? entry.1 := by
      rw [ht.1, ht'.1, hsubject]
    obtain rfl : entry' = entry := List.inj_on_of_nodup_map hnames hentry' hentry hname
    rw [htable, ht.unique ht']
  · exact absurd ht.1 (hnone entry hentry)

/-- **A guard encodes its configuration.** If no resource is named twice, then each resource that
is named has the table that is configured for it, and any other is as in the standard guard. The
guard refuses a pair of states to a role just where the resource has a table for the role without
that pair, and then reports the pair. -/
theorem ofConfig_encodes
    (hnames : (entries.map fun entry => Resource.ofText? entry.1).Nodup)
    (h : ofConfig entries = .ok g) :
    (∀ entry ∈ entries, ∃ subject t, Resource.ofText? entry.1 = some subject ∧
        g.table? subject = some t ∧ t.Encodes subject entry.2) ∧
      (∀ subject, (∀ entry ∈ entries, Resource.ofText? entry.1 ≠ some subject) →
        g.table? subject = standard.table? subject) ∧
      ∀ subject actor source target,
        (g.allows subject source target actor = false ↔ g.Refuses subject actor source target) ∧
          ∀ e, g.check subject source target actor = .error e ↔
            e = { subject, source, target } ∧ g.Refuses subject actor source target := by
  refine ⟨fun entry hentry => ?_, fun subject hnone => ?_, fun subject actor source target =>
    ⟨allows_eq_false_iff, fun e => check_eq_error_iff⟩⟩
  · obtain ⟨t, ht, htable⟩ := table?_of_mem hnames h hentry
    exact ⟨t.subject, t, ht.1, htable, TransitionTable.encodes_of_ofConfig ht.2⟩
  · obtain ⟨entry, hentry, t, ht, rfl, -⟩ | ⟨-, hkept⟩ := table?_ofConfig h subject
    · exact absurd ht.1 (hnone entry hentry)
    · exact hkept

/-- A table for the archive, with one target listed twice and a state without targets. -/
def archivists : List (String × TransitionConfig) :=
  [("interest-archive", { TransitionConfig.default with
    actor := .administrator
    allowed := [("completed", ["cancelled", "cancelled"]), ("cancelled", [])] })]

theorem ofConfig_encodes_archivists :
    (archivists.map fun entry => Resource.ofText? entry.1).Nodup ∧
      ∃ g, ofConfig archivists = .ok g ∧ g.table? .interest = standard.table? .interest ∧
        g.allows .interestArchive "completed" "cancelled" .administrator = true ∧
          g.check .interestArchive "cancelled" "completed" .administrator =
            .error { subject := .interestArchive, source := "cancelled", target := "completed" } := by
  have hnames : (archivists.map fun entry => Resource.ofText? entry.1).Nodup := by decide
  obtain ⟨g, hg⟩ : ∃ g, ofConfig archivists = .ok g := ⟨_, rfl⟩
  obtain ⟨hnamed, hother, hrefused⟩ := ofConfig_encodes hnames hg
  obtain ⟨subject, t, hname, htable, hencodes⟩ := hnamed _ List.mem_cons_self
  cases hname
  have hlisted : t.permits "completed" "cancelled" = true :=
    (hencodes.permits _ _).2 ⟨_, List.mem_cons_self, List.mem_cons_self⟩
  have hmissing : t.permits "cancelled" "completed" = false := by
    rw [← Bool.not_eq_true, hencodes.permits]
    simp
  refine ⟨hnames, g, hg, hother .interest (by decide), ?_, ?_⟩
  · rw [← Bool.not_eq_false, (hrefused _ _ _ _).1]
    rintro ⟨t', htable', -, hpermits⟩
    rw [htable] at htable'
    cases htable'
    rw [hlisted] at hpermits
    cases hpermits
  · exact ((hrefused _ _ _ _).2 _).2 ⟨rfl, t, htable, hencodes.actor, hmissing⟩

end Guard

end VolunteerAccess
