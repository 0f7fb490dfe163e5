import VolunteerAccess.Proofs.Settings.Sources
import VolunteerAccess.Proofs.Transition.Configuration

/-!
# States without a name

A configured table must not list a state without a name. The names are looked at pair by
pair while the table is made, and so the name of a source is not looked at if no target is
listed for it: this one table is accepted, and settings with it are.

- `TransitionConfig.Sound`: a table that is on a field of its resource and lists only
  states with names.
- `TransitionConfig.Overlooked`: a table that would be sound without its unnamed source, for
  which no target is listed.
- `TransitionTable.ofConfig_succeeds_iff`: **the tables that are accepted are the sound and
  the overlooked ones**.
- `Settings.Guarded`: settings of which all tables are such. `Settings.guarded_of_check`:
  settings that pass the check are.
- `Settings.unnamed_refused_iff`: **the sound tables are those that are accepted unless one is
  overlooked**, and a machine comes by no settings with others.
-/

namespace VolunteerAccess

/-! ## Tables -/

namespace TransitionConfig

/-- The names of states that a configured table lists, be it as sources or as targets. -/
def states (c : TransitionConfig) : List String :=
  c.allowed.flatMap fun entry => entry.1 :: entry.2

/-- A table on a field of the resource in which every state has a name. -/
structure Sound (c : TransitionConfig) (subject : Resource) : Prop where
  field : subject.hasField c.field = true
  named : ∀ state ∈ c.states, state ≠ ""

/-- A table with a source that has no name and no targets, and otherwise sound. -/
structure Overlooked (c : TransitionConfig) (subject : Resource) : Prop where
  field : subject.hasField c.field = true
  named : ∀ p ∈ c.pairs, p.1 ≠ "" ∧ p.2 ≠ ""
  idle : ("", []) ∈ c.allowed

variable {c : TransitionConfig} {subject : Resource}

theorem mem_states_iff {state : String} :
    state ∈ c.states ↔ ∃ entry ∈ c.allowed, state = entry.1 ∨ state ∈ entry.2 := by
  unfold states
  simp only [List.mem_flatMap, List.mem_cons]

/-- The unnamed source of an overlooked table is one of its states. -/
theorem Overlooked.not_sound (h : c.Overlooked subject) : ¬ c.Sound subject := fun hsound =>
  hsound.named "" (mem_states_iff.2 ⟨("", []), h.idle, .inl rfl⟩) rfl

/-- In a sound table every listed pair has names. -/
theorem Sound.named_pairs (h : c.Sound subject) : ∀ p ∈ c.pairs, p.1 ≠ "" ∧ p.2 ≠ "" := by
  rintro ⟨source, target⟩ hp
  obtain ⟨targets, hentry, htarget⟩ := mem_pairs_iff.1 hp
  exact ⟨h.named _ (mem_states_iff.2 ⟨(source, targets), hentry, .inl rfl⟩),
    h.named _ (mem_states_iff.2 ⟨(source, targets), hentry, .inr htarget⟩)⟩

/-- Names for the states of listed pairs are names for all states, if every source without a
name has targets. -/
theorem named_of_pairs (hpairs : ∀ p ∈ c.pairs, p.1 ≠ "" ∧ p.2 ≠ "")
    (hidle : ("", []) ∉ c.allowed) : ∀ state ∈ c.states, state ≠ "" := by
  intro state hstate
  obtain ⟨⟨source, targets⟩, hentry, rfl | htarget⟩ := mem_states_iff.1 hstate
  · cases targets with
    | nil =>
      rintro rfl
      exact hidle hentry
    | cons target targets =>
      exact (hpairs _ (mem_pairs_iff.2 ⟨_, hentry, List.mem_cons_self⟩)).1
  · exact (hpairs _ (mem_pairs_iff.2 ⟨_, hentry, htarget⟩)).2

end TransitionConfig

/-- **The tables that are accepted are the sound ones and the overlooked ones.** -/
theorem TransitionTable.ofConfig_succeeds_iff {subject : Resource} {c : TransitionConfig} :
    (∃ t, ofConfig subject c = .ok t) ↔ c.Sound subject ∨ c.Overlooked subject := by
  simp only [ofConfig_eq_ok_iff]
  constructor
  · rintro ⟨t, hfield, hpairs, -⟩
    by_cases hidle : ("", []) ∈ c.allowed
    · exact .inr ⟨hfield, hpairs, hidle⟩
    · exact .inl ⟨hfield, TransitionConfig.named_of_pairs hpairs hidle⟩
  · rintro (hsound | hoverlooked)
    · exact ⟨_, hsound.field, hsound.named_pairs, rfl⟩
    · exact ⟨_, hoverlooked.field, hoverlooked.named, rfl⟩

/-! ## Settings -/

namespace Settings

/-- Settings in which every table is for a resource, and sound there or overlooked. -/
def Guarded (settings : Settings) : Prop :=
  ∀ name c, settings.transitions.get? name = some c →
    ∃ subject, Resource.ofText? name = some subject ∧ (c.Sound subject ∨ c.Overlooked subject)

/-- Settings that pass the check make a guard, and so every table of theirs is accepted. -/
theorem guarded_of_check {settings : Settings} (h : settings.check = .ok ()) :
    settings.Guarded := by
  intro name c hc
  unfold check at h
  split at h
  · cases h
  · split at h
    · cases h
    · obtain ⟨g, hguard, -⟩ := map_eq_ok_iff.1 h
      have hentry : (name, c) ∈ settings.transitions.entries := Dict.get?_eq_some_iff.1 hc
      obtain ⟨t, hname, htable⟩ := Guard.ofConfig_succeeds_iff.1 ⟨g, hguard⟩ _ hentry
      exact ⟨t.subject, hname, TransitionTable.ofConfig_succeeds_iff.1 ⟨t, htable⟩⟩

/-- **Just the sound tables are accepted, unless one is overlooked**, and neither a text nor a
machine gives settings with a table that is not accepted. -/
theorem unnamed_refused_iff (subject : Resource) (c : TransitionConfig) :
    (((∃ t, TransitionTable.ofConfig subject c = .ok t) ↔ c.Sound subject) ↔
        ¬ c.Overlooked subject) ∧
      (∀ s settings, ofText s = .ok settings → settings.Guarded) ∧
      ∀ (m : Type → Type) [Monad m] [LawfulMonad m] (h : Host m) (asked : Option String),
        ∃ checked : m (Except ConfigFailure { settings : Settings // settings.Guarded }),
          (fun outcome => outcome.map Subtype.val) <$> checked = load h asked := by
  refine ⟨?_, fun s settings hsettings => ?_, fun m _ _ h asked => ?_⟩
  · rw [TransitionTable.ofConfig_succeeds_iff, or_iff_left_iff_imp]
    exact ⟨fun hall h => h.not_sound (hall h), fun hnone h => absurd h hnone⟩
  · exact guarded_of_check (check_of_ofSources hsettings)
  · exact exists_map_eq_loadIn (fun settings => guarded_of_check) _ _ h asked

/-- A table with a source that has a name and no targets. -/
def withdrawing : TransitionConfig :=
  { TransitionConfig.default with allowed := [("invited", ["declined"]), ("declined", [])] }

/-- A machine without files and without variables. -/
def bareHost : Host Id where
  read _ := .error .notFound
  isRegular _ := false
  environment := .empty
  accountHome := none

theorem unnamed_refused_iff_withdrawing : ¬ withdrawing.Overlooked .interest ∧
    withdrawing.Sound .interest ∧
      (∃ t, TransitionTable.ofConfig .interest withdrawing = .ok t) ∧
        ofText "" = .ok Settings.default ∧ Settings.default.Guarded ∧
          ∃ checked : Except ConfigFailure { settings : Settings // settings.Guarded },
            checked.map Subtype.val = load bareHost none := by
  obtain ⟨haccepted_iff, htext, hmachine⟩ := unnamed_refused_iff .interest withdrawing
  have hidle : ¬ withdrawing.Overlooked .interest := fun h => absurd h.idle (by decide)
  have haccepted : ∃ t, TransitionTable.ofConfig .interest withdrawing = .ok t := ⟨_, rfl⟩
  have hread : ofText "" = .ok Settings.default := rfl
  exact ⟨hidle, (haccepted_iff.2 hidle).1 haccepted, haccepted, hread, htext _ _ hread,
    hmachine Id bareHost none⟩

/-- A table with a source that has neither a name nor targets. -/
def nameless : TransitionConfig :=
  { TransitionConfig.default with allowed := [("", [])] }

/-- A table is accepted although it lists a state without a name, and so are settings with it. -/
theorem accepts_nameless : ¬ ((∃ t, TransitionTable.ofConfig .interest nameless = .ok t) ↔
      nameless.Sound .interest) ∧
    check { default with transitions := Dict.empty.insert "interest" nameless } = .ok () := by
  refine ⟨fun h => ?_, rfl⟩
  have hsound := h.1 ⟨_, rfl⟩
  exact hsound.named "" List.mem_cons_self rfl

end Settings

end VolunteerAccess
