import VolunteerAccess.Proofs.Dict.Insertion
import VolunteerAccess.Proofs.Fallible
import VolunteerAccess.Transition

/-!
# What a configuration makes of a guard

A configured table lists pairs of states under their sources, and a guard takes
one table for each resource. Both are put together entry by entry, and both are
said here without the order of the entries:

- `TransitionConfig.pairs`: the pairs that are listed.
  `TransitionTable.ofConfig_eq_ok_iff`: a table is made if its field is one of the
  resource and all states of listed pairs have names; it permits these pairs.
- `TransitionTable.allowPairs_perm`: the order of the pairs does not matter.
- `Guard.Provides`: the table that an entry stands for.
  `Guard.ofConfig_succeeds_iff`: **a guard is made if every entry provides a table**.
- `Guard.table?_ofConfig`: each resource then has a table that was provided for
  it, or is as in the standard guard.
-/

namespace VolunteerAccess

/-! ## Tables -/

/-- The pairs of states that a configured table lists. -/
def TransitionConfig.pairs (c : TransitionConfig) : List (String × String) :=
  c.allowed.flatMap fun entry => entry.2.map fun target => (entry.1, target)

theorem TransitionConfig.mem_pairs_iff {c : TransitionConfig} {source target : String} :
    (source, target) ∈ c.pairs ↔ ∃ targets, (source, targets) ∈ c.allowed ∧ target ∈ targets := by
  unfold pairs
  rw [List.mem_flatMap]
  constructor
  · rintro ⟨⟨listed, targets⟩, hentry, hpair⟩
    obtain ⟨target', htarget, heq⟩ := List.mem_map.1 hpair
    cases heq
    exact ⟨targets, hentry, htarget⟩
  · rintro ⟨targets, hentry, htarget⟩
    exact ⟨(source, targets), hentry, List.mem_map.2 ⟨target, htarget, rfl⟩⟩

namespace TransitionTable

variable {t t' : TransitionTable}

/-- The table that permits some more pairs. -/
def allowPairs (t : TransitionTable) (ps : List (String × String)) : TransitionTable :=
  ps.foldl (fun t p => t.allow p.1 p.2) t

/-- The states that may follow a state. -/
def row (t : TransitionTable) (source : String) : Dict Unit :=
  (t.allowed.get? source).getD .empty

theorem allow_eq (t : TransitionTable) (source target : String) : t.allow source target =
    { t with allowed := t.allowed.insert source ((t.row source).insert target ()) } := rfl

theorem row_allow_self (t : TransitionTable) (source target : String) :
    (t.allow source target).row source = (t.row source).insert target () := by
  rw [allow_eq, row, Dict.get?_insert_self, Option.getD_some]

theorem row_allow_of_ne (t : TransitionTable) {source other : String} (target : String)
    (h : other ≠ source) : (t.allow source target).row other = t.row other := by
  rw [allow_eq, row, Dict.get?_insert_of_ne _ _ h, row]

/-- Of two pairs it does not matter which is permitted first. -/
theorem allow_comm (t : TransitionTable) (a b c d : String) :
    (t.allow a b).allow c d = (t.allow c d).allow a b := by
  by_cases hsource : c = a
  · subst hsource
    by_cases htarget : b = d
    · rw [htarget]
    · -- One row is written twice, and its own order does not matter either.
      rw [allow_eq (t.allow c b), allow_eq (t.allow c d), row_allow_self, row_allow_self,
        Dict.insert_comm _ htarget]
      show { t with allowed := (t.allowed.insert c _).insert c _ } =
        { t with allowed := (t.allowed.insert c _).insert c _ }
      rw [Dict.insert_insert, Dict.insert_insert]
  · rw [allow_eq (t.allow a b), allow_eq (t.allow c d), row_allow_of_ne t b hsource,
      row_allow_of_ne t d (Ne.symm hsource)]
    show { t with allowed :=
        (t.allowed.insert a ((t.row a).insert b ())).insert c ((t.row c).insert d ()) } =
      { t with allowed :=
        (t.allowed.insert c ((t.row c).insert d ())).insert a ((t.row a).insert b ()) }
    rw [Dict.insert_comm _ (Ne.symm hsource)]

/-- The order of the pairs does not matter. -/
theorem allowPairs_perm {ps qs : List (String × String)} (h : ps.Perm qs) (t : TransitionTable) :
    t.allowPairs ps = t.allowPairs qs :=
  h.foldl_eq' (fun p _ q _ t => allow_comm t p.1 p.2 q.1 q.2) t

/-- Further pairs change nothing else about a table. -/
theorem allowPairs_eq (t : TransitionTable) (ps : List (String × String)) :
    t.allowPairs ps = { t with allowed := (t.allowPairs ps).allowed } := by
  induction ps generalizing t with
  | nil => rfl
  | cons p ps ih => exact ih (t.allow p.1 p.2)

theorem subject_allowPairs (t : TransitionTable) (ps : List (String × String)) :
    (t.allowPairs ps).subject = t.subject := by
  rw [allowPairs_eq]

theorem allowAll_eq_ok_iff {source : String} {targets : List String} :
    allowAll source t targets = .ok t' ↔
      (∀ target ∈ targets, source ≠ "" ∧ target ≠ "") ∧
        t' = t.allowPairs (targets.map fun target => (source, target)) := by
  induction targets generalizing t with
  | nil =>
    show Except.ok t = Except.ok t' ↔ _
    rw [Except.ok.injEq, eq_comm]
    exact ⟨fun h => ⟨fun target htarget => absurd htarget List.not_mem_nil, h⟩, fun h => h.2⟩
  | cons target targets ih =>
    unfold allowAll
    rw [List.forall_mem_cons]
    by_cases hnamed : source ≠ "" ∧ target ≠ ""
    · have hcheck : ¬ (source.isEmpty || target.isEmpty) = true := by
        simpa [String.isEmpty_iff] using hnamed
      rw [if_neg hcheck, ih]
      simp only [hnamed, true_and, ne_eq, not_false_eq_true]
      rfl
    · have hcheck : (source.isEmpty || target.isEmpty) = true := by
        rw [Bool.or_eq_true, String.isEmpty_iff, String.isEmpty_iff]
        by_contra hboth
        exact hnamed ⟨fun h => hboth (.inl h), fun h => hboth (.inr h)⟩
      rw [if_pos hcheck]
      exact iff_of_false (fun h => by cases h) fun h => hnamed h.1.1

/-- **When a table is made of a configured one**, and what it permits. -/
theorem ofConfig_eq_ok_iff {subject : Resource} {c : TransitionConfig} :
    ofConfig subject c = .ok t ↔ subject.hasField c.field = true ∧
      (∀ p ∈ c.pairs, p.1 ≠ "" ∧ p.2 ≠ "") ∧
        t = (empty subject c.actor c.field).allowPairs c.pairs := by
  have hpairs : (∀ p ∈ c.pairs, p.1 ≠ "" ∧ p.2 ≠ "") ↔
      ∀ entry ∈ c.allowed, ∀ target ∈ entry.2, entry.1 ≠ "" ∧ target ≠ "" := by
    unfold TransitionConfig.pairs
    simp only [List.mem_flatMap, List.mem_map]
    constructor
    · intro h entry hentry target htarget
      exact h (entry.1, target) ⟨entry, hentry, target, htarget, rfl⟩
    · rintro h _ ⟨entry, hentry, target, htarget, rfl⟩
      exact h entry hentry target htarget
  have htable : (empty subject c.actor c.field).allowPairs c.pairs = c.allowed.foldl
      (fun t entry => t.allowPairs (entry.2.map fun target => (entry.1, target)))
        (empty subject c.actor c.field) := by
    unfold allowPairs TransitionConfig.pairs
    rw [List.foldl_flatMap]
  rw [hpairs, htable]
  unfold ofConfig
  cases hfield : subject.hasField c.field with
  | false => exact iff_of_false (fun h => by cases h) fun h => by cases h.1
  | true =>
    have hstep (t : TransitionTable) (entry : String × List String) (t' : TransitionTable) :
        allowAll entry.1 t entry.2 = .ok t' ↔
          (∀ target ∈ entry.2, entry.1 ≠ "" ∧ target ≠ "") ∧
            t' = t.allowPairs (entry.2.map fun target => (entry.1, target)) :=
      allowAll_eq_ok_iff
    rw [and_iff_right rfl]
    exact foldlM_eq_ok_iff hstep

theorem subject_of_ofConfig {subject : Resource} {c : TransitionConfig}
    (h : ofConfig subject c = .ok t) : t.subject = subject := by
  obtain ⟨-, -, rfl⟩ := ofConfig_eq_ok_iff.1 h
  exact subject_allowPairs _ _

end TransitionTable

/-! ## Guards -/

namespace Guard

variable {g g' : Guard} {entry : String × TransitionConfig}
  {entries : List (String × TransitionConfig)}

/-- The table that an entry of a configuration stands for. -/
def Provides (entry : String × TransitionConfig) (t : TransitionTable) : Prop :=
  Resource.ofText? entry.1 = some t.subject ∧ TransitionTable.ofConfig t.subject entry.2 = .ok t

/-- An entry stands for at most one table. -/
theorem Provides.unique {t u : TransitionTable} (ht : Provides entry t) (hu : Provides entry u) :
    t = u := by
  have hsubject : t.subject = u.subject := Option.some.inj (ht.1.symm.trans hu.1)
  have htable := ht.2
  rw [hsubject, hu.2] at htable
  exact (Except.ok.inj htable).symm

theorem configure_eq_ok_iff :
    g.configure entry = .ok g' ↔ ∃ t, Provides entry t ∧ g' = g.set t := by
  unfold configure Provides
  cases hname : Resource.ofText? entry.1 with
  | none => exact iff_of_false (fun h => by cases h) fun ⟨t, h, _⟩ => by cases h.1
  | some subject =>
    show (TransitionTable.ofConfig subject entry.2).map g.set = .ok g' ↔ _
    constructor
    · intro h
      cases htable : TransitionTable.ofConfig subject entry.2 with
      | error e =>
        rw [htable] at h
        cases h
      | ok t =>
        rw [htable] at h
        cases h
        have hsubject := TransitionTable.subject_of_ofConfig htable
        rw [← hsubject] at htable
        exact ⟨t, ⟨congrArg some hsubject.symm, htable⟩, rfl⟩
    · rintro ⟨t, ⟨hsubject, htable⟩, rfl⟩
      rw [Option.some.inj hsubject, htable]
      rfl

theorem table?_set_self (g : Guard) (t : TransitionTable) : (g.set t).table? t.subject = some t :=
  if_pos rfl

theorem table?_set_of_ne (g : Guard) {t : TransitionTable} {r : Resource} (h : r ≠ t.subject) :
    (g.set t).table? r = g.table? r :=
  if_neg h

/-- Entries are put into a guard if each of them provides a table, whatever the guard. -/
theorem foldlM_configure_succeeds_iff :
    (∃ g', entries.foldlM configure g = .ok g') ↔ ∀ entry ∈ entries, ∃ t, Provides entry t := by
  induction entries generalizing g with
  | nil => exact ⟨fun _ entry hentry => absurd hentry List.not_mem_nil, fun _ => ⟨g, rfl⟩⟩
  | cons entry entries ih =>
    rw [List.forall_mem_cons]
    simp only [List.foldlM_cons, bind_eq_ok_iff, configure_eq_ok_iff]
    constructor
    · rintro ⟨g', _, ⟨t, ht, rfl⟩, hrest⟩
      exact ⟨⟨t, ht⟩, ih.1 ⟨g', hrest⟩⟩
    · rintro ⟨⟨t, ht⟩, hrest⟩
      obtain ⟨g', hg'⟩ := ih.2 hrest
      exact ⟨g', g.set t, ⟨t, ht, rfl⟩, hg'⟩

/-- **A guard is made of a configuration if every entry provides a table.** -/
theorem ofConfig_succeeds_iff :
    (∃ g, ofConfig entries = .ok g) ↔ ∀ entry ∈ entries, ∃ t, Provides entry t :=
  foldlM_configure_succeeds_iff

theorem table?_foldlM_configure (h : entries.foldlM configure g = .ok g') (r : Resource) :
    (∃ entry ∈ entries, ∃ t, Provides entry t ∧ t.subject = r ∧ g'.table? r = some t) ∨
      ((∀ entry ∈ entries, Resource.ofText? entry.1 ≠ some r) ∧ g'.table? r = g.table? r) := by
  -- The guard made so far is generalised: later entries may replace what earlier ones put there.
  induction entries generalizing g with
  | nil =>
    cases h
    exact .inr ⟨fun entry hentry => absurd hentry List.not_mem_nil, rfl⟩
  | cons entry entries ih =>
    rw [List.foldlM_cons, bind_eq_ok_iff] at h
    obtain ⟨middle, hfirst, hrest⟩ := h
    obtain ⟨t, ht, rfl⟩ := configure_eq_ok_iff.1 hfirst
    obtain ⟨later, hlater, hfound⟩ | ⟨hnone, hkept⟩ := ih hrest
    · exact .inl ⟨later, List.mem_cons_of_mem _ hlater, hfound⟩
    · by_cases hr : r = t.subject
      · refine .inl ⟨entry, List.mem_cons_self, t, ht, hr.symm, ?_⟩
        rw [hkept, hr, table?_set_self]
      · refine .inr ⟨List.forall_mem_cons.2 ⟨?_, hnone⟩, ?_⟩
        · rw [ht.1]
          exact fun heq => hr (Option.some.inj heq).symm
        · rw [hkept, table?_set_of_ne g hr]

/-- **Each resource has a table that was provided for it**, or is as in the standard guard if
none was. -/
theorem table?_ofConfig (h : ofConfig entries = .ok g) (r : Resource) :
    (∃ entry ∈ entries, ∃ t, Provides entry t ∧ t.subject = r ∧ g.table? r = some t) ∨
      ((∀ entry ∈ entries, Resource.ofText? entry.1 ≠ some r) ∧
        g.table? r = standard.table? r) :=
  table?_foldlM_configure h r

end Guard

end VolunteerAccess
