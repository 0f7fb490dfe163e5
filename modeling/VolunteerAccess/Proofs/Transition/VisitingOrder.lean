import VolunteerAccess.Proofs.Transition.Configuration

/-!
# The order in which a configuration is visited

The tables of a configuration are kept under names, and so are the states of a
table. Neither has an order of its own, so a guard that depends on one may change
between two starts of a program. The states never matter. The tables do in one
case: the archive of interests has two names, and the table that is visited last
counts if both names are used.

- `Guard.Reordered`: two orders in which the entries of one configuration, and the
  states of each table, can be visited.
- `Guard.Agree`: two attempts to make a guard fail both, or give equal tables.
- `Guard.Contested`: both names of the archive are used, for different tables.
- `Guard.ofConfig_orderFree_iff`: **the order matters exactly for contested
  configurations that are accepted**.
-/

namespace VolunteerAccess

/-! ## Orders of states -/

/-- Two forms of a configured table, which list the same states in any order. -/
structure TransitionConfig.Reordered (c d : TransitionConfig) : Prop where
  actor : d.actor = c.actor
  field : d.field = c.field
  allowed : c.allowed.Perm d.allowed

/-- The order of the states does not matter to the table. -/
theorem TransitionTable.ofConfig_congr {subject : Resource} {c d : TransitionConfig}
    (h : c.Reordered d) {t : TransitionTable} :
    ofConfig subject c = .ok t ↔ ofConfig subject d = .ok t := by
  have hpairs : c.pairs.Perm d.pairs := h.allowed.flatMap_right _
  have hnamed : (∀ p ∈ c.pairs, p.1 ≠ "" ∧ p.2 ≠ "") ↔ ∀ p ∈ d.pairs, p.1 ≠ "" ∧ p.2 ≠ "" :=
    forall_congr' fun p => by rw [hpairs.mem_iff]
  rw [ofConfig_eq_ok_iff, ofConfig_eq_ok_iff, h.actor, h.field, hnamed, allowPairs_perm hpairs]

/-! ## Names of resources -/

/-- Only the archive of interests has a second name. -/
theorem Resource.ofText?_eq_some_iff {name : String} {r : Resource} : ofText? name = some r ↔
    name = r.name ∨ (name = "interest-archive" ∧ r = .interestArchive) := by
  unfold ofText?
  split
  · cases r <;> decide
  · cases r <;> decide
  · cases r <;> decide
  · next hinterest harchive halias =>
    refine iff_of_false (fun h => by cases h) ?_
    rintro (rfl | ⟨rfl, -⟩)
    · cases r with
      | interest => exact hinterest rfl
      | interestArchive => exact harchive rfl
    · exact halias rfl

namespace Guard

/-! ## Orders of entries -/

/-- An entry and the same entry with its states in another order. -/
def SameEntry (e v : String × TransitionConfig) : Prop := v.1 = e.1 ∧ e.2.Reordered v.2

/-- Two orders in which a configuration can be visited, with the states of each table. -/
def Reordered (entries visited : List (String × TransitionConfig)) : Prop :=
  ∃ between, entries.Perm between ∧ List.Forall₂ SameEntry between visited

/-- The two outcomes are failures both, or guards with equal tables. -/
def Agree : Except ConfigFailure Guard → Except ConfigFailure Guard → Prop
  | .error _, .error _ => True
  | .ok g, .ok g' => ∀ r, g.table? r = g'.table? r
  | _, _ => False

variable {entries visited : List (String × TransitionConfig)} {g g' : Guard}

theorem SameEntry.provides_iff {e v : String × TransitionConfig} (h : SameEntry e v)
    {t : TransitionTable} : Provides e t ↔ Provides v t := by
  unfold Provides
  rw [h.1, TransitionTable.ofConfig_congr h.2]

theorem Reordered.exists_entry (h : Reordered entries visited) {v : String × TransitionConfig}
    (hv : v ∈ visited) : ∃ e ∈ entries, SameEntry e v := by
  obtain ⟨between, hperm, hsame⟩ := h
  obtain ⟨e, he, hev⟩ := exists_mem_of_forall₂_right hsame hv
  exact ⟨e, hperm.mem_iff.2 he, hev⟩

theorem Reordered.exists_visited (h : Reordered entries visited) {e : String × TransitionConfig}
    (he : e ∈ entries) : ∃ v ∈ visited, SameEntry e v := by
  obtain ⟨between, hperm, hsame⟩ := h
  exact exists_mem_of_forall₂_left hsame (hperm.mem_iff.1 he)

/-- Both orders visit the same names. -/
theorem Reordered.ofText?_ne_iff (h : Reordered entries visited) (r : Resource) :
    (∀ e ∈ entries, Resource.ofText? e.1 ≠ some r) ↔
      ∀ v ∈ visited, Resource.ofText? v.1 ≠ some r := by
  constructor
  · intro hall v hv
    obtain ⟨e, he, hsame⟩ := h.exists_entry hv
    rw [hsame.1]
    exact hall e he
  · intro hall e he
    obtain ⟨v, hv, hsame⟩ := h.exists_visited he
    rw [← hsame.1]
    exact hall v hv

/-- **Whether there is a guard does not depend on the order.** -/
theorem Reordered.succeeds_iff (h : Reordered entries visited) :
    (∃ g, ofConfig entries = .ok g) ↔ ∃ g, ofConfig visited = .ok g := by
  rw [ofConfig_succeeds_iff, ofConfig_succeeds_iff]
  constructor
  · intro hall v hv
    obtain ⟨e, he, hsame⟩ := h.exists_entry hv
    obtain ⟨t, ht⟩ := hall e he
    exact ⟨t, hsame.provides_iff.1 ht⟩
  · intro hall e he
    obtain ⟨v, hv, hsame⟩ := h.exists_visited he
    obtain ⟨t, ht⟩ := hall v hv
    exact ⟨t, hsame.provides_iff.2 ht⟩

theorem fails_iff : (∃ e, ofConfig entries = .error e) ↔ ¬ ∃ g, ofConfig entries = .ok g := by
  cases ofConfig entries <;> simp

/-! ## Entries that meet -/

/-- The archive of interests is configured under both of its names, by different tables. -/
def Contested (entries : List (String × TransitionConfig)) : Prop :=
  ∃ c d t u, ("interest_archive", c) ∈ entries ∧ ("interest-archive", d) ∈ entries ∧
    TransitionTable.ofConfig .interestArchive c = .ok t ∧
      TransitionTable.ofConfig .interestArchive d = .ok u ∧ t ≠ u

/-- Two names of one resource are equal or the two names of the archive. -/
theorem names_of_meeting {name name' : String} {r : Resource}
    (h : Resource.ofText? name = some r) (h' : Resource.ofText? name' = some r) :
    name = name' ∨ r = .interestArchive ∧
      ((name = "interest_archive" ∧ name' = "interest-archive") ∨
        (name = "interest-archive" ∧ name' = "interest_archive")) := by
  rcases Resource.ofText?_eq_some_iff.1 h with rfl | ⟨rfl, rfl⟩ <;>
    rcases Resource.ofText?_eq_some_iff.1 h' with rfl | ⟨rfl, hr⟩
  · exact .inl rfl
  · subst hr
    exact .inr ⟨rfl, .inl ⟨rfl, rfl⟩⟩
  · exact .inr ⟨rfl, .inr ⟨rfl, rfl⟩⟩
  · exact .inl rfl

/-- Where nothing is contested, entries for one resource provide one table. -/
theorem eq_of_not_contested (hnames : (entries.map Prod.fst).Nodup) (h : ¬ Contested entries)
    {e e' : String × TransitionConfig} (he : e ∈ entries) (he' : e' ∈ entries)
    {t t' : TransitionTable} (ht : Provides e t) (ht' : Provides e' t')
    (hsubject : t.subject = t'.subject) : t = t' := by
  obtain ⟨name, c⟩ := e
  obtain ⟨name', c'⟩ := e'
  have hname : Resource.ofText? name = some t.subject := ht.1
  have hname' : Resource.ofText? name' = some t.subject := by
    rw [hsubject]
    exact ht'.1
  have htable : TransitionTable.ofConfig t.subject c = .ok t := ht.2
  have htable' : TransitionTable.ofConfig t.subject c' = .ok t' := by
    rw [hsubject]
    exact ht'.2
  obtain rfl | ⟨harchive, hboth⟩ := names_of_meeting hname hname'
  · -- One name stands for one entry only.
    have hentry : c = c' := Dict.eq_of_mem_of_nodup hnames he he'
    subst hentry
    exact Except.ok.inj (htable.symm.trans htable')
  · rw [harchive] at htable htable'
    by_contra hne
    obtain ⟨rfl, rfl⟩ | ⟨rfl, rfl⟩ := hboth
    · exact h ⟨c, c', t, t', he, he', htable, htable', hne⟩
    · exact h ⟨c', c, t', t, he', he, htable', htable, Ne.symm hne⟩

/-- Where nothing is contested, all orders give equal tables. -/
theorem table?_eq_of_not_contested (hnames : (entries.map Prod.fst).Nodup)
    (hfree : ¬ Contested entries) (h : Reordered entries visited) (hg : ofConfig entries = .ok g)
    (hg' : ofConfig visited = .ok g') (r : Resource) : g.table? r = g'.table? r := by
  obtain ⟨e, he, t, ht, hr, htable⟩ | ⟨hnone, htable⟩ := table?_ofConfig hg r <;>
    obtain ⟨v, hv, t', ht', hr', htable'⟩ | ⟨hnone', htable'⟩ := table?_ofConfig hg' r
  · obtain ⟨e', he', hsame⟩ := h.exists_entry hv
    rw [htable, htable', eq_of_not_contested hnames hfree he he' ht (hsame.provides_iff.2 ht')
      (hr.trans hr'.symm)]
  · have hname := (h.ofText?_ne_iff r).2 hnone' e he
    exact absurd (hr ▸ ht.1) hname
  · have hname := (h.ofText?_ne_iff r).1 hnone v hv
    exact absurd (hr' ▸ ht'.1) hname
  · rw [htable, htable']

/-- The table that is visited last counts. -/
theorem table?_of_last {e : String × TransitionConfig} {t : TransitionTable}
    (h : ofConfig (entries ++ [e]) = .ok g) (ht : Provides e t) :
    g.table? t.subject = some t := by
  unfold ofConfig at h
  rw [List.foldlM_append, bind_eq_ok_iff] at h
  obtain ⟨middle, -, hlast⟩ := h
  rw [List.foldlM_cons, bind_eq_ok_iff] at hlast
  obtain ⟨g', hset, hend⟩ := hlast
  cases hend
  obtain ⟨u, hu, rfl⟩ := configure_eq_ok_iff.1 hset
  rw [ht.unique hu, table?_set_self]

/-- Any entry of a configuration can be visited last. -/
theorem exists_reordered_last {e : String × TransitionConfig} (he : e ∈ entries) :
    ∃ others, Reordered entries (others ++ [e]) := by
  obtain ⟨before, after, rfl⟩ := List.append_of_mem he
  refine ⟨before ++ after, (before ++ after) ++ [e], ?_, List.forall₂_same.2 fun v _ => ?_⟩
  · exact List.perm_middle.trans (List.perm_append_singleton e (before ++ after)).symm
  · exact ⟨rfl, rfl, rfl, List.Perm.refl _⟩

/-- If all orders agree, the table of each entry is that of the guard. -/
theorem table?_of_orderFree (h : ∀ visited, Reordered entries visited →
    Agree (ofConfig entries) (ofConfig visited)) (hg : ofConfig entries = .ok g)
    {e : String × TransitionConfig} (he : e ∈ entries) {t : TransitionTable}
    (ht : Provides e t) : g.table? t.subject = some t := by
  obtain ⟨others, hlast⟩ := exists_reordered_last he
  obtain ⟨g', hg'⟩ := hlast.succeeds_iff.1 ⟨g, hg⟩
  have hagree := h _ hlast
  rw [hg, hg'] at hagree
  have hequal : ∀ r, g.table? r = g'.table? r := hagree
  rw [hequal, table?_of_last hg' ht]

/-! ## When the order matters -/

/-- **The order of a configuration matters exactly if it is accepted and contested.** A failure
in one order is a failure in every order; and the guards of two orders have equal tables, unless
both names of the archive are used for different tables. -/
theorem ofConfig_orderFree_iff {entries : List (String × TransitionConfig)}
    (hnames : (entries.map Prod.fst).Nodup) :
    (∀ visited, Reordered entries visited →
      ((∃ e, ofConfig entries = .error e) ↔ ∃ e, ofConfig visited = .error e)) ∧
    ((∀ visited, Reordered entries visited → Agree (ofConfig entries) (ofConfig visited)) ↔
      (∃ e, ofConfig entries = .error e) ∨ ¬ Contested entries) := by
  have hfails : ∀ visited, Reordered entries visited →
      ((∃ e, ofConfig entries = .error e) ↔ ∃ e, ofConfig visited = .error e) := by
    intro visited h
    rw [fails_iff, fails_iff, h.succeeds_iff]
  refine ⟨hfails, ?_⟩
  cases hentries : ofConfig entries with
  | error e =>
    refine iff_of_true (fun visited h => ?_) (.inl ⟨e, rfl⟩)
    obtain ⟨e', he'⟩ := (hfails visited h).1 ⟨e, hentries⟩
    rw [he']
    trivial
  | ok g =>
    constructor
    · -- Either entry of the archive may be visited last, and the guard has one table for it.
      rintro h
      refine .inr ?_
      rintro ⟨c, d, t, u, hc, hd, ht, hu, hne⟩
      have hsubject := TransitionTable.subject_of_ofConfig ht
      have hsubject' := TransitionTable.subject_of_ofConfig hu
      rw [← hentries] at h
      have htable := table?_of_orderFree h hentries hc
        ⟨congrArg some hsubject.symm, hsubject.symm ▸ ht⟩
      have htable' := table?_of_orderFree h hentries hd
        ⟨congrArg some hsubject'.symm, hsubject'.symm ▸ hu⟩
      rw [hsubject] at htable
      rw [hsubject', htable] at htable'
      exact hne (Option.some.inj htable')
    · rintro (⟨e, he⟩ | hfree) visited h
      · cases he
      · obtain ⟨g', hg'⟩ := h.succeeds_iff.1 ⟨g, hentries⟩
        rw [hg']
        exact table?_eq_of_not_contested hnames hfree h hentries hg'

/-- A table for the archive that permits some pairs to volunteers. -/
def archiveTable (allowed : List (String × List String)) : TransitionConfig :=
  { TransitionConfig.default with allowed }

/-- One table under both names, with its states in two orders. -/
def spelledTwice : List (String × TransitionConfig) :=
  [("interest_archive", archiveTable [("invited", ["declined"]), ("completed", ["cancelled"])]),
    ("interest-archive", archiveTable [("completed", ["cancelled"]), ("invited", ["declined"])])]

/-- Where both names stand for one table, no order can be told from another. -/
theorem ofConfig_orderFree_iff_spelledTwice : (spelledTwice.map Prod.fst).Nodup ∧
    ∀ visited, Reordered spelledTwice visited →
      Agree (ofConfig spelledTwice) (ofConfig visited) := by
  have hnames : (spelledTwice.map Prod.fst).Nodup := by decide
  refine ⟨hnames, (ofConfig_orderFree_iff hnames).2.2 (.inr ?_)⟩
  rintro ⟨c, d, t, u, hc, hd, ht, hu, hne⟩
  have hforms : c.Reordered d := by
    simp only [spelledTwice, List.mem_cons, Prod.mk.injEq, List.not_mem_nil, or_false] at hc hd
    obtain ⟨-, rfl⟩ | ⟨hname, -⟩ := hc
    · obtain ⟨hname, -⟩ | ⟨-, rfl⟩ := hd
      · exact absurd hname (by decide)
      · exact ⟨rfl, rfl, List.Perm.swap _ _ _⟩
    · exact absurd hname (by decide)
  rw [TransitionTable.ofConfig_congr hforms, hu] at ht
  exact hne (Except.ok.inj ht).symm

/-- Two tables for the archive, one under each of its names. -/
def disputed : List (String × TransitionConfig) :=
  [("interest_archive", archiveTable [("completed", ["cancelled"])]),
    ("interest-archive", archiveTable [("completed", ["interested"])])]

/-- The table that is visited last wins: the two orders of one configuration make two guards. -/
theorem not_orderFree_disputed : (disputed.map Prod.fst).Nodup ∧
    Reordered disputed disputed.reverse ∧
      ¬ Agree (ofConfig disputed) (ofConfig disputed.reverse) := by
  refine ⟨by decide, ⟨disputed.reverse, (List.reverse_perm _).symm,
    List.forall₂_same.2 fun v _ => ⟨rfl, rfl, rfl, List.Perm.refl _⟩⟩, fun h => ?_⟩
  have hequal := h .interestArchive
  have hpermits := congrArg
    (fun table : Option TransitionTable => table.any (·.permits "completed" "cancelled")) hequal
  exact absurd hpermits (by decide)

end Guard

end VolunteerAccess
