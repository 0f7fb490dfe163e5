import VolunteerAccess.Settings

/-!
# Settings one by one

Settings are decoded as a whole, from a table of sections. A value that is laid over a single
setting must be seen by this setting alone:

- `Settings.Setting`: the settings that are one entry of a section. `Settings.Setting.Reads`: what
  each of them is decoded from.
- `Settings.Tabular`: an outermost table whose sections are tables. A list may stand for a section
  as well, but it loses its items as soon as an entry is put into it.
- `Settings.reads_of_decode?`: **decoding such a table is decoding its settings one by one**.
- `Settings.entry?_assign_self`, `Settings.entry?_assign_of_ne`: what a single value that is laid
  over a setting changes, and what it leaves alone.
-/

namespace VolunteerAccess.Settings

/-! ## Single settings -/

/-- A setting that is one entry of a section. -/
inductive Setting where
  | concurrentBuilders
  | fixtures
  | level
  | format
deriving DecidableEq, Repr

namespace Setting

/-- The name of the section. -/
def home : Setting → String
  | .concurrentBuilders => "engine"
  | .fixtures => "store"
  | .level | .format => "logging"

/-- The name of the setting in its section. -/
def name : Setting → String
  | .concurrentBuilders => "concurrent_builders"
  | .fixtures => "fixtures"
  | .level => "level"
  | .format => "format"

/-- The key of the setting. -/
def path (x : Setting) : String := x.home ++ "." ++ x.name

/-- Whether the setting is what a value stands for, or the default if there is no value. -/
def Reads : Setting → Option Tree → Settings → Prop
  | .concurrentBuilders, v, settings =>
    Document.orDefault default.concurrentBuilders Document.flag? v =
      some settings.concurrentBuilders
  | .fixtures, v, settings => Document.optional Document.text? v = some settings.fixtures
  | .level, v, settings =>
    Document.orDefault default.logging.level Document.text? v = some settings.logging.level
  | .format, v, settings =>
    Document.orDefault default.logging.format LogFormat.decode? v = some settings.logging.format

/-- What an outermost table has for a setting. -/
def entry? (x : Setting) (root : List (String × Tree)) : Option Tree :=
  (root.lookup x.home).bind fun v => v.entries.lookup x.name

theorem ofText_path (x : Setting) :
    Key.ofText x.path = { root := x.home, steps := [.entry x.name] } := by
  cases x <;> rfl

theorem entry?_of_none {x : Setting} {root : List (String × Tree)}
    (h : root.lookup x.home = none) : x.entry? root = none := by
  unfold entry?
  rw [h]
  rfl

theorem entry?_of_table {x : Setting} {root es : List (String × Tree)}
    (h : root.lookup x.home = some (.table es)) : x.entry? root = es.lookup x.name := by
  unfold entry?
  rw [h]
  rfl

theorem eq_of_home_of_name {x y : Setting} (hhome : x.home = y.home) (hname : x.name = y.name) :
    x = y := by
  revert hhome hname
  cases x <;> cases y <;> decide

theorem home_ne_transitions (x : Setting) : x.home ≠ "transitions" := by
  cases x <;> decide

end Setting

/-! ## Sections -/

/-- The names of the entries of an outermost table that make up settings. -/
def sections : List String := ["engine", "transitions", "store", "logging"]

def Tree.isTable : Tree → Bool
  | .table _ => true
  | _ => false

/-- An outermost table all of whose sections are tables, as far as there are any. -/
def Tabular (root : List (String × Tree)) : Prop :=
  ∀ name ∈ sections, (root.lookup name).all Tree.isTable = true

instance (root : List (String × Tree)) : Decidable (Tabular root) :=
  inferInstanceAs (Decidable (∀ name ∈ sections, (root.lookup name).all Tree.isTable = true))

theorem Tree.isTable_iff {v : Tree} : v.isTable = true ↔ ∃ es, v = .table es := by
  cases v <;> simp [isTable]

theorem Setting.home_mem_sections (x : Setting) : x.home ∈ sections := by
  cases x <;> decide

variable {root : List (String × Tree)} {settings : Settings}

/-- A section is left to the default, or it is a table. -/
theorem Tabular.cases {α : Type} {d a : α} {read : Tree → Option α} {name : String}
    (h : Tabular root) (hname : name ∈ sections)
    (hread : Document.orDefault d read (root.lookup name) = some a) :
    (root.lookup name = none ∧ d = a) ∨
      ∃ es, root.lookup name = some (.table es) ∧ read (.table es) = some a := by
  cases hv : root.lookup name with
  | none =>
    rw [hv] at hread
    exact .inl ⟨rfl, Option.some.inj hread⟩
  | some v =>
    have htable := h name hname
    rw [hv] at htable hread
    obtain ⟨es, rfl⟩ := Tree.isTable_iff.1 htable
    exact .inr ⟨es, rfl, hread⟩

/-- The fields of a table are its entries. -/
theorem fields?_table {names : List String} {es : List (String × Tree)}
    {field : String → Option Tree} (h : Document.fields? names (Tree.table es) = some field) :
    field = fun name => es.lookup name := by
  have htable : Document.fields? names (Tree.table es) =
      if Document.repeats names es then none else some fun name => es.lookup name := rfl
  rw [htable] at h
  split at h
  · cases h
  · exact (Option.some.inj h).symm

theorem decodeEngine?_table {es : List (String × Tree)} {b : Bool}
    (h : decodeEngine? (Tree.table es) = some b) :
    Document.orDefault default.concurrentBuilders Document.flag?
      (es.lookup "concurrent_builders") = some b := by
  obtain ⟨field, hfield, hread⟩ := Option.bind_eq_some_iff.1 h
  rw [fields?_table hfield] at hread
  exact hread

theorem decodeStore?_table {es : List (String × Tree)} {fixtures : Option String}
    (h : decodeStore? (Tree.table es) = some fixtures) :
    Document.optional Document.text? (es.lookup "fixtures") = some fixtures := by
  obtain ⟨field, hfield, hread⟩ := Option.bind_eq_some_iff.1 h
  rw [fields?_table hfield] at hread
  exact hread

theorem decodeLogging?_table {es : List (String × Tree)} {logging : Logging}
    (h : decodeLogging? (Tree.table es) = some logging) :
    Document.orDefault default.logging.level Document.text? (es.lookup "level") =
        some logging.level ∧
      Document.orDefault default.logging.format LogFormat.decode? (es.lookup "format") =
        some logging.format := by
  obtain ⟨field, hfield, hread⟩ := Option.bind_eq_some_iff.1 h
  obtain ⟨level, hlevel, hread⟩ := Option.bind_eq_some_iff.1 hread
  obtain ⟨format, hformat, heq⟩ := Option.bind_eq_some_iff.1 hread
  cases heq
  rw [fields?_table hfield] at hlevel hformat
  exact ⟨hlevel, hformat⟩

/-- Settings in a table, section by section. -/
theorem decode?_table (h : decode? (Tree.table root) = some settings) :
    Document.orDefault default.concurrentBuilders decodeEngine? (root.lookup "engine") =
        some settings.concurrentBuilders ∧
      Document.orDefault default.transitions (Document.dict? TransitionConfig.decode?)
        (root.lookup "transitions") = some settings.transitions ∧
      Document.orDefault default.fixtures decodeStore? (root.lookup "store") =
        some settings.fixtures ∧
      Document.orDefault default.logging decodeLogging? (root.lookup "logging") =
        some settings.logging := by
  obtain ⟨field, hfield, hread⟩ := Option.bind_eq_some_iff.1 h
  obtain ⟨concurrent, hengine, hread⟩ := Option.bind_eq_some_iff.1 hread
  obtain ⟨transitions, htransitions, hread⟩ := Option.bind_eq_some_iff.1 hread
  obtain ⟨fixtures, hstore, hread⟩ := Option.bind_eq_some_iff.1 hread
  obtain ⟨logging, hlogging, heq⟩ := Option.bind_eq_some_iff.1 hread
  cases heq
  rw [fields?_table hfield] at hengine htransitions hstore hlogging
  exact ⟨hengine, htransitions, hstore, hlogging⟩

/-- **Settings in tables are read setting by setting.** -/
theorem reads_of_decode? (htabular : Tabular root)
    (h : decode? (Tree.table root) = some settings) (x : Setting) :
    x.Reads (x.entry? root) settings := by
  obtain ⟨hengine, -, hstore, hlogging⟩ := decode?_table h
  have hhome := x.home_mem_sections
  cases x with
  | concurrentBuilders =>
    obtain ⟨hnone, hdefault⟩ | ⟨es, htable, hread⟩ := htabular.cases hhome hengine
    · rw [Setting.entry?_of_none hnone]
      exact congrArg some hdefault
    · rw [Setting.entry?_of_table htable]
      exact decodeEngine?_table hread
  | fixtures =>
    obtain ⟨hnone, hdefault⟩ | ⟨es, htable, hread⟩ := htabular.cases hhome hstore
    · rw [Setting.entry?_of_none hnone]
      exact congrArg some hdefault
    · rw [Setting.entry?_of_table htable]
      exact decodeStore?_table hread
  | level =>
    obtain ⟨hnone, hdefault⟩ | ⟨es, htable, hread⟩ := htabular.cases hhome hlogging
    · rw [Setting.entry?_of_none hnone]
      exact congrArg (fun logging => some logging.level) hdefault
    · rw [Setting.entry?_of_table htable]
      exact (decodeLogging?_table hread).1
  | format =>
    obtain ⟨hnone, hdefault⟩ | ⟨es, htable, hread⟩ := htabular.cases hhome hlogging
    · rw [Setting.entry?_of_none hnone]
      exact congrArg (fun logging => some logging.format) hdefault
    · rw [Setting.entry?_of_table htable]
      exact (decodeLogging?_table hread).2

/-! ## Laying values over settings -/

/-- A value that is no table takes the place of what was there. -/
theorem Tree.merge_of_not_isTable {v : Tree} (hv : v.isTable = false) (t : Tree) :
    v.merge t = v := by
  cases v with
  | table es => cases hv
  | _ => rfl

section
variable {v : Tree} (hv : v.isTable = false) (x : Setting) (root : List (String × Tree))
include hv

/-- A value laid over a setting is put into its section. -/
theorem assign_path : assign x.path v root =
    Entries.put x.home
      (.table (Entries.put x.name v ((root.lookup x.home).getD .absent).entries)) root := by
  unfold assign
  rw [x.ofText_path]
  show Entries.put x.home (.table (Entries.put x.name (v.merge _) _)) root = _
  rw [Tree.merge_of_not_isTable hv]

theorem lookup_assign_self : (assign x.path v root).lookup x.home =
    some (.table (Entries.put x.name v ((root.lookup x.home).getD .absent).entries)) := by
  rw [assign_path hv, Entries.lookup_put_self]

theorem lookup_assign_of_ne {name : String} (h : name ≠ x.home) :
    (assign x.path v root).lookup name = root.lookup name := by
  rw [assign_path hv, Entries.lookup_put_of_ne _ h]

theorem entry?_assign_self : x.entry? (assign x.path v root) = some v := by
  rw [Setting.entry?_of_table (lookup_assign_self hv x root), Entries.lookup_put_self]

/-- **No other setting changes**, be it in the same section or in another one. -/
theorem entry?_assign_of_ne {y : Setting} (h : y ≠ x) :
    y.entry? (assign x.path v root) = y.entry? root := by
  by_cases hhome : y.home = x.home
  · have hname : y.name ≠ x.name := fun hname => h (Setting.eq_of_home_of_name hhome hname)
    have hself := lookup_assign_self hv x root
    rw [← hhome] at hself
    rw [Setting.entry?_of_table hself, Entries.lookup_put_of_ne _ hname]
    unfold Setting.entry?
    cases root.lookup y.home <;> rfl
  · unfold Setting.entry?
    rw [lookup_assign_of_ne hv x root hhome]

variable {root} in
theorem Tabular.assign (h : Tabular root) : Tabular (assign x.path v root) := by
  intro name hname
  by_cases hhome : name = x.home
  · rw [hhome, lookup_assign_self hv]
    rfl
  · rw [lookup_assign_of_ne hv x root hhome]
    exact h name hname

end

end VolunteerAccess.Settings
