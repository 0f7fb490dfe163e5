import VolunteerAccess.Proofs.Settings.Marks
import VolunteerAccess.Proofs.Settings.Orders
import VolunteerAccess.Proofs.Settings.Sources

/-!
# Settings overridden by variables

A variable of the environment is laid over the file of settings. It must not touch more than the
setting that it names, since a table of transitions that gets lost would lift a restriction:

- `Settings.ofVariables_eq`: variables that name distinct settings give their values in order.
- `Settings.entry?_assignAll_of_mem`, `Settings.entry?_assignAll_of_not_mem`: what is left of a
  setting after several values, in whatever order they are laid over a table.
- `Settings.Overlaid`: settings that are those of a file wherever no variable names them.
  `Settings.overlaid_of_ofSources`: **they are what a text and variables give, in all orders**.
- `Settings.overrides_confined`: **variables change exactly the settings that they name**, and
  without any the settings of a file are those of its text.
-/

namespace VolunteerAccess.Settings

/-! ## Variables -/

/-- A variable gives a single value. -/
theorem Variable.isTable_value (s : String) : (Variable.value s).isTable = false := by
  unfold Variable.value
  dsimp only
  split
  · rfl
  · split
    · rfl
    · cases Decimal.wholeNumber? s with
      | some n => rfl
      | none => cases Binary64.ofText? s <;> rfl

/-- The names of the settings that variables give. -/
def named (environment : Environment) : List String :=
  environment.entries.filterMap fun v => Variable.key? v.1

/-- The setting that a variable gives, if it gives one, with its value. -/
def given? (v : String × String) : Option (String × Tree) :=
  (Variable.key? v.1).map fun key => (key, Variable.value v.2)

theorem ofVariables_eq_append {vs : List (String × String)} {acc : List (String × Tree)}
    (hnodup : (vs.filterMap fun v => Variable.key? v.1).Nodup)
    (hnew : ∀ e ∈ acc, e.1 ∉ vs.filterMap fun v => Variable.key? v.1) :
    vs.foldl (fun settings v =>
      match Variable.key? v.1 with
      | some key => Entries.put key (Variable.value v.2) settings
      | none => settings) acc = acc ++ vs.filterMap given? := by
  induction vs generalizing acc with
  | nil => simp
  | cons v vs ih =>
    rw [List.foldl_cons]
    cases hkey : Variable.key? v.1 with
    | none =>
      simp only [List.filterMap_cons, hkey] at hnodup hnew
      simp [ih hnodup hnew, given?, hkey]
    | some key =>
      simp only [List.filterMap_cons, hkey, List.nodup_cons, List.mem_cons, not_or] at hnodup hnew
      dsimp only
      rw [Entries.put_eq_append _ fun e he => (hnew e he).1, ih hnodup.2]
      · simp [given?, hkey]
      · intro e he
        rcases List.mem_append.1 he with he | he
        · exact (hnew e he).2
        · obtain rfl := List.mem_singleton.1 he
          exact hnodup.1

/-- Variables that name distinct settings give these in order. -/
theorem ofVariables_eq {environment : Environment} (h : (named environment).Nodup) :
    ofVariables environment = environment.entries.filterMap given? :=
  ofVariables_eq_append h fun _ he => absurd he List.not_mem_nil

theorem named_eq_keys (environment : Environment) :
    named environment = (environment.entries.filterMap given?).map Prod.fst := by
  unfold named
  rw [List.map_filterMap]
  refine List.filterMap_congr fun v _ => ?_
  unfold given?
  cases Variable.key? v.1 <;> rfl

/-! ## Several values -/

/-- A value that is laid over a single setting. -/
structure Overrides (v : String × Tree) : Prop where
  setting : ∃ x : Setting, v.1 = x.path
  single : v.2.isTable = false

section
variable {values : List (String × Tree)} {root : List (String × Tree)}

theorem tabular_assignAll (hvalues : ∀ v ∈ values, Overrides v) (h : Tabular root) :
    Tabular (assignAll values root) := by
  induction values generalizing root with
  | nil => exact h
  | cons v values ih =>
    obtain ⟨⟨⟨x, hx⟩, hsingle⟩, hrest⟩ := List.forall_mem_cons.1 hvalues
    show Tabular (assignAll values (assign v.1 v.2 root))
    rw [hx]
    exact ih hrest (h.assign hsingle x)

theorem lookup_transitions_assignAll (hvalues : ∀ v ∈ values, Overrides v) :
    (assignAll values root).lookup "transitions" = root.lookup "transitions" := by
  induction values generalizing root with
  | nil => rfl
  | cons v values ih =>
    obtain ⟨⟨⟨x, hx⟩, hsingle⟩, hrest⟩ := List.forall_mem_cons.1 hvalues
    show (assignAll values (assign v.1 v.2 root)).lookup "transitions" = _
    rw [ih hrest, hx, lookup_assign_of_ne hsingle x root x.home_ne_transitions.symm]

/-- A setting that no value is for is left alone. -/
theorem entry?_assignAll_of_not_mem (hvalues : ∀ v ∈ values, Overrides v) {x : Setting}
    (hx : x.path ∉ values.map Prod.fst) : x.entry? (assignAll values root) = x.entry? root := by
  induction values generalizing root with
  | nil => rfl
  | cons v values ih =>
    obtain ⟨⟨⟨y, hy⟩, hsingle⟩, hrest⟩ := List.forall_mem_cons.1 hvalues
    rw [List.map_cons, List.mem_cons, not_or] at hx
    have hne : x ≠ y := by
      rintro rfl
      exact hx.1 hy.symm
    show x.entry? (assignAll values (assign v.1 v.2 root)) = _
    rw [ih hrest hx.2, hy, entry?_assign_of_ne hsingle y root hne]

/-- A setting that one value is for has this value, whatever is laid over other settings after
it. -/
theorem entry?_assignAll_of_mem (hvalues : ∀ v ∈ values, Overrides v)
    (hnodup : (values.map Prod.fst).Nodup) {x : Setting} {t : Tree} (hmem : (x.path, t) ∈ values) :
    x.entry? (assignAll values root) = some t := by
  induction values generalizing root with
  | nil => exact absurd hmem List.not_mem_nil
  | cons v values ih =>
    obtain ⟨⟨-, hsingle⟩, hrest⟩ := List.forall_mem_cons.1 hvalues
    rw [List.map_cons, List.nodup_cons] at hnodup
    show x.entry? (assignAll values (assign v.1 v.2 root)) = _
    rcases List.mem_cons.1 hmem with rfl | hmem
    · rw [entry?_assignAll_of_not_mem hrest hnodup.1, entry?_assign_self hsingle x root]
    · exact ih hrest hnodup.2 hmem

end

/-! ## Files and variables -/

/-- Variables that name single settings, each at most once. -/
structure Overriding (environment : Environment) : Prop where
  distinct : (named environment).Nodup
  single : ∀ key ∈ named environment, ∃ x : Setting, key = x.path

/-- Each of them gives a value that is laid over a single setting. -/
theorem Overriding.overrides {environment : Environment} (h : Overriding environment)
    {v : String × Tree} (hv : v ∈ ofVariables environment) : Overrides v := by
  rw [ofVariables_eq h.distinct] at hv
  have hkey : v.1 ∈ named environment := named_eq_keys environment ▸ List.mem_map_of_mem hv
  refine ⟨h.single v.1 hkey, ?_⟩
  obtain ⟨w, -, hw⟩ := List.mem_filterMap.1 hv
  obtain ⟨key, -, rfl⟩ := Option.map_eq_some_iff.1 hw
  exact Variable.isTable_value w.2

/-- Settings that are those of an outermost table wherever no variable names them. -/
structure Overlaid (environment : Environment) (root : List (String × Tree))
    (settings : Settings) : Prop where
  given : ∀ (x : Setting), ∀ v ∈ environment.entries, Variable.key? v.1 = some x.path →
    x.Reads (some (Variable.value v.2)) settings
  kept : ∀ x : Setting, x.path ∉ named environment → x.Reads (x.entry? root) settings
  transitions : Document.orDefault default.transitions (Document.dict? TransitionConfig.decode?)
    (root.lookup "transitions") = some settings.transitions

section
variable {environment : Environment} {root root' : List (String × Tree)} {settings : Settings}

/-- They are those of any table that is alike. -/
theorem Overlaid.congr (h : Overlaid environment root settings)
    (halike : Alike (.table root) (.table root')) : Overlaid environment root' settings where
  given := h.given
  kept x hx := (x.reads_congr (x.rel_entry? halike)).1 (h.kept x hx)
  transitions :=
    respects_transitionConfig.dict?.orDefault _ (halike.lookup "transitions") ▸ h.transitions

theorem Tabular.congr (h : Tabular root') (halike : Alike (.table root) (.table root')) :
    Tabular root := by
  intro name hname
  have hsection := h name hname
  have hrel := halike.lookup name
  generalize root.lookup name = v at hrel ⊢
  generalize root'.lookup name = w at hrel hsection
  cases hrel with
  | none => rfl
  | some halike =>
    rw [Option.all_some, halike.isTable_eq]
    exact hsection

/-- Where there are settings there is a table under the variables. -/
theorem exists_rootIn? {s : String} {file given : Order}
    (h : ofSources file given s environment = .ok settings) :
    ∃ root, rootIn? file s = some root := by
  obtain ⟨entries, hentries, -⟩ := ofSources_eq_ok_iff.1 h
  exact ⟨_, congrArg (Option.map fun entries => assignAll (file.arrange entries) []) hentries⟩

/-- **What a text and variables give is the text wherever no variable names a setting**, in whatever
orders the entries of the text and the variables are laid. -/
theorem overlaid_of_ofSources {s : String} {file given : Order} (hroot : rootIn? file s = some root)
    (htabular : Tabular root) (hover : Overriding environment)
    (h : ofSources file given s environment = .ok settings) :
    Overlaid environment root settings := by
  obtain ⟨entries, hentries, hvalues⟩ := ofSources_eq_ok_iff.1 h
  obtain ⟨entries', hentries', rfl⟩ := Option.map_eq_some_iff.1 hroot
  obtain rfl : entries = entries' := Option.some.inj (hentries.symm.trans hentries')
  have hdecode := (ofEntries_eq_ok_iff.1 (ofValues_eq_ok_iff.1 hvalues).2).1
  have hperm := given.perm (ofVariables environment)
  have hvariables := ofVariables_eq hover.distinct
  have hkeys : ((given.arrange (ofVariables environment)).map Prod.fst).Perm
      (named environment) := by
    rw [named_eq_keys, ← hvariables]
    exact hperm.map Prod.fst
  have hoverrides : ∀ v ∈ given.arrange (ofVariables environment), Overrides v := fun v hv =>
    hover.overrides (hperm.mem_iff.1 hv)
  have hnodup := hkeys.nodup_iff.2 hover.distinct
  -- The variables come after the file, and so they are laid over its table.
  have hlaid : assignAll (file.arrange entries ++ given.arrange (ofVariables environment)) [] =
      assignAll (given.arrange (ofVariables environment)) (assignAll (file.arrange entries) []) :=
    List.foldl_append
  rw [hlaid] at hdecode
  have hreads := reads_of_decode? (tabular_assignAll hoverrides htabular) hdecode
  obtain ⟨-, htransitions, -⟩ := decode?_table hdecode
  rw [lookup_transitions_assignAll hoverrides] at htransitions
  refine ⟨fun x v hv hkey => ?_, fun x hx => ?_, htransitions⟩
  · have hmem : (x.path, Variable.value v.2) ∈ given.arrange (ofVariables environment) := by
      rw [hperm.mem_iff, hvariables]
      exact List.mem_filterMap.2 ⟨v, hv, by unfold given?; rw [hkey]; rfl⟩
    rw [← entry?_assignAll_of_mem hoverrides hnodup hmem]
    exact hreads x
  · rw [← hkeys.mem_iff] at hx
    rw [← entry?_assignAll_of_not_mem hoverrides hx]
    exact hreads x

/-- Without variables a text is alone, whatever else there is in the environment. -/
theorem ofSources_of_named_eq_nil (h : named environment = []) (file given : Order) (s : String) :
    ofSources file given s environment = ofTextIn file s := by
  have hvariables : ofVariables environment = [] := by
    rw [ofVariables_eq (h ▸ List.nodup_nil), ← List.map_eq_nil_iff, ← named_eq_keys, h]
  have hnone : given.arrange [] = [] := (given.perm []).eq_nil
  unfold ofTextIn ofSources
  rw [hvariables, hnone]
  rfl

end

/-- **Variables change exactly the settings that they name.** The settings of a file, found in any
way, are its own wherever no variable names them, in whatever orders the entries of the file and
the variables are laid; without variables they are those of its text. The text is laid in the order
of the file, or its entries stand apart and the order is any. It loses a mark of the byte order as a
file, and this tells only if it has two. -/
theorem overrides_confined {h : Host Id} {asked : Option String} {path contents : String}
    (hpath : path? h asked = Except.ok (some path)) (hregular : h.isRegular path = true)
    (hread : h.read path = Except.ok contents) (file given text : Order)
    (horder : text = file ∨ StandApart (Text.dropByteOrderMark contents)) :
    (∀ root settings, rootIn? text (Text.dropByteOrderMark contents) = some root → Tabular root →
      Overriding h.environment → loadIn file given h asked = Except.ok settings →
        Overlaid h.environment root settings) ∧
    (named h.environment = [] →
      SameOutcome (loadIn file given h asked) (ofTextIn text (Text.dropByteOrderMark contents)) ∧
        (¬ Text.TwiceMarked contents →
          SameOutcome (loadIn file given h asked) (ofTextIn text contents))) := by
  have hload : loadIn file given h asked =
      ofSources file given (Text.dropByteOrderMark contents) h.environment :=
    loadIn_of_file hpath hregular hread
  refine ⟨fun root settings hroot htabular hover hsettings => ?_, fun hnone => ?_⟩
  · rw [hload] at hsettings
    obtain ⟨root', hroot'⟩ := exists_rootIn? hsettings
    have halike := alike_of_rootIn? horder hroot' hroot
    exact (overlaid_of_ofSources hroot' (htabular.congr halike) hover hsettings).congr halike
  · have halone : loadIn file given h asked = ofTextIn text (Text.dropByteOrderMark contents) := by
      rw [hload, ofSources_of_named_eq_nil hnone, ofTextIn_congr horder]
    refine ⟨congrArg _ halone, fun hmarks => congrArg _ ?_⟩
    rw [halone]
    unfold ofTextIn ofSources
    rw [entriesOfText?_dropByteOrderMark hmarks]

/-- A machine with one file of settings in the working directory. -/
def machine (contents : String) (environment : Environment) : Host Id where
  read path := if path = "vly-ability.toml" then .ok contents else .error .notFound
  isRegular path := path == "vly-ability.toml"
  environment
  accountHome := none

/-- The order in which the value that is written last comes first. -/
def Order.reversed : Order := ⟨List.reverse, List.reverse_perm⟩

/-- A file with a section of which one entry has a key of its own, and with a table of
transitions. -/
def configured : String :=
  "\"logging.format\" = \"json\"\n[logging]\nlevel = \"warn\"\n[transitions.interest]\n"

/-- A variable for another entry of the same section, and one that gives no setting. -/
def overriding : Environment := ⟨[("HOME", "/"), ("VLY_ABILITY_LOGGING__LEVEL", "debug")]⟩

theorem overrides_confined_debugging : StandApart (Text.dropByteOrderMark configured) ∧
    (∃ root settings, rootIn? .written (Text.dropByteOrderMark configured) = some root ∧
      Tabular root ∧ Overriding overriding ∧
      loadIn .reversed .reversed (machine configured overriding) (some "vly-ability.toml") =
        Except.ok settings ∧
      settings.logging = { level := "debug", format := .json } ∧
      settings.transitions.keys = ["interest"] ∧ Overlaid overriding root settings) ∧
    named .empty = [] ∧ ¬ Text.TwiceMarked configured ∧
      SameOutcome (loadIn .reversed .written (machine configured .empty) (some "vly-ability.toml"))
        (ofTextIn .written configured) := by
  have hpath (environment : Environment) :
      path? (machine configured environment) (some "vly-ability.toml") =
        Except.ok (some "vly-ability.toml") := rfl
  have hapart : StandApart (Text.dropByteOrderMark configured) := by decide +kernel
  have hnamed : named overriding = ["logging.level"] := by decide +kernel
  have hroot : (rootIn? .written (Text.dropByteOrderMark configured)).any
      (fun root => Tabular root) := by
    decide +kernel
  have hload : (loadIn .reversed .reversed (machine configured overriding)
      (some "vly-ability.toml")).toOption.any
        (fun settings => settings.logging = { level := "debug", format := .json } ∧
          settings.transitions.keys = ["interest"]) := by
    decide +kernel
  have hmarks : ¬ Text.TwiceMarked configured := by
    rintro ⟨cs, hcs, -⟩
    cases hcs
  have hover : Overriding overriding := by
    constructor
    · rw [hnamed]
      exact List.pairwise_singleton ..
    · rw [hnamed, List.forall_mem_singleton]
      exact ⟨.level, rfl⟩
  obtain ⟨root, hroot, htabular⟩ := (Option.any_eq_true _ _).1 hroot
  obtain ⟨settings, hsettings, hexpected⟩ := (Option.any_eq_true _ _).1 hload
  obtain ⟨hlogging, htransitions⟩ := of_decide_eq_true hexpected
  have htabular : Tabular root := of_decide_eq_true htabular
  have hsettings : loadIn .reversed .reversed (machine configured overriding)
      (some "vly-ability.toml") = Except.ok settings := toOption_eq_some_iff.1 hsettings
  obtain ⟨hoverlaid, -⟩ :=
    overrides_confined (hpath overriding) rfl rfl .reversed .reversed .written (.inr hapart)
  obtain ⟨-, halone⟩ :=
    overrides_confined (hpath .empty) rfl rfl .reversed .written .written (.inr hapart)
  exact ⟨hapart, ⟨root, settings, hroot, htabular, hover, hsettings, hlogging, htransitions,
    hoverlaid root settings hroot htabular hover hsettings⟩, rfl, hmarks, (halone rfl).2 hmarks⟩

/-- A text that starts with two marks of the byte order. -/
def marked : String := "\ufeff\ufefflogging.level = \"warn\"\n"

/-- A text that sets a setting twice, under a key of its own and in its section. -/
def overlapping : String := "\"logging.level\" = \"warn\"\n[logging]\nlevel = \"debug\"\n"

/-- A file with two marks is read, and its text is refused. A file that sets a setting twice is read
in one way, and its text may be read in another. -/
theorem not_read_alike : named .empty = [] ∧
    ¬ SameOutcome (load (machine marked .empty) (some "vly-ability.toml")) (ofText marked) ∧
    (rootIn? .written overlapping).any (fun root => Tabular root) = true ∧
    (rootIn? .reversed overlapping).any (fun root => Tabular root) = true ∧
    ¬ SameOutcome (loadIn .reversed .written (machine overlapping .empty) (some "vly-ability.toml"))
      (ofTextIn .written overlapping) := by
  have hread : ((load (machine marked .empty) (some "vly-ability.toml")).toOption.map
      fun settings => settings.logging.level) = some "warn" := by
    decide +kernel
  have hrefused : ((ofText marked).toOption.map fun settings => settings.logging.level) = none := by
    decide +kernel
  have hkey : ((loadIn .reversed .written (machine overlapping .empty)
      (some "vly-ability.toml")).toOption.map fun settings => settings.logging.level) =
        some "warn" := by
    decide +kernel
  have hsection : ((ofTextIn .written overlapping).toOption.map
      fun settings => settings.logging.level) = some "debug" := by
    decide +kernel
  refine ⟨rfl, fun hsame => ?_, by decide +kernel, by decide +kernel, fun hsame => ?_⟩
  · rw [hsame.toOption_eq, hrefused] at hread
    cases hread
  · rw [hsame.toOption_eq, hsection] at hkey
    exact absurd hkey (by decide)

end VolunteerAccess.Settings
