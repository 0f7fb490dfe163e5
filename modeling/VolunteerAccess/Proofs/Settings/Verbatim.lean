import VolunteerAccess.Proofs.Decimal.Texts
import VolunteerAccess.Proofs.Settings.Overrides

/-!
# Text settings in variables

A variable of the environment has a text, which counts as a truth value or as a number if it looks
like one. A setting that wants a text then gets the text of this value:

- `Settings.Variable.Counts`: what a text counts as, and how this is shown.
  `Settings.Variable.shown`: what a text setting gets from the text of a variable.
- `Settings.Variable.Written`: texts that are written as their values are shown.
  `Settings.Variable.shown_eq_iff`: **these are the texts that arrive as they are**.
  `Settings.Variable.written_of_foreign`: every path with a slash in it is one of them.
- `Settings.text_arrives_shown`: a path of fixtures or a log level that the only variable gives, and
  when it is the one that was given.
-/

namespace VolunteerAccess.Settings

namespace Variable

variable {s : String}

/-! ## Values and their texts -/

/-- Whether a text names a truth value, in any case. -/
def NamesFlag (s : String) : Prop :=
  Text.lowerAscii s = "true" ∨ Text.lowerAscii s = "false"

/-- A text with something else than letters in it names no truth value. -/
theorem not_namesFlag_of_mem {c : Char} (hc : c ∈ s.toList) (hletter : c.isAlpha = false) :
    ¬ NamesFlag s :=
  not_or.2 ⟨Text.lowerAscii_ne_of_mem hc hletter rfl, Text.lowerAscii_ne_of_mem hc hletter rfl⟩

/-- What a text counts as, and how this is shown as a text. -/
inductive Counts (s : String) : Tree → String → Prop where
  | yes (hname : Text.lowerAscii s = "true") : Counts s (.bool true) "true"
  | no (hname : Text.lowerAscii s = "false") : Counts s (.bool false) "false"
  | whole {n : Int} (hflag : ¬ NamesFlag s) (hwhole : Decimal.wholeNumber? s = some n) :
    Counts s (.integer n) (toString n)
  | real {x : Binary64} (hflag : ¬ NamesFlag s) (hwhole : Decimal.wholeNumber? s = none)
      (hreal : Binary64.ofText? s = some x) : Counts s (.real x) x.display
  | plain (hflag : ¬ NamesFlag s) (hwhole : Decimal.wholeNumber? s = none)
      (hreal : Binary64.ofText? s = none) : Counts s (.text s) s

theorem exists_counts (s : String) : ∃ v t, Counts s v t := by
  by_cases htrue : Text.lowerAscii s = "true"
  · exact ⟨_, _, .yes htrue⟩
  by_cases hfalse : Text.lowerAscii s = "false"
  · exact ⟨_, _, .no hfalse⟩
  have hflag : ¬ NamesFlag s := not_or.2 ⟨htrue, hfalse⟩
  cases hwhole : Decimal.wholeNumber? s with
  | some n => exact ⟨_, _, .whole hflag hwhole⟩
  | none =>
    cases hreal : Binary64.ofText? s with
    | some x => exact ⟨_, _, .real hflag hwhole hreal⟩
    | none => exact ⟨_, _, .plain hflag hwhole hreal⟩

/-- The value of a text that names no truth value is left to the readers of numbers. -/
theorem value_of_not_namesFlag (h : ¬ NamesFlag s) : value s =
    match Decimal.wholeNumber? s with
    | some n => .integer n
    | none =>
      match Binary64.ofText? s with
      | some x => .real x
      | none => .text s := by
  obtain ⟨htrue, hfalse⟩ := not_or.1 h
  unfold value
  dsimp only
  exact (if_neg (mt beq_iff_eq.1 htrue)).trans (if_neg (mt beq_iff_eq.1 hfalse))

/-- What a text setting gets from the text of a variable. -/
def shown (s : String) : String := (Document.text? (value s)).getD s

section
variable {v : Tree} {t : String}

theorem Counts.value_eq (h : Counts s v t) : value s = v := by
  cases h with
  | yes hname =>
    unfold value
    rw [hname]
    rfl
  | no hname =>
    unfold value
    rw [hname]
    rfl
  | whole hflag hwhole => rw [value_of_not_namesFlag hflag, hwhole]
  | real hflag hwhole hreal =>
    rw [value_of_not_namesFlag hflag, hwhole]
    dsimp only
    rw [hreal]
  | plain hflag hwhole hreal =>
    rw [value_of_not_namesFlag hflag, hwhole]
    dsimp only
    rw [hreal]

theorem Counts.text?_eq (h : Counts s v t) : Document.text? v = some t := by
  cases h <;> rfl

theorem Counts.shown_eq (h : Counts s v t) : shown s = t := by
  unfold shown
  rw [h.value_eq, h.text?_eq]
  rfl

end

/-- The value of a variable is a text to every setting that wants one. -/
theorem text?_value (s : String) : Document.text? (value s) = some (shown s) := by
  obtain ⟨v, t, hcounts⟩ := exists_counts s
  rw [hcounts.value_eq, hcounts.shown_eq]
  exact hcounts.text?_eq

/-- No text becomes blank. -/
theorem isBlank_shown (h : Text.isBlank s = false) : Text.isBlank (shown s) = false := by
  obtain ⟨v, t, hcounts⟩ := exists_counts s
  rw [hcounts.shown_eq]
  cases hcounts with
  | yes => rfl
  | no => rfl
  | whole => exact Decimal.isBlank_toString _
  | real => exact Binary64.isBlank_display _
  | plain => exact h

/-! ## Texts that arrive as they are -/

/-- A text that is written as its value is shown. -/
inductive Written : String → Prop where
  | yes : Written "true"
  | no : Written "false"
  | whole {n : Int} (hfits : Decimal.isSigned64 n = true) : Written (toString n)
  | real {s : String} {x : Binary64} (hflag : ¬ NamesFlag s)
      (hwhole : Decimal.wholeNumber? s = none) (hreal : Binary64.ofText? s = some x)
      (hdisplay : x.display = s) : Written s
  | plain {s : String} (hflag : ¬ NamesFlag s) (hwhole : Decimal.wholeNumber? s = none)
      (hreal : Binary64.ofText? s = none) : Written s

/-- A text with a character that stands in no number, such as a slash, is one. -/
theorem written_of_foreign {c : Char} (h : Text.Foreign c) (hc : c ∈ s.toList) : Written s :=
  .plain (not_namesFlag_of_mem hc h.letter) (Decimal.wholeNumber?_eq_none h hc)
    (Binary64.ofText?_eq_none h hc)

theorem written_of_shown_eq (h : shown s = s) : Written s := by
  obtain ⟨v, t, hcounts⟩ := exists_counts s
  have ht : t = s := hcounts.shown_eq.symm.trans h
  cases hcounts with
  | yes => exact ht ▸ .yes
  | no => exact ht ▸ .no
  | whole hflag hwhole => exact ht ▸ .whole (Decimal.isSigned64_of_wholeNumber? hwhole)
  | real hflag hwhole hreal => exact .real hflag hwhole hreal ht
  | plain hflag hwhole hreal => exact .plain hflag hwhole hreal

/-- Here a whole number is read back from its own text. -/
theorem Written.exists_counts (h : Written s) : ∃ v, Counts s v s := by
  cases h with
  | yes => exact ⟨_, .yes (by decide +kernel)⟩
  | no => exact ⟨_, .no (by decide +kernel)⟩
  | whole hfits =>
    obtain ⟨c, hc, hdigit⟩ := Decimal.exists_isDigit_mem_toString _
    exact ⟨_, .whole (not_namesFlag_of_mem hc (Text.isAlpha_of_isDigit hdigit))
      (Decimal.wholeNumber?_toString hfits)⟩
  | @real _ x hflag hwhole hreal hdisplay =>
    have hcounts : Counts s (.real x) x.display := .real hflag hwhole hreal
    exact ⟨_, hdisplay ▸ hcounts⟩
  | plain hflag hwhole hreal => exact ⟨_, .plain hflag hwhole hreal⟩

/-- **The texts that arrive as they are** are those that are written as their values are shown. -/
theorem shown_eq_iff : shown s = s ↔ Written s := by
  refine ⟨written_of_shown_eq, fun hwritten => ?_⟩
  obtain ⟨v, hcounts⟩ := hwritten.exists_counts
  exact hcounts.shown_eq

end Variable

/-! ## A single variable -/

/-- The only variable that gives a setting gives one value. -/
theorem ofVariables_eq_singleton {environment : Environment} {key name s : String}
    (hnamed : named environment = [key]) (hname : Variable.key? name = some key)
    (hmem : (name, s) ∈ environment.entries) :
    ofVariables environment = [(key, Variable.value s)] := by
  have hnodup : (named environment).Nodup := hnamed ▸ List.pairwise_singleton _ key
  rw [ofVariables_eq hnodup]
  have hgiven : (key, Variable.value s) ∈ environment.entries.filterMap given? :=
    List.mem_filterMap.2 ⟨(name, s), hmem, by unfold given?; rw [hname]; rfl⟩
  rw [named_eq_keys] at hnamed
  obtain ⟨v, hv, -⟩ := List.map_eq_singleton_iff.1 hnamed
  rw [hv] at hgiven ⊢
  rw [List.mem_singleton.1 hgiven]

/-! ## Settings from one text -/

/-- A text that may be left out is there. -/
theorem optional_text? {v : Tree} {t : String} (h : Document.text? v = some t) :
    Document.optional Document.text? (some v) = some (some t) := by
  have hpresent : Document.isNull v = false := by
    cases v with
    | absent => cases h
    | _ => rfl
  unfold Document.optional
  dsimp only
  rw [hpresent, h]
  rfl

theorem decode?_fixtures {v : Tree} {t : String} (h : Document.text? v = some t) :
    decode? (Tree.table [("store", .table [("fixtures", v)])]) =
      some { default with fixtures := some t } := by
  have hstore : decodeStore? (Tree.table [("fixtures", v)]) = some (some t) := optional_text? h
  show (decodeStore? (Tree.table [("fixtures", v)])).bind _ = _
  rw [hstore]
  rfl

theorem decode?_level {v : Tree} {t : String} (h : Document.text? v = some t) :
    decode? (Tree.table [("logging", .table [("level", v)])]) =
      some { default with logging := { default.logging with level := t } } := by
  have hlogging : decodeLogging? (Tree.table [("level", v)]) =
      some { default.logging with level := t } := by
    show (Document.text? v).bind _ = _
    rw [h]
    rfl
  show (decodeLogging? (Tree.table [("level", v)])).bind _ = _
  rw [hlogging]
  rfl

theorem check_default {level : String} {fixtures : Option String}
    (hlevel : Text.isBlank level = false) (hfixtures : fixtures.any Text.isBlank = false) :
    check { default with fixtures, logging := { default.logging with level } } = .ok () := by
  unfold check
  dsimp only
  rw [hlevel, hfixtures]
  rfl

/-- Without a file, settings are those of the table that the only variable makes. -/
theorem load_of_alone {h : Host Id} {x : Setting} {name s : String} {settings : Settings}
    (hpath : path? h none = Except.ok none) (hnamed : named h.environment = [x.path])
    (hname : Variable.key? name = some x.path) (hmem : (name, s) ∈ h.environment.entries)
    (hdecode : decode? (Tree.table [(x.home, .table [(x.name, Variable.value s)])]) = some settings)
    (hcheck : settings.check = .ok ()) : load h none = Except.ok settings := by
  have hvariables := ofVariables_eq_singleton hnamed hname hmem
  have hload : load h none = ofTextAndVariables "" h.environment := loadIn_of_no_file hpath
  have hassign : assignAll [(x.path, Variable.value s)] [] =
      [(x.home, .table [(x.name, Variable.value s)])] :=
    assign_path (Variable.isTable_value s) x []
  have hvalues : ofValues [(x.path, Variable.value s)] = .ok settings := by
    rw [ofValues_eq_ok_iff, ofEntries_eq_ok_iff, hassign, List.forall_mem_singleton, x.ofText_path]
    exact ⟨rfl, hdecode, hcheck⟩
  rw [hload]
  exact ofSources_eq_ok_iff.2 ⟨[], rfl, hvariables ▸ hvalues⟩

/-- **A path of fixtures or a log level that the only variable gives is the text of its value.** It
is the text that was given if and only if this is written as its value is shown. -/
theorem text_arrives_shown {h : Host Id} {s : String} (hpath : path? h none = Except.ok none)
    (hblank : Text.isBlank s = false) :
    (named h.environment = ["store.fixtures"] →
      ("VLY_ABILITY_STORE__FIXTURES", s) ∈ h.environment.entries →
        load h none = Except.ok { default with fixtures := some (Variable.shown s) }) ∧
    (named h.environment = ["logging.level"] →
      ("VLY_ABILITY_LOGGING__LEVEL", s) ∈ h.environment.entries →
        load h none = Except.ok
          { default with logging := { default.logging with level := Variable.shown s } }) ∧
    (Variable.shown s = s ↔ Variable.Written s) := by
  have hshown := Variable.isBlank_shown hblank
  have htext := Variable.text?_value s
  refine ⟨fun hnamed hmem => ?_, fun hnamed hmem => ?_, Variable.shown_eq_iff⟩
  · exact load_of_alone (x := .fixtures) hpath hnamed (by decide +kernel) hmem
      (decode?_fixtures htext) (check_default rfl hshown)
  · exact load_of_alone (x := .level) hpath hnamed (by decide +kernel) hmem
      (decode?_level htext) (check_default hshown rfl)

/-- A machine without files that has one variable beside that of another program. -/
def lone (name s : String) : Host Id where
  read _ := .error .notFound
  isRegular _ := false
  environment := ⟨[("HOME", "/"), (name, s)]⟩
  accountHome := none

theorem text_arrives_shown_slash :
    load (lone "VLY_ABILITY_STORE__FIXTURES" "data/007") none =
      Except.ok { default with fixtures := some "data/007" } ∧
    load (lone "VLY_ABILITY_LOGGING__LEVEL" "debug") none =
      Except.ok { default with logging := { default.logging with level := "debug" } } := by
  have hslash : Text.Foreign '/' := ⟨by decide, by decide, by decide⟩
  have hpath : Variable.Written "data/007" := Variable.written_of_foreign hslash (by decide)
  have hlevel : Variable.Written "debug" :=
    .plain (by unfold Variable.NamesFlag; decide +kernel) (by decide +kernel) (by decide +kernel)
  have hmem (name s : String) : (name, s) ∈ (lone name s).environment.entries :=
    List.mem_cons_of_mem _ List.mem_cons_self
  obtain ⟨hfixtures, -, hiff⟩ := text_arrives_shown (s := "data/007")
    (h := lone "VLY_ABILITY_STORE__FIXTURES" "data/007") rfl rfl
  rw [hiff.2 hpath] at hfixtures
  obtain ⟨-, hlogging, hiff⟩ := text_arrives_shown (s := "debug")
    (h := lone "VLY_ABILITY_LOGGING__LEVEL" "debug") rfl rfl
  rw [hiff.2 hlevel] at hlogging
  exact ⟨hfixtures (by decide +kernel) (hmem _ _), hlogging (by decide +kernel) (hmem _ _)⟩

/-- A path that is a whole number with zeros in front arrives without them. -/
theorem not_arrives_leading_zeros :
    path? (lone "VLY_ABILITY_STORE__FIXTURES" "007") none = Except.ok none ∧
    named (lone "VLY_ABILITY_STORE__FIXTURES" "007").environment = ["store.fixtures"] ∧
    Text.isBlank "007" = false ∧
    ∃ settings, load (lone "VLY_ABILITY_STORE__FIXTURES" "007") none = Except.ok settings ∧
      settings.fixtures = some "7" ∧ settings.fixtures ≠ some "007" := by
  have hload : (load (lone "VLY_ABILITY_STORE__FIXTURES" "007") none).toOption.any
      (fun settings => settings.fixtures = some "7") := by
    decide +kernel
  obtain ⟨settings, hsettings, hfixtures⟩ := (Option.any_eq_true _ _).1 hload
  have hfixtures : settings.fixtures = some "7" := of_decide_eq_true hfixtures
  refine ⟨rfl, by decide +kernel, rfl, settings, toOption_eq_some_iff.1 hsettings, hfixtures, ?_⟩
  rw [hfixtures]
  decide

end VolunteerAccess.Settings
