import VolunteerAccess.Proofs.Fallible
import VolunteerAccess.Settings

/-!
# Where settings come from

A machine has a file of settings or none, and reading it may fail. All this is over before
the first setting is looked at: what follows depends on the text that was read, on the variables
of the environment and on the orders in which both are laid, whatever the machine is.

- `Settings.source`: the text that the settings of a machine are read from.
  `Settings.loadIn_eq_map`: **the settings are those of this text**.
- `Settings.ofSources_eq_ok_iff`: the settings of a text and of variables.
  `Settings.check_of_ofSources`: they have passed the check.
  `Settings.exists_map_eq_loadIn`: so have all settings that a machine can come by.
- `Settings.loadIn_of_file`, `Settings.loadIn_of_no_file`: the two ways in which reading succeeds.
-/

namespace VolunteerAccess.Settings

/-! ## Texts -/

/-- The settings in a table are what it decodes to, if that passes the check. -/
theorem ofEntries_eq_ok_iff {root : List (String × Tree)} {settings : Settings} :
    ofEntries root = .ok settings ↔
      decode? (Tree.table root) = some settings ∧ settings.check = .ok () := by
  unfold ofEntries
  cases decode? (Tree.table root) with
  | none => exact iff_of_false (fun heq => by cases heq) fun hboth => by cases hboth.1
  | some decoded =>
    dsimp only
    rw [map_eq_ok_iff, Option.some.injEq]
    constructor
    · rintro ⟨⟨⟩, hcheck, rfl⟩
      exact ⟨rfl, hcheck⟩
    · rintro ⟨rfl, hcheck⟩
      exact ⟨⟨⟩, hcheck, rfl⟩

/-- The settings of named values are those in the table that they make. -/
theorem ofValues_eq_ok_iff {values : List (String × Tree)} {settings : Settings} :
    ofValues values = .ok settings ↔
      (∀ v ∈ values, (Key.ofText v.1).fits = true) ∧
        ofEntries (assignAll values []) = .ok settings := by
  unfold ofValues
  rw [← List.all_eq_true]
  split
  · next hfits => exact (and_iff_right hfits).symm
  · next hfits => exact iff_of_false (fun heq => by cases heq) fun hboth => hfits hboth.1

section
variable {file given : Order} {s : String} {environment : Environment} {settings : Settings}

/-- The entries of a text and then the variables are laid one over the other, and what comes of it
is decoded and checked. -/
theorem ofSources_eq_ok_iff : ofSources file given s environment = .ok settings ↔
    ∃ entries, entriesOfText? s = some entries ∧
      ofValues (file.arrange entries ++ given.arrange (ofVariables environment)) =
        .ok settings := by
  unfold ofSources
  cases entriesOfText? s with
  | none => simp
  | some entries => simp only [Option.some.injEq, exists_eq_left']

/-- There are no settings of a text that have not passed the check. -/
theorem check_of_ofSources (h : ofSources file given s environment = .ok settings) :
    settings.check = .ok () := by
  obtain ⟨entries, -, hvalues⟩ := ofSources_eq_ok_iff.1 h
  exact (ofEntries_eq_ok_iff.1 (ofValues_eq_ok_iff.1 hvalues).2).2

end

/-! ## Machines -/

section
variable {m : Type → Type} [Monad m] {file given : Order}

/-- The text that the settings of a machine are read from. It is empty if there is no file. -/
def source (h : Host m) (asked : Option String) : m (Except ConfigFailure String) := do
  match ← path? h asked with
  | .error failure => return .error failure
  | .ok none => return .ok ""
  | .ok (some path) =>
    match ← read? h path with
    | none => return .error (.load ("file cannot be read: " ++ path))
    | some s => return .ok s

/-- **The settings of a machine are those of the text they are read from**, with the variables
laid over them. -/
theorem loadIn_eq_map [LawfulMonad m] (file given : Order) (h : Host m)
    (asked : Option String) : loadIn file given h asked =
      (fun text => text.bind fun s => ofSources file given s h.environment) <$>
        source h asked := by
  unfold loadIn source
  rw [map_bind]
  congr 1
  funext path
  match path with
  | .error failure => rw [map_pure]; rfl
  | .ok none => rw [map_pure]; rfl
  | .ok (some path) =>
    dsimp only
    rw [map_bind]
    congr 1
    funext text
    cases text with
    | none => rw [map_pure]; rfl
    | some s => rw [map_pure]; rfl

/-- Whatever the check ensures comes with every outcome that is not a failure. -/
theorem exists_map_eq_loadIn [LawfulMonad m] {P : Settings → Prop}
    (hP : ∀ settings : Settings, settings.check = .ok () → P settings) (file given : Order)
    (h : Host m) (asked : Option String) :
    ∃ checked : m (Except ConfigFailure { settings // P settings }),
      (fun outcome => outcome.map Subtype.val) <$> checked = loadIn file given h asked := by
  have houtcome : ∀ text : Except ConfigFailure String,
      ∃ outcome : Except ConfigFailure { settings // P settings }, outcome.map Subtype.val =
        text.bind fun s => ofSources file given s h.environment := by
    intro text
    refine exists_map_val_eq fun settings hsettings => hP settings ?_
    obtain ⟨s, -, hs⟩ := bind_eq_ok_iff.1 hsettings
    exact check_of_ofSources hs
  obtain ⟨outcome, houtcome⟩ := Classical.skolem.1 houtcome
  refine ⟨outcome <$> source h asked, ?_⟩
  rw [loadIn_eq_map, Functor.map_map]
  exact congrArg (· <$> source h asked) (funext houtcome)

/-- With a file there is a text, which loses its mark of the byte order. -/
theorem loadIn_of_file [LawfulMonad m] {h : Host m} {asked : Option String}
    {path contents : String} (hpath : path? h asked = pure (.ok (some path)))
    (hregular : h.isRegular path = pure true) (hread : h.read path = pure (.ok contents)) :
    loadIn file given h asked =
      pure (ofSources file given (Text.dropByteOrderMark contents) h.environment) := by
  have htext : read? h path = pure (some (Text.dropByteOrderMark contents)) := by
    unfold read? readRegular?
    rw [hregular, pure_bind, if_pos rfl, pure_bind, if_pos rfl, hread, pure_bind]
    rfl
  have hsource : source h asked = pure (.ok (Text.dropByteOrderMark contents)) := by
    unfold source
    rw [hpath, pure_bind]
    dsimp only
    rw [htext, pure_bind]
  rw [loadIn_eq_map, hsource, map_pure]
  rfl

/-- Without a file the variables stand alone. -/
theorem loadIn_of_no_file [LawfulMonad m] {h : Host m} {asked : Option String}
    (hpath : path? h asked = pure (.ok none)) :
    loadIn file given h asked = pure (ofSources file given "" h.environment) := by
  have hsource : source h asked = pure (.ok "") := by
    unfold source
    rw [hpath, pure_bind]
  rw [loadIn_eq_map, hsource, map_pure]
  rfl

end

end VolunteerAccess.Settings
