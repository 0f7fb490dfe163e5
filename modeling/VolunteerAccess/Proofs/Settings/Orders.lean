import VolunteerAccess.Proofs.Settings.Alike

/-!
# The order in which settings are laid

The outermost entries of a text are laid in any order. Where they stand apart the order leaves no
trace; where two of them meet, as a section and a key that leads into it may, the outcome may change
between two starts of a program:

- `Settings.StandApart`: a text whose outermost entries do not meet.
- `Settings.rootIn?`: the outermost table of a text.
  `Settings.alike_of_rootIn?`: **entries that stand apart make alike tables in all orders**.
- `Settings.SameOutcome`: equal settings, or failures of one kind.
  `Settings.ofTextIn_congr`: such a text has the same outcome in all orders.
-/

namespace VolunteerAccess

/-! ## Kinds of failures -/

namespace ConfigFailure

/-- The kinds of reasons why there are no settings. -/
inductive Kind where
  | load
  | invalid
  | missing
  | file
  | exhausted
deriving DecidableEq

/-- What kind of failure it is, whatever its message. -/
def kind : ConfigFailure → Kind
  | .load _ => .load
  | .invalid _ => .invalid
  | .missing _ => .missing
  | .file _ => .file
  | .exhausted => .exhausted

end ConfigFailure

namespace Settings

/-- Equal settings, or failures of one kind. -/
def SameOutcome (x y : Except ConfigFailure Settings) : Prop :=
  x.mapError ConfigFailure.kind = y.mapError ConfigFailure.kind

theorem SameOutcome.toOption_eq {x y : Except ConfigFailure Settings} (h : SameOutcome x y) :
    x.toOption = y.toOption := by
  have hoption := congrArg Except.toOption h
  cases x <;> cases y <;> exact hoption

/-! ## Values -/

/-- **Settings do not depend on the order of values that stand apart.** -/
theorem ofValues_perm {values laid : List (String × Tree)} (hperm : laid.Perm values)
    (hapart : values.Pairwise fun v w => apart v w = true) : ofValues laid = ofValues values := by
  have hroot : Alike (.table (assignAll laid [])) (.table (assignAll values [])) :=
    .tables (tidy_assignAll _ .nil) (tidy_assignAll _ .nil) (shapes_assignAll_perm hperm hapart [])
  have hentries : ofEntries (assignAll laid []) = ofEntries (assignAll values []) := by
    unfold ofEntries
    rw [respects_decode? hroot]
  unfold ofValues
  rw [hentries, hperm.all_eq]

/-! ## Texts -/

/-- A text of which no two outermost entries meet. -/
def StandApart (s : String) : Prop :=
  ∀ entries, entriesOfText? s = some entries → entries.Pairwise fun v w => apart v w = true

instance (s : String) : Decidable (StandApart s) :=
  decidable_of_iff
    ((entriesOfText? s).all fun entries => entries.Pairwise fun v w => apart v w = true)
    (by simp only [StandApart, Option.all_eq_true, decide_eq_true_eq])

/-- The outermost table of a text, its entries being laid in some order. -/
def rootIn? (file : Order) (s : String) : Option (List (String × Tree)) :=
  (entriesOfText? s).map fun entries => assignAll (file.arrange entries) []

section
variable {s : String} {file other : Order}

/-- **Entries that stand apart make alike tables, in whatever orders they are laid.** -/
theorem alike_of_rootIn? (horder : other = file ∨ StandApart s) {root root' : List (String × Tree)}
    (hroot : rootIn? file s = some root) (hroot' : rootIn? other s = some root') :
    Alike (.table root) (.table root') := by
  rcases horder with rfl | hapart
  · obtain rfl := Option.some.inj (hroot.symm.trans hroot')
    exact .same _
  · obtain ⟨entries, hentries, rfl⟩ := Option.map_eq_some_iff.1 hroot
    obtain ⟨entries', hentries', rfl⟩ := Option.map_eq_some_iff.1 hroot'
    obtain rfl := Option.some.inj (hentries.symm.trans hentries')
    have hpairs := hapart entries hentries
    refine .tables (tidy_assignAll _ .nil) (tidy_assignAll _ .nil) ?_
    rw [shapes_assignAll_perm (file.perm entries) hpairs,
      shapes_assignAll_perm (other.perm entries) hpairs]

/-- A text whose entries stand apart has the same outcome in all orders. -/
theorem ofTextIn_congr (horder : other = file ∨ StandApart s) :
    ofTextIn file s = ofTextIn other s := by
  rcases horder with rfl | hapart
  · rfl
  · unfold ofTextIn ofSources
    cases hentries : entriesOfText? s with
    | none => rfl
    | some entries =>
      have hpairs := hapart entries hentries
      dsimp only
      show ofValues (file.arrange entries ++ []) = ofValues (other.arrange entries ++ [])
      rw [List.append_nil, List.append_nil, ofValues_perm (file.perm entries) hpairs,
        ofValues_perm (other.perm entries) hpairs]

end

end Settings

end VolunteerAccess
