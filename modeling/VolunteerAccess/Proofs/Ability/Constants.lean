import Mathlib.Data.List.Induction
import VolunteerAccess.Proofs.Ability.Grants
import VolunteerAccess.Proofs.Filter.Constants

/-!
# When the filter of an ability is a constant

A session for which the filter is `Filter.nothing` need not be shown anything, and
one for which it is `Filter.everything` need not be restricted. Both can be read
off the rules for the action, without making the filter:

- `Rule.Void`: a rule that is for no record.
- `Ability.Standing`: a grant that no denial for all records comes after;
  `Ability.Lasting`: a grant for all records that no denial takes anything from.
- `Ability.iff_exists_endures`: how such a rule is found, from the end of the list.
- `Ability.hasGrant_iff_standing`: what is found by the search for the last denial.
- `Ability.filterFor_constant_iff`: **the filter is nothing exactly when all standing
  grants are void, and everything exactly when some grant lasts**.
-/

namespace VolunteerAccess

/-- A rule whose condition asks for a member of the empty list. It is for no record. -/
def Rule.Void (r : Rule) : Prop := ∃ c, r.conditions = some c ∧ c.Void

namespace Ability

variable {r s : Rule} {rs : List Rule}

/-- Whether a rule grants its action for all records. -/
def isBlanketGrant (r : Rule) : Bool := !r.inverted && r.isUnconditional

/-! ## One rule -/

theorem selected_eq_nothing_iff : selected r = .nothing ↔ r.Void := by
  unfold selected Rule.Void
  cases r.conditions with
  | none => simp
  | some c => simpa using Filter.ofCondition_eq_nothing_iff c

theorem selected_eq_everything_iff : selected r = .everything ↔ r.isUnconditional = true := by
  unfold selected Rule.isUnconditional
  cases r.conditions with
  | none => simp
  | some c => simpa using Filter.ofCondition_eq_everything_iff c

theorem selected_ne_not (f : Filter) : selected r ≠ .not f := by
  unfold selected
  cases r.conditions with
  | none => exact fun heq => by cases heq
  | some c => exact Filter.ofCondition_ne_not f c

/-- A rule leaves nothing if it takes everything away, or if there was nothing and it adds
nothing. -/
theorem extend_eq_nothing_iff (allowed : Filter) : extend allowed r = .nothing ↔
    isBlanketDenial r = true ∨ (allowed = .nothing ∧ (r.inverted = false → r.Void)) := by
  unfold extend isBlanketDenial
  rw [← selected_eq_nothing_iff]
  cases hr : r.inverted with
  | false => simp [Filter.or_eq_nothing_iff]
  | true =>
    rw [if_pos rfl, Filter.and_eq_nothing_iff, Filter.negate_eq_nothing_iff selected_ne_not,
      selected_eq_everything_iff]
    simp [or_comm]

/-- A rule leaves everything if it adds everything, or if there was everything and it takes
nothing away. -/
theorem extend_eq_everything_iff (allowed : Filter) : extend allowed r = .everything ↔
    isBlanketGrant r = true ∨ (allowed = .everything ∧ (r.inverted = true → r.Void)) := by
  unfold extend isBlanketGrant
  rw [← selected_eq_nothing_iff]
  cases hr : r.inverted with
  | false =>
    rw [if_neg Bool.false_ne_true, Filter.or_eq_everything_iff, selected_eq_everything_iff]
    simp [or_comm]
  | true =>
    rw [if_pos rfl, Filter.and_eq_everything_iff, Filter.negate_eq_everything_iff selected_ne_not]
    simp

/-! ## Rules by what comes after them -/

/-- A rule that is `good`, and that only `harmless` rules come after. -/
def Endures (good harmless : Rule → Prop) (rs : List Rule) (r : Rule) : Prop :=
  good r ∧ ∃ after, r :: after <:+ rs ∧ ∀ d ∈ after, harmless d

/-- A grant that no denial for all records comes after. -/
def Standing (rs : List Rule) (r : Rule) : Prop :=
  Endures (·.inverted = false) (isBlanketDenial · = false) rs r

/-- A grant for all records of which no later denial takes anything away. -/
def Lasting (rs : List Rule) (r : Rule) : Prop :=
  Endures (isBlanketGrant · = true) (fun d => d.inverted = true → d.Void) rs r

/-- What stands in a list with one more rule, and what comes after it there. -/
theorem cons_suffix_concat_iff {after : List Rule} : r :: after <:+ rs ++ [s] ↔
    (r = s ∧ after = []) ∨ ∃ before, after = before ++ [s] ∧ r :: before <:+ rs := by
  rw [List.suffix_concat_iff]
  constructor
  · rintro (hnil | ⟨t, heq, hsuffix⟩)
    · cases hnil
    · cases t with
      | nil =>
        cases heq
        exact .inl ⟨rfl, rfl⟩
      | cons x t =>
        cases heq
        exact .inr ⟨t, rfl, hsuffix⟩
  · rintro (⟨rfl, rfl⟩ | ⟨before, rfl, hsuffix⟩)
    · exact .inr ⟨[], rfl, List.nil_suffix⟩
    · exact .inr ⟨r :: before, rfl, hsuffix⟩

variable {good harmless : Rule → Prop}

/-- After one more rule the same rules endure, if it is harmless, and it endures itself if it is
good. -/
theorem endures_concat : Endures good harmless (rs ++ [s]) r ↔
    (r = s ∧ good s) ∨ (harmless s ∧ Endures good harmless rs r) := by
  unfold Endures
  constructor
  · rintro ⟨hgood, after, hsuffix, hafter⟩
    rcases cons_suffix_concat_iff.1 hsuffix with ⟨rfl, rfl⟩ | ⟨before, rfl, hbefore⟩
    · exact .inl ⟨rfl, hgood⟩
    · rw [List.forall_mem_append, List.forall_mem_singleton] at hafter
      exact .inr ⟨hafter.2, hgood, before, hbefore, hafter.1⟩
  · rintro (⟨rfl, hgood⟩ | ⟨hs, hgood, before, hbefore, hafter⟩)
    · have hlast : r :: [] <:+ rs ++ [r] := cons_suffix_concat_iff.2 (.inl ⟨rfl, rfl⟩)
      exact ⟨hgood, [], hlast, fun d hd => absurd hd List.not_mem_nil⟩
    · have hsuffix : r :: (before ++ [s]) <:+ rs ++ [s] :=
        cons_suffix_concat_iff.2 (.inr ⟨before, rfl, hbefore⟩)
      refine ⟨hgood, before ++ [s], hsuffix, ?_⟩
      rw [List.forall_mem_append, List.forall_mem_singleton]
      exact ⟨hafter, hs⟩

/-- What each good rule brings about, and each harmless one keeps, holds exactly where a good
rule endures. -/
theorem iff_exists_endures {P : List Rule → Prop} (hnil : ¬ P [])
    (hconcat : ∀ rs s, P (rs ++ [s]) ↔ good s ∨ (harmless s ∧ P rs)) (rs : List Rule) :
    P rs ↔ ∃ r, Endures good harmless rs r := by
  -- From the end of the list, as the last rule decides first.
  induction rs using List.reverseRecOn with
  | nil =>
    refine iff_of_false hnil ?_
    rintro ⟨r, -, after, hsuffix, -⟩
    exact absurd (List.suffix_nil.1 hsuffix) (List.cons_ne_nil r after)
  | append_singleton rs s ih =>
    rw [hconcat, ih]
    simp only [endures_concat]
    constructor
    · rintro (hgood | ⟨hharmless, r, hr⟩)
      · exact ⟨s, .inl ⟨rfl, hgood⟩⟩
      · exact ⟨r, .inr ⟨hharmless, hr⟩⟩
    · rintro ⟨r, ⟨-, hgood⟩ | ⟨hharmless, hr⟩⟩
      · exact .inl hgood
      · exact .inr ⟨hharmless, r, hr⟩

/-! ## Lists of rules -/

/-- No grant is a denial for all records. -/
theorem isBlanketDenial_of_grant (h : r.inverted = false) : isBlanketDenial r = false := by
  unfold isBlanketDenial
  rw [h, Bool.false_and]

/-- Something is left exactly when a standing grant is for some record. -/
theorem foldl_extend_ne_nothing_iff (rs : List Rule) : rs.foldl extend .nothing ≠ .nothing ↔
    ∃ r, Standing rs r ∧ ¬ r.Void := by
  have hstep (rs : List Rule) (s : Rule) : (rs ++ [s]).foldl extend .nothing ≠ .nothing ↔
      (s.inverted = false ∧ ¬ s.Void) ∨
        (isBlanketDenial s = false ∧ rs.foldl extend .nothing ≠ .nothing) := by
    rw [List.foldl_append, List.foldl_cons, List.foldl_nil, Ne, extend_eq_nothing_iff]
    -- A grant that adds something is no denial, so it need not be asked whether it is one.
    have hgrant := isBlanketDenial_of_grant (r := s)
    grind
  have hendures : rs.foldl extend .nothing ≠ .nothing ↔
      ∃ r, Endures (fun r => r.inverted = false ∧ ¬ r.Void) (isBlanketDenial · = false) rs r :=
    iff_exists_endures (P := fun rs => rs.foldl extend .nothing ≠ .nothing)
      (fun hne => hne rfl) hstep rs
  rw [hendures]
  unfold Standing Endures
  exact exists_congr fun r => and_right_comm

/-- Everything is left exactly when some grant lasts. -/
theorem foldl_extend_eq_everything_iff (rs : List Rule) :
    rs.foldl extend .nothing = .everything ↔ ∃ r, Lasting rs r := by
  have hstep (rs : List Rule) (s : Rule) : (rs ++ [s]).foldl extend .nothing = .everything ↔
      isBlanketGrant s = true ∨
        ((s.inverted = true → s.Void) ∧ rs.foldl extend .nothing = .everything) := by
    rw [List.foldl_append, List.foldl_cons, List.foldl_nil, extend_eq_everything_iff, and_comm]
  exact iff_exists_endures (P := fun rs => rs.foldl extend .nothing = .everything)
    (fun heq => by cases heq) hstep rs

/-- The rules after the last denial for all records, with one more rule at the end. -/
theorem afterBlanketDenial_concat (rs : List Rule) (s : Rule) : afterBlanketDenial (rs ++ [s]) =
    if isBlanketDenial s then [] else afterBlanketDenial rs ++ [s] := by
  unfold afterBlanketDenial
  rw [List.reverse_append, List.reverse_singleton, List.singleton_append, List.takeWhile_cons]
  cases isBlanketDenial s with
  | true => rfl
  | false => exact List.reverse_cons

/-- The search for the last denial finds a grant exactly when one stands. -/
theorem any_afterBlanketDenial_iff (rs : List Rule) :
    (afterBlanketDenial rs).any (fun r => !r.inverted) = true ↔ ∃ r, Standing rs r := by
  have hstep (rs : List Rule) (s : Rule) :
      (afterBlanketDenial (rs ++ [s])).any (fun r => !r.inverted) = true ↔
        s.inverted = false ∨ (isBlanketDenial s = false ∧
          (afterBlanketDenial rs).any (fun r => !r.inverted) = true) := by
    rw [afterBlanketDenial_concat]
    have hgrant := isBlanketDenial_of_grant (r := s)
    cases hs : isBlanketDenial s with
    | true =>
      have hdenial : ¬ s.inverted = false := fun h => by
        rw [hgrant h] at hs
        cases hs
      simpa using hdenial
    | false =>
      rw [if_neg Bool.false_ne_true, List.any_append]
      simp [or_comm]
  exact iff_exists_endures
    (P := fun rs => (afterBlanketDenial rs).any (fun r => !r.inverted) = true)
    Bool.false_ne_true hstep rs

/-! ## The filter of an ability -/

theorem hasGrant_iff_standing (a : Ability) (action : Action) :
    a.hasGrant action = true ↔ ∃ r, Standing (a.rulesFor action) r :=
  any_afterBlanketDenial_iff (a.rulesFor action)

/-- What allows an action with a record is a standing grant. -/
theorem standing_of_can {a : Ability} {action : Action} {t : Target} (ht : t.resource = a.subject)
    (hcan : a.can action t = true) : ∃ r, Standing (a.rulesFor action) r :=
  (a.hasGrant_iff_standing action).1 (hasGrant_of_can ht hcan)

theorem filterFor_eq_nothing_iff (a : Ability) (action : Action) :
    a.filterFor action = .nothing ↔ ∀ r, Standing (a.rulesFor action) r → r.Void := by
  have hne : a.filterFor action ≠ .nothing ↔ ∃ r, Standing (a.rulesFor action) r ∧ ¬ r.Void :=
    foldl_extend_ne_nothing_iff (a.rulesFor action)
  rw [← not_iff_not, ← Ne, hne]
  push Not
  rfl

/-- **When the filter of an ability is a constant.** It is nothing exactly when every grant that
stands is void, which is so if there is none, and then no record is allowed. It is everything
exactly when some grant for all records lasts. -/
theorem filterFor_constant_iff (a : Ability) (action : Action) :
    (a.filterFor action = .nothing ↔ ∀ r, Standing (a.rulesFor action) r → r.Void) ∧
    (a.hasGrant action = false → a.filterFor action = .nothing ∧
      ∀ t : Target, t.resource = a.subject → a.can action t = false) ∧
    (a.filterFor action = .everything ↔ ∃ r, Lasting (a.rulesFor action) r) := by
  refine ⟨a.filterFor_eq_nothing_iff action, fun hnone => ?_,
    foldl_extend_eq_everything_iff (a.rulesFor action)⟩
  have hnothing : a.filterFor action = .nothing := by
    rw [filterFor_eq_nothing_iff]
    intro r hr
    have hgrant := (a.hasGrant_iff_standing action).2 ⟨r, hr⟩
    rw [hnone] at hgrant
    cases hgrant
  refine ⟨hnothing, fun t ht => ?_⟩
  rw [can_eq_verdict, ← holds_filterFor a action ht, hnothing]
  rfl

/-- An ability of which reading is left to a void grant, and listing to a grant that only a void
denial follows. Deletion is denied last. -/
def revoked : Ability where
  subject := .interest
  rules :=
    [.grant .interest .delete, .grant .interest .read,
      (Rule.deny .interest .read).onlyIf (Condition.empty.eq "person" (.text "p2")),
      .grant .interest .list,
      (Rule.deny .interest .read).onlyIf .empty,
      (Rule.grant .interest .read).onlyIf (Condition.empty.isIn "opportunity" []),
      (Rule.deny .interest .list).onlyIf
        ((Condition.empty.eq "person" (.text "p2")).isIn "opportunity" []),
      .deny .interest .delete]

theorem filterFor_constant_iff_revoked :
    (revoked.hasGrant .read = true ∧ revoked.filterFor .read = .nothing ∧
      ∀ r, Standing (revoked.rulesFor .read) r → r.Void) ∧
    (revoked.hasGrant .delete = false ∧ revoked.filterFor .delete = .nothing ∧
      revoked.can .delete withdrawn.target = false) ∧
    revoked.filterFor .list = .everything ∧ ∃ r, Lasting (revoked.rulesFor .list) r := by
  obtain ⟨hread, -⟩ := filterFor_constant_iff revoked .read
  obtain ⟨-, hdelete, -⟩ := filterFor_constant_iff revoked .delete
  obtain ⟨-, -, hlist⟩ := filterFor_constant_iff revoked .list
  obtain ⟨hnothing, hdenied⟩ := hdelete rfl
  exact ⟨⟨rfl, rfl, hread.1 rfl⟩, ⟨rfl, hnothing, hdenied withdrawn.target rfl⟩, rfl, hlist.1 rfl⟩

end Ability

end VolunteerAccess
