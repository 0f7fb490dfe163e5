import VolunteerAccess.Ability
import VolunteerAccess.Proofs.Filter.Meaning

/-!
# The verdict of a list of rules

An ability is read backwards by `Ability.can`, which looks for the last rule
that matches, and forwards by `Ability.filterFor`, which adds grants to a filter
and takes denials away from it. Both readings are the same function of the rules:

- `Ability.verdict`: what the last matching rule says, if any rule matches.
- `Ability.verdict_append`: later rules are asked first. This is the only fact
  about rule order that the rest of the theory needs.
- `Ability.holds_filterFor`: the filter selects what the verdict grants.
- `Ability.can_eq_holds_filterFor`: **the instance check and the query filter
  agree**, for every order of grants and denials.
-/

namespace VolunteerAccess

namespace Ability

variable {action : Action} {t : Target}

/-- Whether a rule speaks of an action on a record. -/
def speaks (action : Action) (t : Target) (r : Rule) : Bool :=
  r.appliesTo t.resource action && r.holds t

/-- What the last rule says that speaks of an action on a record: a grant, a denial, or
nothing when there is no such rule. -/
def verdict (rs : List Rule) (action : Action) (t : Target) : Option Bool :=
  (rs.reverse.find? (speaks action t)).map (fun r => !r.inverted)

@[simp] theorem verdict_nil : verdict [] action t = none := rfl

/-- Later rules are asked first. -/
theorem verdict_append (rs ss : List Rule) :
    verdict (rs ++ ss) action t = (verdict ss action t).or (verdict rs action t) := by
  unfold verdict
  rw [List.reverse_append, List.find?_append]
  cases ss.reverse.find? (speaks action t) <;> rfl

theorem verdict_singleton (r : Rule) :
    verdict [r] action t = if speaks action t r then some (!r.inverted) else none := by
  unfold verdict
  rw [List.reverse_singleton, List.find?_singleton]
  split <;> rfl

theorem verdict_cons (r : Rule) (rs : List Rule) :
    verdict (r :: rs) action t = (verdict rs action t).or (verdict [r] action t) :=
  verdict_append [r] rs

/-- Without a verdict the answer is no. -/
theorem can_eq_verdict (a : Ability) (action : Action) (t : Target) :
    a.can action t = (verdict a.rules action t).getD false := by
  have hspeaks : (fun r : Rule => r.appliesTo t.resource action && r.holds t) = speaks action t :=
    rfl
  unfold can verdict
  rw [hspeaks]
  cases a.rules.reverse.find? (speaks action t) <;> rfl

/-! ## The filter of a list of rules -/

/-- A rule that a record does not meet leaves the filter alone there; one that it meets
decides. -/
theorem holds_extend (allowed : Filter) (r : Rule) (t : Target) :
    (extend allowed r).holds t = if r.holds t then !r.inverted else allowed.holds t := by
  have hsel : (selected r).holds t = r.holds t := by
    unfold selected Rule.holds
    cases r.conditions with
    | none => rfl
    | some c => exact Filter.holds_ofCondition t c
  unfold extend
  cases hinv : r.inverted <;> cases hr : r.holds t <;> simp [hsel, hr]

/-- The filter that a list of rules makes of another one selects what the rules grant, and
where they are silent what the other one selects. -/
theorem holds_foldl_extend (rs : List Rule) (allowed : Filter) :
    ((rs.filter (·.appliesTo t.resource action)).foldl extend allowed).holds t =
      (verdict rs action t).getD (allowed.holds t) := by
  -- The filter made so far is generalised: it plays the part of the earlier rules.
  induction rs generalizing allowed with
  | nil => rfl
  | cons r rs ih =>
    rw [verdict_cons, verdict_singleton, List.filter_cons]
    cases happ : r.appliesTo t.resource action with
    | false =>
      rw [if_neg Bool.false_ne_true, ih]
      simp [speaks, happ]
    | true =>
      rw [if_pos rfl, List.foldl_cons, ih, holds_extend]
      cases verdict rs action t <;> cases hr : r.holds t <;> simp [speaks, happ, hr]

/-- The filter of an ability selects the records for which the verdict is a grant. -/
theorem holds_filterFor (a : Ability) (action : Action) {t : Target} (h : t.resource = a.subject) :
    (a.filterFor action).holds t = (verdict a.rules action t).getD false := by
  unfold filterFor rulesFor
  rw [← h, holds_foldl_extend]
  rfl

/-- **The instance check and the query filter agree** on every record of the resource that the
ability is for. -/
theorem can_eq_holds_filterFor (a : Ability) (action : Action) (t : Target)
    (h : t.resource = a.subject) : a.can action t = (a.filterFor action).holds t := by
  rw [can_eq_verdict, holds_filterFor a action h]

/-- A grant for one's own records, a denial for those of one opportunity, and a second grant
for withdrawn ones, among rules for another resource and another action. -/
def regranted : Ability where
  subject := .interest
  rules :=
    [.grant .interestArchive .read,
      (Rule.grant .interest .read).onlyIf (Condition.empty.eq "person" (.text "p2")),
      .deny .interest .delete,
      (Rule.deny .interest .read).onlyIf (Condition.empty.isIn "opportunity" [.text "o1"]),
      (Rule.grant .interest .read).onlyIf (Condition.empty.eq "status" (.text "withdrawn")),
      .deny .interestArchive .read]

/-- A record that all three rules speak of. -/
def withdrawn : Record :=
  (((Record.empty .interest).set "person" (.text "p2")).set "opportunity" (.text "o1")).set
    "status" (.text "withdrawn")

theorem can_eq_holds_filterFor_regranted : withdrawn.target.resource = regranted.subject ∧
    regranted.can .read withdrawn.target = true ∧
    regranted.can .read withdrawn.target = (regranted.filterFor .read).holds withdrawn.target :=
  ⟨rfl, by decide, can_eq_holds_filterFor regranted .read withdrawn.target rfl⟩

end Ability

end VolunteerAccess
