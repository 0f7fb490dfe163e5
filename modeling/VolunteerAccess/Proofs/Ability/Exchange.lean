import VolunteerAccess.Proofs.Ability.Constants

/-!
# Exchanging neighbouring rules

Which rule comes later decides between a grant and a denial. Between rules that say the same, or
that speak of different things, it decides nothing, and a policy may list them as it likes:

- `Ability.judge`, `Ability.remain`: what one more rule changes, for a single record and for the
  question whether a grant is left. Either keeps no more than one bit of all earlier rules.
- `Ability.holds_filterFor_eq_foldl`, `Ability.can_eq_holds_filterFor_of`,
  `Ability.hasGrant_eq_foldl`: the three readings of an ability as such bits.
- `Ability.foldl_exchange`: a step that does not tell two rules of one polarity apart does not
  see them exchanged.
- `Ability.exchange_unseen`: **only the order of a grant and a denial for the same action on the
  same resource matters**.
-/

namespace VolunteerAccess

namespace Ability

variable {r s : Rule}

/-! ## One more rule -/

/-- Whether a record is allowed after one more rule, which decides if the record meets it. -/
def judge (t : Target) (allowed : Bool) (r : Rule) : Bool :=
  if r.holds t then !r.inverted else allowed

/-- Whether a grant is left after one more rule. Only a denial for all records takes all away. -/
def remain (left : Bool) (r : Rule) : Bool :=
  if r.inverted then left && !r.isUnconditional else true

/-- Rules of one polarity decide alike, whichever of them the record meets. -/
theorem judge_comm (t : Target) (h : r.inverted = s.inverted) (allowed : Bool) :
    judge t (judge t allowed r) s = judge t (judge t allowed s) r := by
  unfold judge
  rw [h]
  cases r.holds t <;> cases s.holds t <;> rfl

/-- Two grants leave a grant, and two denials what neither takes away. -/
theorem remain_comm (h : r.inverted = s.inverted) (left : Bool) :
    remain (remain left r) s = remain (remain left s) r := by
  unfold remain
  rw [h]
  cases s.inverted with
  | false => rfl
  | true => exact Bool.and_right_comm left (!r.isUnconditional) (!s.isUnconditional)

/-! ## The readings of an ability -/

/-- A filter that grows rule by rule is judged rule by rule. -/
theorem holds_foldl_extend_eq_foldl (t : Target) (rs : List Rule) (allowed : Filter) :
    (rs.foldl extend allowed).holds t = rs.foldl (judge t) (allowed.holds t) := by
  induction rs generalizing allowed with
  | nil => rfl
  | cons r rs ih =>
    rw [List.foldl_cons, List.foldl_cons, ih, holds_extend]
    rfl

theorem holds_filterFor_eq_foldl (a : Ability) (action : Action) (t : Target) :
    (a.filterFor action).holds t = (a.rulesFor action).foldl (judge t) false :=
  holds_foldl_extend_eq_foldl t (a.rulesFor action) .nothing

/-- The instance check does not ask what the ability is for, and so it is the filter of an ability
with the same rules for the resource of the record. -/
theorem can_eq_holds_filterFor_of (a : Ability) (action : Action) (t : Target) :
    a.can action t = (filterFor { a with subject := t.resource } action).holds t := by
  rw [can_eq_verdict, holds_filterFor _ action rfl]

theorem any_afterBlanketDenial_eq_foldl (rs : List Rule) :
    (afterBlanketDenial rs).any (fun r => !r.inverted) = rs.foldl remain false := by
  -- From the end of the list, where the search for the last denial starts.
  induction rs using List.reverseRecOn with
  | nil => rfl
  | append_singleton rs s ih =>
    rw [afterBlanketDenial_concat, List.foldl_append, List.foldl_cons, List.foldl_nil, ← ih]
    unfold isBlanketDenial remain
    cases hs : s.inverted with
    | false => simp [hs]
    | true => cases s.isUnconditional <;> simp [hs]

theorem hasGrant_eq_foldl (a : Ability) (action : Action) :
    a.hasGrant action = (a.rulesFor action).foldl remain false :=
  any_afterBlanketDenial_eq_foldl (a.rulesFor action)

/-! ## Exchange -/

universe u

/-- A step for which rules of one polarity commute does not see two neighbours exchanged, unless
they are a grant and a denial that both apply. -/
theorem foldl_exchange {β : Type u} {step : β → Rule → β}
    (hstep : r.inverted = s.inverted → ∀ b, step (step b r) s = step (step b s) r)
    (h : r.inverted = s.inverted ∨ r.action ≠ s.action ∨ r.subject ≠ s.subject)
    (subject : Resource) (action : Action) (before after : List Rule) (b : β) :
    ((before ++ r :: s :: after).filter (·.appliesTo subject action)).foldl step b =
      ((before ++ s :: r :: after).filter (·.appliesTo subject action)).foldl step b := by
  rw [List.filter_append, List.filter_append, List.foldl_append, List.foldl_append]
  generalize (before.filter (·.appliesTo subject action)).foldl step b = b'
  cases hr : r.appliesTo subject action with
  | false => simp only [List.filter_cons, hr, Bool.false_eq_true, if_false]
  | true =>
    cases hs : s.appliesTo subject action with
    | false => simp only [List.filter_cons, hr, hs, Bool.false_eq_true, if_false]
    | true =>
      -- Both rules apply, so they are for one action on one resource.
      have hpolarity : r.inverted = s.inverted := by
        simp only [Rule.appliesTo, Bool.and_eq_true, beq_iff_eq] at hr hs
        rcases h with heq | hne | hne
        · exact heq
        · exact absurd (hr.2.trans hs.2.symm) hne
        · exact absurd (hr.1.trans hs.1.symm) hne
      simp only [List.filter_cons, hr, hs, if_true, List.foldl_cons, hstep hpolarity b']

/-- **Only the order of a grant and a denial for the same action on the same resource matters.**
Two neighbouring rules of another kind may be exchanged: the instance check answers as before for
every record, the filter selects the same records, and a grant is left where one was. -/
theorem exchange_unseen {a : Ability} {before after : List Rule}
    (hrules : a.rules = before ++ r :: s :: after)
    (h : r.inverted = s.inverted ∨ r.action ≠ s.action ∨ r.subject ≠ s.subject)
    (action : Action) :
    (∀ t : Target, a.can action t = can { a with rules := before ++ s :: r :: after } action t) ∧
    (∀ t : Target, (a.filterFor action).holds t =
      (filterFor { a with rules := before ++ s :: r :: after } action).holds t) ∧
    a.hasGrant action = hasGrant { a with rules := before ++ s :: r :: after } action := by
  obtain ⟨subject, rules⟩ := a
  obtain rfl : rules = before ++ r :: s :: after := hrules
  have hfilter (subject : Resource) (t : Target) :
      (filterFor ⟨subject, before ++ r :: s :: after⟩ action).holds t =
        (filterFor ⟨subject, before ++ s :: r :: after⟩ action).holds t := by
    rw [holds_filterFor_eq_foldl, holds_filterFor_eq_foldl]
    exact foldl_exchange (fun heq => judge_comm t heq) h subject action before after false
  refine ⟨fun t => ?_, hfilter subject, ?_⟩
  · rw [can_eq_holds_filterFor_of, can_eq_holds_filterFor_of]
    exact hfilter t.resource t
  · rw [hasGrant_eq_foldl, hasGrant_eq_foldl]
    exact foldl_exchange remain_comm h subject action before after false

/-- Two rules between a grant for all records and one for withdrawn interests. -/
def between (first second : Rule) : Ability where
  subject := .interest
  rules :=
    [.grant .interest .read, first, second,
      (Rule.grant .interest .read).onlyIf (Condition.empty.eq "status" (.text "withdrawn"))]

/-- A denial for the records of one person. -/
def personalDenial : Rule :=
  (Rule.deny .interest .read).onlyIf (Condition.empty.eq "person" (.text "p2"))

/-- A denial for all records. -/
def generalDenial : Rule := .deny .interest .read

theorem exchange_unseen_denials : personalDenial.inverted = generalDenial.inverted ∧
    (between personalDenial generalDenial).can .read withdrawn.target = true ∧
    (between generalDenial personalDenial).can .read withdrawn.target = true ∧
    ((between personalDenial generalDenial).filterFor .read).holds withdrawn.target =
      ((between generalDenial personalDenial).filterFor .read).holds withdrawn.target ∧
    (between personalDenial generalDenial).hasGrant .read =
      (between generalDenial personalDenial).hasGrant .read := by
  have hpolarity : personalDenial.inverted = generalDenial.inverted := rfl
  have hrules : (between personalDenial generalDenial).rules =
      [.grant .interest .read] ++ personalDenial :: generalDenial ::
        [(Rule.grant .interest .read).onlyIf (Condition.empty.eq "status" (.text "withdrawn"))] :=
    rfl
  obtain ⟨hcan, hfilter, hgrant⟩ := exchange_unseen hrules (.inl hpolarity) .read
  have hallowed : (between personalDenial generalDenial).can .read withdrawn.target = true := by
    decide
  exact ⟨hpolarity, hallowed, (hcan withdrawn.target).symm.trans hallowed,
    hfilter withdrawn.target, hgrant⟩

end Ability

end VolunteerAccess
