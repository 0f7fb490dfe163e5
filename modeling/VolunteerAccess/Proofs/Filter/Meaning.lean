import VolunteerAccess.Filter

/-!
# What filters select

The combinators of filters simplify as they go. None of the simplifications can
be seen in which records are selected:

- `Condition.holds_iff`: a condition holds if each field it tests is set and
  passes, whichever way the condition was put together.
- `Filter.holds_or`, `Filter.holds_and`, `Filter.holds_negate`: the combinators
  are the Boolean operations, on every filter, simplified or not.
- `Filter.holds_ofCondition`: the filter of a condition selects what meets it,
  also where it is a constant.
-/

namespace VolunteerAccess

/-! ## Conditions -/

theorem Json.same_text_iff (s : String) (v : Json) : (Json.text s).same v = true ↔ v = .text s := by
  cases v with
  | text s' => rw [Json.same_text, beq_iff_eq, Json.text.injEq, eq_comm]
  | _ => simp [Json.same]

namespace Condition

theorem passes_text_iff (t : Target) (name s : String) :
    Condition.passes t (name, .eq (.text s)) = true ↔ t.field name = some (.text s) := by
  show (t.field name).any (Json.text s).same = true ↔ _
  rw [Option.any_eq_true]
  constructor
  · rintro ⟨v, hv, hsame⟩
    rw [hv, (Json.same_text_iff s v).1 hsame]
  · intro h
    exact ⟨.text s, h, (Json.same_text_iff s _).2 rfl⟩

theorem passes_texts_iff (t : Target) (name : String) (ss : List String) :
    Condition.passes t (name, .isIn (ss.map .text)) = true ↔
      ∃ s ∈ ss, t.field name = some (.text s) := by
  show (t.field name).any (fun v => (ss.map Json.text).any (fun w => w.same v)) = true ↔ _
  rw [Option.any_eq_true]
  constructor
  · rintro ⟨v, hv, hany⟩
    obtain ⟨w, hw, hsame⟩ := List.any_eq_true.1 hany
    obtain ⟨s, hs, rfl⟩ := List.mem_map.1 hw
    exact ⟨s, hs, by rw [hv, (Json.same_text_iff s v).1 hsame]⟩
  · rintro ⟨s, hs, h⟩
    exact ⟨.text s, h, List.any_eq_true.2
      ⟨.text s, List.mem_map.2 ⟨s, hs, rfl⟩, (Json.same_text_iff s _).2 rfl⟩⟩

/-- A condition holds if every field that it tests passes its test. -/
theorem holds_iff {c : Condition} {t : Target} :
    c.holds t = true ↔ ∀ name m, c.tests.get? name = some m → passes t (name, m) = true := by
  unfold holds
  rw [List.all_eq_true]
  constructor
  · intro h name m hm
    exact h (name, m) (Dict.get?_eq_some_iff.1 hm)
  · rintro h ⟨name, m⟩ hm
    exact h name m (Dict.get?_eq_some_iff.2 hm)

@[simp] theorem holds_empty (t : Target) : empty.holds t = true := rfl

/-- A further test of a field that was not tested before is one more conjunct. -/
theorem holds_insert {c : Condition} {name : String} (h : c.tests.get? name = none) (m : Matcher)
    (t : Target) : holds ⟨c.tests.insert name m⟩ t = (passes t (name, m) && c.holds t) := by
  rw [Bool.eq_iff_iff, Bool.and_eq_true, holds_iff, holds_iff]
  constructor
  · intro hall
    refine ⟨hall name m (Dict.get?_insert_self ..), fun k n hk => ?_⟩
    have hne : k ≠ name := by
      rintro rfl
      rw [h] at hk
      cases hk
    exact hall k n (by rw [Dict.get?_insert_of_ne _ _ hne, hk])
  · rintro ⟨hm, hall⟩ k n hk
    by_cases hne : k = name
    · subst hne
      rw [Dict.get?_insert_self] at hk
      cases hk
      exact hm
    · rw [Dict.get?_insert_of_ne _ _ hne] at hk
      exact hall k n hk

theorem holds_eq {c : Condition} {name : String} (h : c.tests.get? name = none) (v : Json)
    (t : Target) : (c.eq name v).holds t = (passes t (name, .eq v) && c.holds t) :=
  holds_insert h (.eq v) t

theorem holds_isIn {c : Condition} {name : String} (h : c.tests.get? name = none)
    (vs : List Json) (t : Target) :
    (c.isIn name vs).holds t = (passes t (name, .isIn vs) && c.holds t) :=
  holds_insert h (.isIn vs) t

theorem mem_fields_eq {c : Condition} {name field : String} {v : Json} :
    field ∈ (c.eq name v).fields ↔ field = name ∨ field ∈ c.fields :=
  Dict.mem_keys_insert

theorem mem_fields_isIn {c : Condition} {name field : String} {vs : List Json} :
    field ∈ (c.isIn name vs).fields ↔ field = name ∨ field ∈ c.fields :=
  Dict.mem_keys_insert

@[simp] theorem fields_empty : empty.fields = [] := rfl

/-- Nothing passes a test for membership in the empty list. -/
theorem holds_of_isUnsatisfiable {c : Condition} (h : c.isUnsatisfiable = true) (t : Target) :
    c.holds t = false := by
  obtain ⟨_, hm, hempty⟩ := List.any_eq_true.1 h
  obtain ⟨⟨name, m⟩, hmem, rfl⟩ := List.mem_map.1 hm
  have hfail : passes t (name, m) = false := by
    cases m with
    | eq v => cases hempty
    | isIn vs =>
      rw [show vs = [] from List.isEmpty_iff.1 hempty]
      cases hv : t.field name <;> simp [passes, hv, Matcher.holds]
  rw [← Bool.not_eq_true, holds_iff]
  intro hall
  rw [hall name m (Dict.get?_eq_some_iff.2 hmem)] at hfail
  cases hfail

/-- Every record meets a condition without tests. -/
theorem holds_of_isEmpty {c : Condition} (h : c.isEmpty = true) (t : Target) :
    c.holds t = true := by
  have hnil : c.tests.entries = [] := List.isEmpty_iff.1 h
  rw [holds, hnil, List.all_nil]

end Condition

/-! ## Combinators -/

namespace Filter

variable (t : Target)

@[simp] theorem holds_or (f g : Filter) : (f.or g).holds t = (f.holds t || g.holds t) := by
  fun_cases Filter.or f g <;> simp [holds, anyHolds_eq]

@[simp] theorem holds_and (f g : Filter) : (f.and g).holds t = (f.holds t && g.holds t) := by
  fun_cases Filter.and f g <;> simp [holds, allHold_eq]

@[simp] theorem holds_negate (f : Filter) : f.negate.holds t = !f.holds t := by
  fun_cases Filter.negate f <;> simp [holds]

/-- A trivial condition becomes a constant that selects the same records. -/
@[simp] theorem holds_ofCondition (c : Condition) : (ofCondition c).holds t = c.holds t := by
  unfold ofCondition
  split
  · next hunsat => rw [holds, Condition.holds_of_isUnsatisfiable hunsat]
  · split
    · next hempty => rw [holds, Condition.holds_of_isEmpty hempty]
    · rw [holds]

end Filter

end VolunteerAccess
