import VolunteerAccess.Dict

/-!
# The part of a map that passes a test

A session sees only some of the records of a store. What it sees is the part of
a map of which the values pass a test.

- `Dict.select`: that part, again a map.
- `Dict.select_insert_congr`, `Dict.select_erase_congr`: two maps that have equal
  parts still do after the same change to both, whether or not the values that
  were replaced or removed pass the test. Keys need not agree with values.
- `Dict.filter_values_congr`: what narrower tests find is then equal too.
- `Dict.select_eq_self`, `Dict.select_erase_of_not`: nothing is missing from the part
  where every value passes, and what does not pass may be taken away.
- `Dict.map_eq_self_iff`: values that are rewritten one by one are the same map only if
  each of them is the same.
-/

namespace VolunteerAccess

namespace Dict

universe u

variable {α : Type u} {p : α → Bool} {d e : Dict α}

/-- The entries of which the value passes a test. -/
def select (p : α → Bool) (d : Dict α) : Dict α :=
  ⟨d.entries.filter (fun entry => p entry.2), d.ordered.filter _⟩

theorem get?_select (p : α → Bool) (d : Dict α) (k : String) :
    (d.select p).get? k = (d.get? k).filter p := by
  refine Option.ext fun x => ?_
  rw [get?_eq_some_iff, Option.filter_eq_some_iff, get?_eq_some_iff]
  exact List.mem_filter

@[simp] theorem values_select (p : α → Bool) (d : Dict α) :
    (d.select p).values = d.values.filter p := by
  show (d.entries.filter (p ∘ Prod.snd)).map Prod.snd = (d.entries.map Prod.snd).filter p
  rw [List.filter_map]

theorem select_insert_congr (h : d.select p = e.select p) (k : String) (x : α) :
    (d.insert k x).select p = (e.insert k x).select p := by
  refine ext_get? fun l => ?_
  rw [get?_select, get?_select]
  by_cases hl : l = k
  · subst hl
    rw [get?_insert_self, get?_insert_self]
  · rw [get?_insert_of_ne d x hl, get?_insert_of_ne e x hl, ← get?_select, ← get?_select, h]

theorem select_erase_congr (h : d.select p = e.select p) (k : String) :
    (d.erase k).select p = (e.erase k).select p := by
  refine ext_get? fun l => ?_
  rw [get?_select, get?_select]
  by_cases hl : l = k
  · subst hl
    rw [get?_erase_self, get?_erase_self]
  · rw [get?_erase_of_ne d hl, get?_erase_of_ne e hl, ← get?_select, ← get?_select, h]

/-- A test that only passing values can pass sees no more than the part. -/
theorem filter_values_congr (h : d.select p = e.select p) {q : α → Bool}
    (hq : ∀ x, q x = true → p x = true) : d.values.filter q = e.values.filter q := by
  have hpart : ∀ d : Dict α, d.values.filter q = (d.select p).values.filter q := by
    intro d
    rw [values_select, List.filter_filter]
    refine List.filter_congr fun x _ => ?_
    cases hx : q x with
    | false => rfl
    | true => rw [hq x hx]; rfl
  rw [hpart d, hpart e, h]

/-- Where every value passes, the part is the whole. -/
theorem select_eq_self (h : ∀ x ∈ d.values, p x = true) : d.select p = d := by
  refine ext_get? fun k => ?_
  rw [get?_select]
  cases hk : d.get? k with
  | none => rfl
  | some x => rw [Option.filter_some, if_pos (h x (mem_values_iff.2 ⟨k, hk⟩))]

/-- Taking away what does not pass leaves the part as it is. -/
theorem select_erase_of_not {k : String} {x : α} (hx : d.get? k = some x) (hp : p x = false) :
    (d.erase k).select p = d.select p := by
  refine ext_get? fun l => ?_
  rw [get?_select, get?_select]
  by_cases hl : l = k
  · subst hl
    rw [get?_erase_self, hx, Option.filter_some, hp]
    rfl
  · rw [get?_erase_of_ne _ hl]

/-! ## Values rewritten -/

theorem get?_map {β : Type u} (f : α → β) (d : Dict α) (k : String) :
    (d.map f).get? k = (d.get? k).map f := by
  unfold get? map
  rw [List.find?_map, Option.map_map, Option.map_map]
  rfl

theorem map_eq_self_iff {f : α → α} : d.map f = d ↔ ∀ x ∈ d.values, f x = x := by
  constructor
  · intro h x hx
    obtain ⟨k, hk⟩ := mem_values_iff.1 hx
    have hmapped := get?_map f d k
    rw [h, hk] at hmapped
    exact (Option.some.inj hmapped).symm
  · intro h
    refine ext_get? fun k => ?_
    rw [get?_map]
    cases hk : d.get? k with
    | none => rfl
    | some x => rw [Option.map_some, h x (mem_values_iff.2 ⟨k, hk⟩)]

end Dict

end VolunteerAccess
