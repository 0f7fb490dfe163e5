import VolunteerAccess.Proofs.Dict.Selection
import VolunteerAccess.Proofs.Filter.Constants
import VolunteerAccess.Proofs.Json.Equality

/-!
# Conditions that nothing meets

The filter of a condition is a constant if the condition is trivial, and this is told from
its tests alone. Here it is compared with what records meet the condition. The two agree
on everything but `null`, which is a value that a test may ask for, and in a record stands
for a field that is not set.

- `Condition.nanFree`: the values of a condition equal themselves.
  `Condition.nanFree_of_decode?`: they do if the condition was read.
- `Condition.sample`: values that pass the tests of a condition, if any values do.
- `Condition.AsksForNull`: some test is passed by `null` alone.
- `Condition.unmet_iff`, `Condition.noRecord_iff`: what nothing meets, and what no record
  meets.
- `Filter.ofCondition_constant_iff`: **the filter of a condition is everything exactly when
  all records meet it, and nothing exactly when nothing does that may hold `null`**. No record
  meets it in one more case.
-/

namespace VolunteerAccess

/-! ## Null -/

namespace Json

theorem eq_null_of_isNull {v : Json} (h : v.isNull = true) : v = .null := by
  cases v with
  | null => rfl
  | _ => cases h

/-- Only `null` equals `null`. -/
theorem same_of_isNull {v w : Json} (h : v.isNull = true) : v.same w = w.isNull := by
  rw [eq_null_of_isNull h]
  cases w <;> rfl

end Json

/-! ## Tests -/

namespace Matcher

/-- Whether no value that a test asks for has a NaN in it. -/
def nanFree : Matcher → Bool
  | .eq v => v.nanFree
  | .isIn vs => Json.allNanFree vs

/-- Whether a test is passed by `null` and by nothing else. -/
def asksForNull : Matcher → Bool
  | .eq v => v.isNull
  | .isIn vs => !vs.isEmpty && vs.all Json.isNull

theorem nanFree_ofJson {v : Json} (h : v.nanFree = true) : (ofJson v).nanFree = true := by
  unfold ofJson
  split
  · next values hvalues => exact Json.nanFree_of_get? h hvalues
  · exact h

/-- A value that passes a test, other than `null` if there is one. -/
def sample : Matcher → Json
  | .eq v => v
  | .isIn vs => (vs.find? fun v => !v.isNull).getD .null

variable {m : Matcher}

theorem sample_mem {vs : List Json} (h : vs ≠ []) : (isIn vs).sample ∈ vs := by
  show (vs.find? fun v => !v.isNull).getD .null ∈ vs
  cases hfind : vs.find? fun v => !v.isNull with
  | some v => exact List.mem_of_find?_eq_some hfind
  | none =>
    -- All values of the list are `null`, and there is a first one.
    obtain ⟨v, rest, rfl⟩ := List.exists_cons_of_ne_nil h
    have hnull : v.isNull = true := by
      simpa using List.find?_eq_none.1 hfind v List.mem_cons_self
    rw [Json.eq_null_of_isNull hnull]
    exact List.mem_cons_self

/-- Whatever is asked for, the sample is of that kind. -/
theorem holds_sample (hfree : m.nanFree = true) (hmet : m.isUnsatisfiable = false) :
    m.holds m.sample = true := by
  cases m with
  | eq v => exact v.same_self hfree
  | isIn vs =>
    have hmem := sample_mem (List.isEmpty_eq_false_iff.1 hmet)
    have hall : vs.all Json.nanFree = true := (Json.allNanFree_eq vs).symm.trans hfree
    have hself := Json.same_self _ (List.all_eq_true.1 hall _ hmem)
    exact List.any_eq_true.2 ⟨_, hmem, hself⟩

theorem isNull_sample (hmet : m.isUnsatisfiable = false) (hnull : m.asksForNull = false) :
    m.sample.isNull = false := by
  cases m with
  | eq v => exact hnull
  | isIn vs =>
    show ((vs.find? fun v => !v.isNull).getD .null).isNull = false
    cases hfind : vs.find? fun v => !v.isNull with
    | some v => simpa using List.find?_some hfind
    | none =>
      have hempty : vs.isEmpty = false := hmet
      have hall : vs.all Json.isNull = true := by
        simpa [List.all_eq_true] using List.find?_eq_none.1 hfind
      simp [asksForNull, hempty, hall] at hnull

/-- A value that is set does not pass a test that asks for `null`. -/
theorem holds_of_asksForNull (h : m.asksForNull = true) {v : Json} (hv : v.isNull = false) :
    m.holds v = false := by
  cases m with
  | eq w =>
    show w.same v = false
    rw [Json.same_of_isNull h, hv]
  | isIn vs =>
    unfold asksForNull at h
    rw [Bool.and_eq_true, List.all_eq_true] at h
    refine List.any_eq_false.2 fun w hw => ?_
    rw [Json.same_of_isNull (h.2 w hw), hv]
    exact Bool.false_ne_true

end Matcher

/-! ## Conditions -/

namespace Condition

/-- Whether no value that a condition asks for has a NaN in it. -/
def nanFree (c : Condition) : Bool := c.tests.values.all Matcher.nanFree

/-- Some test of a condition is passed by `null` and by nothing else. -/
def AsksForNull (c : Condition) : Prop := ∃ m ∈ c.tests.values, m.asksForNull = true

instance (c : Condition) : Decidable c.AsksForNull :=
  inferInstanceAs (Decidable (∃ m ∈ c.tests.values, m.asksForNull = true))

/-- Values that pass the tests of a condition, under the names of the fields. -/
def sample (c : Condition) : Dict Json := c.tests.map Matcher.sample

variable {c : Condition}

/-- The conditions in the documents of texts have no NaN in them. -/
theorem nanFree_of_decode? {s : String} {v : Json} (hv : Json.parse? s = some v)
    (h : decode? v = some c) : c.nanFree = true := by
  have hfree : v.nanFree = true := Json.nanFree_of_parse? hv
  cases v with
  | object ms =>
    cases h
    refine List.all_eq_true.2 fun m hm => ?_
    obtain ⟨name, hname⟩ := Dict.mem_values_iff.1 hm
    obtain ⟨member, hmember, heq⟩ := List.mem_map.1 (Dict.mem_of_get?_ofList hname)
    cases heq
    exact Matcher.nanFree_ofJson (Json.nanFree_of_mem hfree hmember)
  | _ => cases h

theorem get?_sample {name : String} {m : Matcher} (h : c.tests.get? name = some m) :
    c.sample.get? name = some m.sample := by
  unfold sample
  rw [Dict.get?_map, h, Option.map_some]

theorem isUnsatisfiable_of_not_void (hc : ¬ c.Void) {m : Matcher} (hm : m ∈ c.tests.values) :
    m.isUnsatisfiable = false := by
  refine Bool.eq_false_iff.2 fun hunsat => hc ?_
  exact isUnsatisfiable_iff.1 (List.any_eq_true.2 ⟨m, hm, hunsat⟩)

/-- What has the sample values for fields meets a condition of which no test is for membership
in the empty list. -/
theorem holds_of_sample (hfree : c.nanFree = true) (hc : ¬ c.Void) {t : Target}
    (h : ∀ name m, c.tests.get? name = some m → t.field name = some m.sample) :
    c.holds t = true := by
  refine holds_iff.2 fun name m hm => ?_
  have hmem : m ∈ c.tests.values := Dict.mem_values_iff.2 ⟨name, hm⟩
  unfold passes
  rw [h name m hm, Option.any_some]
  exact Matcher.holds_sample (List.all_eq_true.1 hfree m hmem)
    (isUnsatisfiable_of_not_void hc hmem)

/-- **Nothing meets a condition exactly when it asks for a member of the empty list**, where a
field may also have the value `null`. -/
theorem unmet_iff (hfree : c.nanFree = true) : (∀ t, c.holds t = false) ↔ c.Void := by
  constructor
  · intro h
    by_cases hc : c.Void
    · exact hc
    · let t : Target := { resource := .interest, field := c.sample.get? }
      have hmet : c.holds t = true := holds_of_sample hfree hc fun name m hm => get?_sample hm
      rw [h t] at hmet
      cases hmet
  · intro hc t
    exact holds_of_isUnsatisfiable (isUnsatisfiable_iff.2 hc) t

/-- The record with the sample values meets a condition, unless one of them is `null`. -/
theorem holds_sampleRecord (hfree : c.nanFree = true) (hc : ¬ c.Void) (hnull : ¬ c.AsksForNull) :
    c.holds (Record.target { subject := .interest, fields := c.sample }) = true := by
  refine holds_of_sample hfree hc fun name m hm => ?_
  have hmem : m ∈ c.tests.values := Dict.mem_values_iff.2 ⟨name, hm⟩
  have hset : m.sample.isNull = false :=
    Matcher.isNull_sample (isUnsatisfiable_of_not_void hc hmem)
      (Bool.eq_false_iff.2 fun hm => hnull ⟨m, hmem, hm⟩)
  show (c.sample.get? name).filter (fun v => !v.isNull) = _
  rw [get?_sample hm, Option.filter_some, hset]
  rfl

/-- No field of a record is `null`, so no record passes a test that asks for it. -/
theorem holds_of_asksForNull (h : c.AsksForNull) (r : Record) : c.holds r.target = false := by
  obtain ⟨m, hmem, hm⟩ := h
  obtain ⟨name, hname⟩ := Dict.mem_values_iff.1 hmem
  rw [← Bool.not_eq_true, holds_iff]
  intro hall
  have hpasses := hall name m hname
  unfold passes at hpasses
  rw [Option.any_eq_true] at hpasses
  obtain ⟨v, hv, hpass⟩ := hpasses
  have hset : v.isNull = false := by
    simpa using (Option.filter_eq_some_iff.1 hv).2
  rw [Matcher.holds_of_asksForNull hm hset] at hpass
  cases hpass

/-- **No record meets a condition exactly when it asks for a member of the empty list, or for
`null`.** -/
theorem noRecord_iff (hfree : c.nanFree = true) :
    (∀ r : Record, c.holds r.target = false) ↔ c.Void ∨ c.AsksForNull := by
  constructor
  · intro h
    by_cases hc : c.Void
    · exact .inl hc
    · by_cases hnull : c.AsksForNull
      · exact .inr hnull
      · have hmet := holds_sampleRecord hfree hc hnull
        rw [h] at hmet
        cases hmet
  · rintro (hc | hnull) r
    · exact (unmet_iff hfree).2 hc r.target
    · exact holds_of_asksForNull hnull r

/-- The record without fields meets no condition that has a test. -/
theorem everyRecord_iff : (∀ r : Record, c.holds r.target = true) ↔ c.isEmpty = true := by
  constructor
  · intro h
    cases hentries : c.tests.entries with
    | nil => exact List.isEmpty_iff.2 hentries
    | cons test rest =>
      have hmet := h (.empty .interest)
      unfold holds at hmet
      rw [hentries, List.all_cons] at hmet
      cases hmet
  · exact fun h r => holds_of_isEmpty h r.target

end Condition

/-! ## Filters -/

namespace Filter

/-- **When the filter of a condition is a constant, in terms of what meets the condition.** It is
everything exactly when every record does. It is nothing exactly when nothing does, even where a
field may have the value `null`. No record meets the condition in just one more case: some test
asks for `null`, which in a record is a field that is not set. -/
theorem ofCondition_constant_iff (c : Condition) (hfree : c.nanFree = true) :
    (ofCondition c = .everything ↔ ∀ r : Record, c.holds r.target = true) ∧
      (ofCondition c = .nothing ↔ ∀ t : Target, c.holds t = false) ∧
      ((∀ r : Record, c.holds r.target = false) ↔ ofCondition c = .nothing ∨ c.AsksForNull) := by
  rw [ofCondition_eq_everything_iff, ofCondition_eq_nothing_iff]
  exact ⟨Condition.everyRecord_iff.symm, (Condition.unmet_iff hfree).symm,
    Condition.noRecord_iff hfree⟩

/-- A condition on a person, with a list in which `null` is one choice of two. -/
def undecided : Condition :=
  (Condition.empty.eq "person" (.text "p1")).isIn "status" [.null, .text "invited"]

theorem ofCondition_constant_iff_undecided : undecided.nanFree = true ∧
    (¬ ∀ r : Record, undecided.holds r.target = true) ∧
      (¬ ∀ t : Target, undecided.holds t = false) ∧
        ¬ ∀ r : Record, undecided.holds r.target = false := by
  have hfree : undecided.nanFree = true := by decide
  have hwhere : ofCondition undecided = .where undecided := rfl
  obtain ⟨heverything, hnothing, hrecord⟩ := ofCondition_constant_iff undecided hfree
  rw [hwhere] at heverything hnothing hrecord
  refine ⟨hfree, fun hall => ?_, fun hunmet => ?_, fun hnone => ?_⟩
  · cases heverything.2 hall
  · cases hnothing.2 hunmet
  · rcases hrecord.1 hnone with heq | hnull
    · cases heq
    · exact absurd hnull (by decide)

/-- The condition that the person is `null`. -/
def personless : Condition := Condition.empty.eq "person" .null

/-- No record meets the condition that a field is `null`, and yet its filter is not nothing. -/
theorem not_nothing_personless : ¬ (ofCondition personless = .nothing ↔
    ∀ r : Record, personless.holds r.target = false) := by
  intro h
  have hnull : personless.AsksForNull := by decide
  have hnothing := h.2 (Condition.holds_of_asksForNull hnull)
  cases hnothing

end Filter

end VolunteerAccess
