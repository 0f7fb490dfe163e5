import VolunteerAccess.Proofs.Dict.Selection
import VolunteerAccess.Proofs.Document.Encoding
import VolunteerAccess.Rule

/-!
# Rules read back from their encodings

In a document nothing marks a matcher as a value to equal or as a list to choose from: an object
with an array under `$in` is a list, and any other value is one to equal. So a value to equal that
looks like a list is taken for one when it is read, and the rule is then for other records.

- `Matcher.Ambiguous`: a value to equal that looks like a list;
  `Matcher.not_ambiguous_ofJson`: none is ever read.
- `Matcher.reread`, `Condition.reread`, `Rule.reread`: what is read from an encoding;
  `Rule.decode?_encode`: something always is.
- `Rule.survives_encoding`: **a rule is read back from its encoding if and only if none of its
  matchers is ambiguous**, as is every rule that was itself read.
-/

namespace VolunteerAccess

/-- A field that may be left out has a value only where one was read. -/
theorem Document.exists_of_optional {τ α : Type} [Document τ] {read : τ → Option α}
    {v : Option τ} {x : α} (h : optional read v = some (some x)) : ∃ w, read w = some x := by
  cases v with
  | none => cases h
  | some w =>
    unfold optional at h
    dsimp only at h
    split at h
    · cases h
    · exact ⟨w, by simpa using h⟩

/-! ## Matchers -/

namespace Matcher

/-- A value to equal is written just as a list to choose from would be. -/
def Ambiguous : Matcher → Prop
  | .eq value => ∃ values, value.get? "$in" = some (.array values)
  | .isIn _ => False

/-- The matcher that is read where a matcher was written. -/
def reread (m : Matcher) : Matcher := ofJson m.encode

/-- A value is read as a list if it has one to choose from, and else as it stands. -/
theorem ofJson_cases (v : Json) :
    (∃ values, v.get? "$in" = some (.array values) ∧ ofJson v = .isIn values) ∨
      (¬ (Matcher.eq v).Ambiguous ∧ ofJson v = .eq v) := by
  unfold ofJson
  split
  · next values hvalues => exact .inl ⟨values, hvalues, rfl⟩
  · next hnone => exact .inr ⟨fun ⟨values, hvalues⟩ => hnone values hvalues, rfl⟩

/-- No value is read as an ambiguous matcher. -/
theorem not_ambiguous_ofJson (v : Json) : ¬ (ofJson v).Ambiguous := by
  obtain ⟨values, -, hread⟩ | ⟨hplain, hread⟩ := ofJson_cases v
  · rw [hread]
    exact id
  · rw [hread]
    exact hplain

/-- A matcher is read as it was written unless it is ambiguous. -/
theorem reread_eq_iff {m : Matcher} : m.reread = m ↔ ¬ m.Ambiguous := by
  constructor
  · intro h
    rw [← h]
    exact not_ambiguous_ofJson m.encode
  · intro hplain
    cases m with
    | isIn values => rfl
    | eq v =>
      obtain ⟨values, hvalues, -⟩ | ⟨-, hread⟩ := ofJson_cases v
      · exact absurd ⟨values, hvalues⟩ hplain
      · exact hread

end Matcher

/-! ## Conditions -/

namespace Condition

variable {c : Condition}

/-- Some test of the condition is ambiguous. -/
def Ambiguous (c : Condition) : Prop := ∃ m ∈ c.tests.values, m.Ambiguous

/-- The condition that is read where a condition was written. -/
def reread (c : Condition) : Condition := ⟨c.tests.map Matcher.reread⟩

/-- A condition is read test by test, under the same fields. -/
theorem decode?_encode (c : Condition) : decode? c.encode = some c.reread := by
  show some (Condition.mk (Dict.ofList ((c.tests.map Matcher.encode).entries.map
    fun m => (m.1, Matcher.ofJson m.2)))) = _
  have hentries : (c.tests.map Matcher.encode).entries.map (fun m => (m.1, Matcher.ofJson m.2)) =
      c.reread.tests.entries := List.map_map
  rw [hentries, Dict.ofList_entries]

theorem reread_eq_iff : c.reread = c ↔ ¬ c.Ambiguous := by
  have htests : c.reread = c ↔ c.tests.map Matcher.reread = c.tests :=
    ⟨congrArg Condition.tests, congrArg Condition.mk⟩
  rw [htests, Dict.map_eq_self_iff]
  simp only [Matcher.reread_eq_iff, Ambiguous, not_exists, not_and]

theorem not_ambiguous_of_decode? {v : Json} (h : decode? v = some c) : ¬ c.Ambiguous := by
  cases v with
  | object ms =>
    cases h
    rintro ⟨m, hm, hambiguous⟩
    obtain ⟨field, hfield⟩ := Dict.mem_values_iff.1 hm
    obtain ⟨member, -, heq⟩ := List.mem_map.1 (Dict.mem_of_get?_ofList hfield)
    cases heq
    exact Matcher.not_ambiguous_ofJson member.2 hambiguous
  | _ => cases h

end Condition

/-! ## Rules -/

theorem Resource.decode?_encode (r : Resource) : Resource.decode? r.encode = some r := by
  cases r <;> rfl

theorem Action.decode?_encode (a : Action) : Action.decode? a.encode = some a := by
  cases a <;> rfl

namespace Rule

/-- The condition of the rule is ambiguous. -/
def Ambiguous (r : Rule) : Prop := ∃ c, r.conditions = some c ∧ c.Ambiguous

/-- The rule that is read where a rule was written. -/
def reread (r : Rule) : Rule := { r with conditions := r.conditions.map Condition.reread }

/-- A rule is read field by field; only its condition may be read as another one. -/
theorem decode?_encode (r : Rule) : decode? r.encode = some r.reread := by
  obtain ⟨subject, action, conditions, inverted⟩ := r
  unfold decode? encode
  cases conditions with
  | none =>
    rw [Document.fields?_mkObject _ (by simp)]
    show (do
      let subject ← Resource.decode? subject.encode
      let action ← Action.decode? action.encode
      return ({ subject, action, conditions := none, inverted } : Rule)) = _
    rw [subject.decode?_encode, action.decode?_encode]
    rfl
  | some c =>
    rw [Document.fields?_mkObject _ (by simp)]
    show (do
      let subject ← Resource.decode? subject.encode
      let action ← Action.decode? action.encode
      let conditions ← (Condition.decode? c.encode).map some
      return ({ subject, action, conditions, inverted } : Rule)) = _
    rw [subject.decode?_encode, action.decode?_encode, c.decode?_encode]
    rfl

theorem reread_eq_iff {r : Rule} : r.reread = r ↔ ¬ r.Ambiguous := by
  obtain ⟨subject, action, conditions, inverted⟩ := r
  cases conditions with
  | none => simp [reread, Ambiguous]
  | some c => simp [reread, Ambiguous, Condition.reread_eq_iff]

/-- What is read as a rule has a condition only where one was read. -/
theorem not_ambiguous_of_decode? {v : Json} {r : Rule} (h : decode? v = some r) :
    ¬ r.Ambiguous := by
  unfold decode? at h
  simp only [Option.bind_eq_bind, Option.bind_eq_some_iff] at h
  obtain ⟨field, -, subject, -, action, -, conditions, hconditions, inverted, -, hr⟩ := h
  cases hr
  rintro ⟨c, hc, hambiguous⟩
  rw [show conditions = some c from hc] at hconditions
  obtain ⟨w, hw⟩ := Document.exists_of_optional hconditions
  exact Condition.not_ambiguous_of_decode? hw hambiguous

/-- **A rule is read back from its encoding if and only if none of its matchers is ambiguous.** No
rule that was itself read has one, so such a rule is always read back. -/
theorem survives_encoding :
    (∀ v r, decode? v = some r → decode? r.encode = some r) ∧
      ∀ r, decode? r.encode = some r ↔ ¬ r.Ambiguous := by
  have hback (r : Rule) : decode? r.encode = some r ↔ ¬ r.Ambiguous := by
    rw [decode?_encode, Option.some.injEq, reread_eq_iff]
  exact ⟨fun v r h => (hback r).2 (not_ambiguous_of_decode? h), hback⟩

/-- A denial for the records whose status is some value. -/
def denialOf (status : Json) : Rule :=
  (deny .interest .delete).onlyIf (Condition.empty.eq "status" status)

/-- A document of a denial. Its choice of statuses comes with a member that is not read. -/
def annotatedDenial : Json :=
  .object [("subject", .text "interest"), ("action", .text "delete"), ("inverted", .bool true),
    ("conditions", .object [
      ("status", .object [("$in", .array [.text "committed"]), ("note", .text "by request")])])]

/-- The denial in the document is read back, and so is one that is made for a text. A denial that
is made for a value which looks like a choice is not. -/
theorem survives_encoding_denialOf :
    (∃ r, decode? annotatedDenial = some r ∧ decode? r.encode = some r) ∧
    decode? (denialOf (.text "committed")).encode = some (denialOf (.text "committed")) ∧
    decode? (denialOf (.object [("$in", .array [])])).encode ≠
      some (denialOf (.object [("$in", .array [])])) := by
  obtain ⟨hread, hmade⟩ := survives_encoding
  obtain ⟨r, hr⟩ : ∃ r, decode? annotatedDenial = some r := ⟨_, rfl⟩
  refine ⟨⟨r, hr, hread _ r hr⟩, (hmade _).2 ?_, fun h => (hmade _).1 h ?_⟩
  · rintro ⟨_, ⟨⟩, m, hm, hambiguous⟩
    obtain rfl := List.mem_singleton.1 hm
    obtain ⟨values, hvalues⟩ := hambiguous
    cases hvalues
  · exact ⟨_, rfl, _, List.mem_singleton_self _, [], rfl⟩

end Rule

end VolunteerAccess
