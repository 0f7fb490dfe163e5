import Mathlib.Data.List.Forall2
import VolunteerAccess.Proofs.Dict.Insertion
import VolunteerAccess.Proofs.Filter.Queries

/-!
# Filters recovered from their documents

Whatever filter it is written for, a document is made of objects and arrays. Only a key tells a
joint from a negation or from the fields of a condition, and only the shape of a value tells a
choice from an equality. This is enough to read a filter back if its conditions test something
and none of their fields and values poses as something else.

- `Json.isChoice`: the values that look like a list to choose from.
- `Condition.Legible`, `Filter.Legible`: the conditions and filters that do not pose as others.
- `Filter.ofQuery?`: the filter that a document was written for;
  `Filter.ofQuery?_toQuery`: **a legible filter is read back from its document**.
- `Filter.same`: equality of filters up to the equality that conditions compare values with;
  `Filter.same_toQuery`: documents are the same just where their filters are.
- `Filter.toQuery_inj`: **the document of a filter loses nothing**, for either equality.
-/

namespace VolunteerAccess

/-! ## Values -/

namespace Json

def isArray : Json → Bool
  | .array _ => true
  | _ => false

/-- Whether a value looks like a list to choose from: an object with an array under `$in` and
nothing else. -/
def isChoice : Json → Bool
  | .object [(key, v)] => key == "$in" && v.isArray
  | _ => false

/-- The names of the members of an object. -/
def keys : Json → List String
  | .object ms => ms.map Prod.fst
  | _ => []

theorem same_singleton (key : String) (v w : Json) :
    (object [(key, v)]).same (object [(key, w)]) = v.same w := by
  rw [same, sameMembers, sameMembers, beq_self_eq_true, Bool.true_and, Bool.and_true]

variable {v w : Json}

/-- Objects that are the same have the same members, one by one. -/
theorem forall₂_of_sameMembers : {ms ns : List (String × Json)} → sameMembers ms ns = true →
    List.Forall₂ (fun m n => m.1 = n.1 ∧ m.2.same n.2 = true) ms ns
  | [], [], _ => .nil
  | (_, _) :: _, (_, _) :: _, h => by
    rw [sameMembers, Bool.and_eq_true, Bool.and_eq_true, beq_iff_eq] at h
    exact .cons h.1 (forall₂_of_sameMembers h.2)

theorem keys_eq_of_same (h : v.same w = true) : v.keys = w.keys := by
  cases v with
  | object ms =>
    cases w with
    | object ns =>
      have hmembers := forall₂_of_sameMembers h
      show ms.map Prod.fst = ns.map Prod.fst
      rw [← List.forall₂_eq_eq_eq, List.forall₂_map_left_iff, List.forall₂_map_right_iff]
      exact hmembers.imp fun _ _ hmember => hmember.1
    | _ => cases h
  | _ =>
    cases w with
    | object ns => cases h
    | _ => rfl

theorem isArray_eq_of_same (h : v.same w = true) : v.isArray = w.isArray := by
  cases v with
  | array vs =>
    cases w with
    | array ws => rfl
    | _ => cases h
  | _ =>
    cases w with
    | array ws => cases h
    | _ => rfl

/-- Of two values that are the same, either both look like a list to choose from or neither. -/
theorem isChoice_eq_of_same (h : v.same w = true) : v.isChoice = w.isChoice := by
  cases v with
  | object ms =>
    cases w with
    | object ns =>
      cases forall₂_of_sameMembers h with
      | nil => rfl
      | cons hfirst hrest =>
        cases hrest with
        | nil => rw [isChoice, isChoice, hfirst.1, isArray_eq_of_same hfirst.2]
        | cons _ _ => rfl
    | _ => cases h
  | _ =>
    cases w with
    | object ns => cases h
    | _ => rfl

end Json

/-- The keys of a document are names of fields: there are some, and no operator is among them. -/
structure Query.NamesFields (q : Json) : Prop where
  nonempty : q.keys ≠ []
  noOperator : ∀ op : Operator, op.key ∉ q.keys

/-! ## Tests -/

namespace Matcher

/-- Whether a test is no equality with what looks like a list to choose from. -/
def legible : Matcher → Bool
  | .eq v => !v.isChoice
  | .isIn _ => true

theorem legible_eq_iff {v : Json} : (eq v).legible = true ↔ v.isChoice = false := by
  rw [legible, Bool.not_eq_true']

/-- The test that a value in a document was written for. -/
def ofQuery : Json → Matcher
  | .object [("$in", .array vs)] => .isIn vs
  | v => .eq v

theorem ofQuery_encode {m : Matcher} (h : m.legible = true) : ofQuery m.encode = m := by
  cases m with
  | isIn vs => rfl
  | eq v =>
    show ofQuery v = .eq v
    unfold ofQuery
    split
    · exact absurd h Bool.false_ne_true
    · rfl

/-- Equality of tests, with values compared as the tests compare them. -/
def same : Matcher → Matcher → Bool
  | .eq v, .eq w => v.same w
  | .isIn vs, .isIn ws => Json.sameItems vs ws
  | _, _ => false

theorem same_encode {m n : Matcher} (hm : m.legible = true) (hn : n.legible = true) :
    m.encode.same n.encode = m.same n := by
  cases m with
  | eq v =>
    cases n with
    | eq w => rfl
    | isIn ws =>
      have hplain : v.isChoice = false := legible_eq_iff.1 hm
      refine Bool.eq_false_iff.2 fun h => ?_
      have hchoice : v.isChoice = true := Json.isChoice_eq_of_same h
      rw [hplain] at hchoice
      exact Bool.false_ne_true hchoice
  | isIn vs =>
    cases n with
    | eq w =>
      have hplain : w.isChoice = false := legible_eq_iff.1 hn
      refine Bool.eq_false_iff.2 fun h => ?_
      have hchoice : w.isChoice = true := (Json.isChoice_eq_of_same h).symm
      rw [hplain] at hchoice
      exact Bool.false_ne_true hchoice
    | isIn ws => exact Json.same_singleton "$in" (.array vs) (.array ws)

end Matcher

/-! ## Conditions -/

namespace Condition

variable {c d : Condition}

/-- A condition that does not pose as something else in a document: it tests something, none of
its fields is named like an operator, and none of its tests looks like another one. -/
structure Legible (c : Condition) : Prop where
  tested : c.isEmpty = false
  named : ∀ name ∈ c.fields, name.toList.head? ≠ some '$'
  told : ∀ m ∈ c.tests.values, m.legible = true

instance (c : Condition) : Decidable c.Legible :=
  decidable_of_iff (c.isEmpty = false ∧ (∀ name ∈ c.fields, name.toList.head? ≠ some '$') ∧
      ∀ m ∈ c.tests.values, m.legible = true)
    ⟨fun ⟨htested, hnamed, htold⟩ => ⟨htested, hnamed, htold⟩,
      fun h => ⟨h.tested, h.named, h.told⟩⟩

/-- The condition that the members of a document were written for. -/
def ofQuery (ms : List (String × Json)) : Condition :=
  ⟨.ofList (ms.map fun m => (m.1, Matcher.ofQuery m.2))⟩

theorem keys_toQuery (c : Condition) : c.toQuery.keys = c.fields := List.map_map

namespace Legible

/-- The keys in the document of a legible condition are names of fields. -/
theorem namesFields (h : c.Legible) : Query.NamesFields c.toQuery where
  nonempty hnil := by
    rw [c.keys_toQuery] at hnil
    have hempty : c.isEmpty = true := List.isEmpty_iff.2 (List.map_eq_nil_iff.1 hnil)
    rw [h.tested] at hempty
    exact Bool.false_ne_true hempty
  noOperator op hop := by
    rw [c.keys_toQuery] at hop
    exact h.named op.key hop (by cases op <;> rfl)

theorem ofQuery_encode (h : c.Legible) : ofQuery (c.tests.map Matcher.encode).entries = c := by
  have hback : (c.tests.map Matcher.encode).entries.map (fun m => (m.1, Matcher.ofQuery m.2)) =
      c.tests.entries := by
    unfold Dict.map
    rw [List.map_map]
    refine (List.map_congr_left fun test htest => ?_).trans (List.map_id _)
    have htold := h.told test.2 (List.mem_map_of_mem htest)
    exact Prod.ext rfl (Matcher.ofQuery_encode htold)
  unfold ofQuery
  rw [hback, Dict.ofList_entries]

end Legible

/-- Equality of conditions, test by test. -/
def same (c d : Condition) : Bool :=
  c.tests.entries.isEqv d.tests.entries fun a b => a.1 == b.1 && a.2.same b.2

theorem sameMembers_encode {as bs : List (String × Matcher)}
    (has : ∀ a ∈ as, a.2.legible = true) (hbs : ∀ b ∈ bs, b.2.legible = true) :
    Json.sameMembers (as.map fun test => (test.1, test.2.encode))
      (bs.map fun test => (test.1, test.2.encode)) =
      as.isEqv bs fun a b => a.1 == b.1 && a.2.same b.2 := by
  induction as generalizing bs with
  | nil => cases bs <;> rfl
  | cons a as ih =>
    cases bs with
    | nil => rfl
    | cons b bs =>
      rw [List.forall_mem_cons] at has hbs
      rw [List.map_cons, List.map_cons, Json.sameMembers, Matcher.same_encode has.1 hbs.1,
        ih has.2 hbs.2]
      rfl

/-- The documents of legible conditions are the same just where the conditions are. -/
theorem Legible.same_toQuery (hc : c.Legible) (hd : d.Legible) :
    c.toQuery.same d.toQuery = c.same d :=
  sameMembers_encode (List.forall_mem_map.1 hc.told) (List.forall_mem_map.1 hd.told)

end Condition

/-! ## Filters -/

namespace Filter

/-- No condition in a filter poses as something else. -/
def Legible (f : Filter) : Prop := ∀ c ∈ f.conditions, c.Legible

instance (f : Filter) : Decidable f.Legible :=
  inferInstanceAs (Decidable (∀ c ∈ f.conditions, c.Legible))

mutual

/-- The filter that a document was written for. -/
def ofQuery? : Json → Option Filter
  | .object [] => some .everything
  | .object [("$expr", .bool false)] => some .nothing
  | .object [("$nor", .array [q])] => (ofQuery? q).map .not
  | .object [("$and", .array qs)] => (ofQueries? qs).map .all
  | .object [("$or", .array qs)] => (ofQueries? qs).map .any
  | .object ms => some (.where (.ofQuery ms))
  | _ => none

def ofQueries? : List Json → Option (List Filter)
  | [] => some []
  | q :: qs => (ofQuery? q).bind fun f => (ofQueries? qs).map (f :: ·)

end

/-- A document is read as a condition if its keys are names of fields. -/
theorem ofQuery?_object {ms : List (String × Json)} (h : Query.NamesFields (.object ms)) :
    ofQuery? (.object ms) = some (.where (.ofQuery ms)) := by
  unfold ofQuery?
  split
  · next heq => cases heq; exact absurd rfl h.nonempty
  · next heq => cases heq; exact absurd (.head _) (h.noOperator .expr)
  · next heq => cases heq; exact absurd (.head _) (h.noOperator .nor)
  · next heq => cases heq; exact absurd (.head _) (h.noOperator .and)
  · next heq => cases heq; exact absurd (.head _) (h.noOperator .or)
  · next heq => cases heq; rfl
  · next hobject => exact absurd rfl (hobject ms)

mutual

/-- **A legible filter is read back from its document.** -/
theorem ofQuery?_toQuery : (f : Filter) → f.Legible → ofQuery? f.toQuery = some f
  | .nothing, _ => rfl
  | .everything, _ => rfl
  | .where c, h => by
    have hc : c.Legible := h c List.mem_cons_self
    show ofQuery? (.object (c.tests.map Matcher.encode).entries) = _
    rw [ofQuery?_object hc.namesFields, hc.ofQuery_encode]
  | .not f, h => by
    rw [toQuery, ofQuery?, ofQuery?_toQuery f h, Option.map_some]
  | .all fs, h => by
    rw [toQuery, ofQuery?, ofQueries?_toQueries fs h, Option.map_some]
  | .any fs, h => by
    rw [toQuery, ofQuery?, ofQueries?_toQueries fs h, Option.map_some]

theorem ofQueries?_toQueries : (fs : List Filter) → (∀ c ∈ conditionsOf fs, c.Legible) →
    ofQueries? (toQueries fs) = some fs
  | [], _ => rfl
  | f :: fs, h => by
    obtain ⟨hf, hfs⟩ := List.forall_mem_append.1 h
    rw [toQueries, ofQueries?, ofQuery?_toQuery f hf, Option.bind_some,
      ofQueries?_toQueries fs hfs, Option.map_some]

end

mutual

/-- Equality of filters, part by part, up to the equality that conditions compare values with. -/
def same : Filter → Filter → Bool
  | .nothing, .nothing => true
  | .everything, .everything => true
  | .where c, .where d => c.same d
  | .not f, .not g => same f g
  | .all fs, .all gs => sameParts fs gs
  | .any fs, .any gs => sameParts fs gs
  | _, _ => false

def sameParts : List Filter → List Filter → Bool
  | [], [] => true
  | f :: fs, g :: gs => same f g && sameParts fs gs
  | _, _ => false

end

/-- A document with names of fields for keys was written for a condition. -/
theorem exists_where_of_namesFields {f : Filter} (h : Query.NamesFields f.toQuery) :
    ∃ c, f = .where c := by
  cases f with
  | «where» c => exact ⟨c, rfl⟩
  | everything => exact absurd rfl h.nonempty
  | nothing => exact absurd (.head _) (h.noOperator .expr)
  | not _ => exact absurd (.head _) (h.noOperator .nor)
  | all _ => exact absurd (.head _) (h.noOperator .and)
  | any _ => exact absurd (.head _) (h.noOperator .or)

/-- The document of a legible condition is not the same as that of another kind of filter. -/
theorem not_same_toQuery {c : Condition} (hc : c.Legible) {f : Filter}
    (hf : ∀ d, f ≠ .where d) :
    c.toQuery.same f.toQuery = false ∧ f.toQuery.same c.toQuery = false := by
  have hkeys : c.toQuery.keys ≠ f.toQuery.keys := by
    intro heq
    have hnames : Query.NamesFields f.toQuery :=
      ⟨heq ▸ hc.namesFields.nonempty, heq ▸ hc.namesFields.noOperator⟩
    obtain ⟨d, hd⟩ := exists_where_of_namesFields hnames
    exact hf d hd
  constructor
  · exact Bool.eq_false_iff.2 fun h => hkeys (Json.keys_eq_of_same h)
  · exact Bool.eq_false_iff.2 fun h => hkeys (Json.keys_eq_of_same h).symm

mutual

/-- **The documents of legible filters are the same just where the filters are.** -/
theorem same_toQuery : (f g : Filter) → f.Legible → g.Legible →
    f.toQuery.same g.toQuery = f.same g
  -- Two operators are told apart by their keys, which are compared as they stand. For the names of
  -- fields it takes the condition to be legible.
  | .nothing, g, _, hg => by
    cases g with
    | «where» d => exact (not_same_toQuery (hg d (.head _)) (by simp)).2
    | _ => rfl
  | .everything, g, _, hg => by
    cases g with
    | «where» d => exact (not_same_toQuery (hg d (.head _)) (by simp)).2
    | _ => rfl
  | .where c, g, hf, hg => by
    have hc : c.Legible := hf c (.head _)
    cases g with
    | «where» d => exact hc.same_toQuery (hg d (.head _))
    | _ => exact (not_same_toQuery hc (by simp)).1
  | .not f, g, hf, hg => by
    cases g with
    | «where» d => exact (not_same_toQuery (hg d (.head _)) (by simp)).2
    | not g =>
      rw [toQuery, toQuery, Json.same_singleton, Json.same, Json.sameItems, Json.sameItems,
        Bool.and_true, same_toQuery f g hf hg, same]
    | _ => rfl
  | .all fs, g, hf, hg => by
    cases g with
    | «where» d => exact (not_same_toQuery (hg d (.head _)) (by simp)).2
    | all gs =>
      rw [toQuery, toQuery, Json.same_singleton, Json.same, sameItems_toQueries fs gs hf hg, same]
    | _ => rfl
  | .any fs, g, hf, hg => by
    cases g with
    | «where» d => exact (not_same_toQuery (hg d (.head _)) (by simp)).2
    | any gs =>
      rw [toQuery, toQuery, Json.same_singleton, Json.same, sameItems_toQueries fs gs hf hg, same]
    | _ => rfl

theorem sameItems_toQueries : (fs gs : List Filter) → (∀ c ∈ conditionsOf fs, c.Legible) →
    (∀ c ∈ conditionsOf gs, c.Legible) →
    Json.sameItems (toQueries fs) (toQueries gs) = sameParts fs gs
  | [], [], _, _ => rfl
  | [], _ :: _, _, _ => rfl
  | _ :: _, [], _, _ => rfl
  | f :: fs, g :: gs, hf, hg => by
    obtain ⟨hf, hfs⟩ := List.forall_mem_append.1 hf
    obtain ⟨hg, hgs⟩ := List.forall_mem_append.1 hg
    rw [toQueries, toQueries, Json.sameItems, same_toQuery f g hf hg,
      sameItems_toQueries fs gs hfs hgs, sameParts]

end

variable {f g : Filter}

/-- **The document of a filter loses nothing**: legible filters are equal just where their
documents are, and the same just where their documents are the same. -/
theorem toQuery_inj (hf : f.Legible) (hg : g.Legible) :
    (f.toQuery = g.toQuery ↔ f = g) ∧ f.toQuery.same g.toQuery = f.same g := by
  have hread : f.toQuery = g.toQuery → f = g := by
    intro h
    have hback : some f = some g := by
      rw [← ofQuery?_toQuery f hf, h, ofQuery?_toQuery g hg]
    exact Option.some.inj hback
  exact ⟨⟨hread, congrArg toQuery⟩, same_toQuery f g hf hg⟩

/-- The records whose person fails a test, along with a joint of nothing. -/
def exceptFor (person : Matcher) : Filter :=
  .any [.not (.where ⟨Dict.empty.insert "person" person⟩), .all []]

/-- A choice of persons with a further member is a value like any other. -/
def annotatedChoice : Json :=
  .object [("$in", .array [.text "p1"]), ("note", .text "by request")]

theorem toQuery_inj_annotatedChoice :
    ((exceptFor (.isIn [.text "p1"])).Legible ∧ (exceptFor (.eq annotatedChoice)).Legible) ∧
      (exceptFor (.isIn [.text "p1"])).toQuery ≠ (exceptFor (.eq annotatedChoice)).toQuery ∧
      (exceptFor (.isIn [.text "p1"])).toQuery.same (exceptFor (.eq annotatedChoice)).toQuery =
        false := by
  have hchoice : (exceptFor (.isIn [.text "p1"])).Legible := by decide
  have hvalue : (exceptFor (.eq annotatedChoice)).Legible := by decide
  obtain ⟨hequal, hsame⟩ := toQuery_inj hchoice hvalue
  have hne : exceptFor (.isIn [.text "p1"]) ≠ exceptFor (.eq annotatedChoice) := fun h => by
    cases h
  exact ⟨⟨hchoice, hvalue⟩, fun h => hne (hequal.1 h), hsame⟩

/-- Conditions that pose as something else share their documents with other filters: one without
tests, one with an operator for the name of a field, and one with a choice for a value to equal. -/
example :
    (Filter.where Condition.empty).toQuery = everything.toQuery ∧
      (Filter.where (Condition.empty.eq "$nor" (.array [.object []]))).toQuery =
        (Filter.not everything).toQuery ∧
      (Filter.where (Condition.empty.eq "person" (.object [("$in", .array [])]))).toQuery =
        (Filter.where (Condition.empty.isIn "person" [])).toQuery :=
  ⟨rfl, rfl, rfl⟩

end Filter

end VolunteerAccess
