import VolunteerAccess.Filter.Query
import VolunteerAccess.Proofs.Filter.Conditions

/-!
# What query documents mean

A store with a query language of its own reads a filter as a document. This module
says what such a document selects, in terms of the document alone, and that it is
what the filter selects.

- `Query.Operator`: the keys that are not names of fields.
- `Query.selects`: the records that a document selects.
- `Condition.plain`: the conditions that a document can tell from operators.
- `Filter.selects_toQuery`: **the document of a filter selects what the filter does**,
  however deep the filter is.
-/

namespace VolunteerAccess

/-! ## Query documents -/

namespace Query

/-- A key that is not the name of a field. -/
inductive Operator where
  | and
  | or
  | nor
  | expr
deriving DecidableEq

namespace Operator

def all : List Operator := [.and, .or, .nor, .expr]

def key : Operator → String
  | .and => "$and"
  | .or => "$or"
  | .nor => "$nor"
  | .expr => "$expr"

def ofKey? (s : String) : Option Operator := all.find? (fun op => op.key == s)

/-- The key of an operator starts with a dollar sign, which is how it is told from a field. -/
theorem ofKey?_eq_none {s : String} (h : s.toList.head? ≠ some '$') : ofKey? s = none := by
  refine List.find?_eq_none.2 fun op _ hop => h ?_
  rw [← beq_iff_eq.1 hop]
  cases op <;> rfl

end Operator

/-- A field is set, and it is one of the values listed under `$in` or, without such a list, the
value itself. -/
def test (t : Target) (name : String) : Json → Bool
  | .object [("$in", .array vs)] => (t.field name).any (fun x => vs.any (fun v => v.same x))
  | v => (t.field name).any v.same

mutual

/-- Whether a document selects a record: all of its members must hold. -/
def selects (t : Target) : Json → Bool
  | .object ms => membersHold t ms
  | _ => false

def membersHold (t : Target) : List (String × Json) → Bool
  | [] => true
  | (key, v) :: ms => memberHolds t key v && membersHold t ms

/-- An operator that is given something else than it takes selects nothing. -/
def memberHolds (t : Target) (key : String) (v : Json) : Bool :=
  match Operator.ofKey? key, v with
  | none, v => test t key v
  | some .and, .array qs => allSelect t qs
  | some .or, .array qs => anySelects t qs
  | some .nor, .array qs => !anySelects t qs
  | some .expr, .bool b => b
  | some _, _ => false

def allSelect (t : Target) : List Json → Bool
  | [] => true
  | q :: qs => selects t q && allSelect t qs

def anySelects (t : Target) : List Json → Bool
  | [] => false
  | q :: qs => selects t q || anySelects t qs

end

variable (t : Target)

theorem selects_singleton (key : String) (v : Json) :
    selects t (.object [(key, v)]) = memberHolds t key v := by
  rw [selects, membersHold, membersHold, Bool.and_true]

/-- A key that is no operator is a field. -/
theorem memberHolds_of_none {key : String} (h : Operator.ofKey? key = none) (v : Json) :
    memberHolds t key v = test t key v := by
  unfold memberHolds
  rw [h]

theorem selects_and (qs : List Json) :
    selects t (.object [("$and", .array qs)]) = allSelect t qs := by
  rw [selects_singleton]
  rfl

theorem selects_or (qs : List Json) :
    selects t (.object [("$or", .array qs)]) = anySelects t qs := by
  rw [selects_singleton]
  rfl

theorem selects_nor (qs : List Json) :
    selects t (.object [("$nor", .array qs)]) = !anySelects t qs := by
  rw [selects_singleton]
  rfl

end Query

/-! ## Conditions -/

/-- Whether a test is no equality with an object, which could be taken for a list to choose
from. -/
def Matcher.plain : Matcher → Bool
  | .eq (.object _) => false
  | _ => true

namespace Condition

/-- Whether the name of a field cannot be taken for an operator, nor its test for another one. -/
def plainTest (test : String × Matcher) : Bool :=
  test.1.toList.head? != some '$' && test.2.plain

/-- Whether all tests of a condition can be told from operators. -/
def plain (c : Condition) : Bool := c.tests.entries.all plainTest

theorem plain_insert {c : Condition} {name : String} {m : Matcher} (hc : c.plain = true)
    (hname : name.toList.head? ≠ some '$') (hm : m.plain = true) :
    plain ⟨c.tests.insert name m⟩ = true := by
  refine List.all_eq_true.2 fun test htest => ?_
  rcases Dict.mem_insertEntry htest with rfl | hold
  · exact Bool.and_eq_true_iff.2 ⟨bne_iff_ne.2 hname, hm⟩
  · exact List.all_eq_true.1 hc test hold

/-- A test of a field for a text is plain. -/
theorem plain_eq_text {c : Condition} {name : String} (hc : c.plain = true)
    (hname : name.toList.head? ≠ some '$') (s : String) : (c.eq name (.text s)).plain = true :=
  plain_insert hc hname rfl

variable (t : Target)

theorem test_encode {m : Matcher} (h : m.plain = true) (name : String) :
    Query.test t name m.encode = passes t (name, m) := by
  cases m with
  | isIn vs => rfl
  | eq v =>
    cases v with
    | object ms => cases h
    | _ => rfl

theorem memberHolds_encode {test : String × Matcher} (h : plainTest test = true) :
    Query.memberHolds t test.1 test.2.encode = passes t test := by
  unfold plainTest at h
  rw [Bool.and_eq_true, bne_iff_ne] at h
  rw [Query.memberHolds_of_none t (Query.Operator.ofKey?_eq_none h.1)]
  exact test_encode t h.2 test.1

theorem membersHold_encode {tests : List (String × Matcher)} (h : tests.all plainTest = true) :
    Query.membersHold t (tests.map fun test => (test.1, test.2.encode)) = tests.all (passes t) := by
  induction tests with
  | nil => rfl
  | cons test tests ih =>
    rw [List.all_cons, Bool.and_eq_true] at h
    rw [List.map_cons, Query.membersHold, memberHolds_encode t h.1, ih h.2, List.all_cons]

/-- The document of a plain condition selects the records that meet it. -/
theorem selects_toQuery {c : Condition} (h : c.plain = true) :
    Query.selects t c.toQuery = c.holds t := by
  show Query.selects t (.object (c.tests.entries.map fun test => (test.1, test.2.encode))) = _
  rw [Query.selects]
  exact membersHold_encode t h

end Condition

/-! ## Filters -/

namespace Filter

/-- Whether all conditions in a filter are plain. -/
def Plain (f : Filter) : Prop := ∀ c ∈ f.conditions, c.plain = true

theorem plain_everything : everything.Plain := fun _ h => absurd h List.not_mem_nil

theorem plain_ofCondition {c : Condition} (h : c.plain = true) : (ofCondition c).Plain :=
  fun d hd => by rw [mem_conditions_ofCondition hd, h]

theorem Plain.and {f g : Filter} (hf : f.Plain) (hg : g.Plain) : (f.and g).Plain := fun c hc =>
  (mem_conditions_and hc).elim (hf c) (hg c)

variable (t : Target)

mutual

/-- **The document of a filter selects what the filter does**, if its conditions are plain. -/
theorem selects_toQuery : (f : Filter) → f.Plain → Query.selects t f.toQuery = f.holds t
  | .nothing, _ => rfl
  | .everything, _ => rfl
  | .where c, h => Condition.selects_toQuery t (h c List.mem_cons_self)
  | .not f, h => by
    -- A negation is written as a disjunction of one part that must fail.
    rw [toQuery, Query.selects_nor, Query.anySelects, Query.anySelects, Bool.or_false,
      selects_toQuery f h, holds]
  | .all fs, h => by
    rw [toQuery, Query.selects_and, allSelect_toQueries fs h, holds]
  | .any fs, h => by
    rw [toQuery, Query.selects_or, anySelects_toQueries fs h, holds]

theorem allSelect_toQueries : (fs : List Filter) → (∀ c ∈ conditionsOf fs, c.plain = true) →
    Query.allSelect t (toQueries fs) = allHold t fs
  | [], _ => rfl
  | f :: fs, h => by
    obtain ⟨hf, hfs⟩ := List.forall_mem_append.1 h
    rw [toQueries, Query.allSelect, selects_toQuery f hf, allSelect_toQueries fs hfs, allHold]

theorem anySelects_toQueries : (fs : List Filter) → (∀ c ∈ conditionsOf fs, c.plain = true) →
    Query.anySelects t (toQueries fs) = anyHolds t fs
  | [], _ => rfl
  | f :: fs, h => by
    obtain ⟨hf, hfs⟩ := List.forall_mem_append.1 h
    rw [toQueries, Query.anySelects, selects_toQuery f hf, anySelects_toQueries fs hfs, anyHolds]

end

/-- A value that looks like a list to choose from is taken for one. -/
example :
    let c := Condition.empty.eq "person" (.object [("$in", .array [.text "p1"])])
    let r := (Record.empty .interest).set "person" (.text "p1")
    c.plain = false ∧ c.holds r.target = false ∧ Query.selects r.target c.toQuery = true := by
  decide

end Filter

end VolunteerAccess
