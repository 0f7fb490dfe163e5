import VolunteerAccess.Condition

/-!
# Filters

A filter selects the records that a query may return, so that records a session
must not see are never fetched.

- `Filter`: conditions joined by negation, conjunction and disjunction.
- `Filter.holds`: whether a record is selected.
- `Filter.or`, `Filter.and`, `Filter.negate`: the combinators, which simplify as
  they go: the constants are absorbed, nested joints of one kind are flattened,
  and a double negation cancels.
- `Filter.ofCondition`: the filter of a condition, a constant where the
  condition is trivial.
-/

namespace VolunteerAccess

/-- A selection of records. -/
inductive Filter where
  /-- No record. -/
  | nothing
  /-- Every record. -/
  | everything
  /-- The records that meet a condition. -/
  | where (condition : Condition)
  /-- The records that another filter leaves out. -/
  | not (inner : Filter)
  /-- The records that all parts select. -/
  | all (parts : List Filter)
  /-- The records that some part selects. -/
  | any (parts : List Filter)
deriving Inhabited

namespace Filter

/-- The filter of a condition. -/
def ofCondition (c : Condition) : Filter :=
  if c.isUnsatisfiable then .nothing
  else if c.isEmpty then .everything
  else .where c

/-- The filter that selects the record with the given id. -/
def byId (id : Json) : Filter := .where (Condition.empty.eq "_id" id)

/-- What either filter selects. -/
def or : Filter → Filter → Filter
  | .everything, _ | _, .everything => .everything
  | .nothing, f | f, .nothing => f
  | .any ls, .any rs => .any (ls ++ rs)
  | .any ls, f => .any (ls ++ [f])
  | f, .any rs => .any (f :: rs)
  | f, g => .any [f, g]

/-- What both filters select. -/
def and : Filter → Filter → Filter
  | .nothing, _ | _, .nothing => .nothing
  | .everything, f | f, .everything => f
  | .all ls, .all rs => .all (ls ++ rs)
  | .all ls, f => .all (ls ++ [f])
  | f, .all rs => .all (f :: rs)
  | f, g => .all [f, g]

/-- What the filter leaves out. -/
def negate : Filter → Filter
  | .nothing => .everything
  | .everything => .nothing
  | .not f => f
  | f => .not f

mutual

/-- Whether a record is selected. -/
def holds (t : Target) : Filter → Bool
  | .nothing => false
  | .everything => true
  | .where c => c.holds t
  | .not f => !holds t f
  | .all fs => allHold t fs
  | .any fs => anyHolds t fs

/-- Whether all of some filters select a record. -/
def allHold (t : Target) : List Filter → Bool
  | [] => true
  | f :: fs => holds t f && allHold t fs

/-- Whether one of some filters selects a record. -/
def anyHolds (t : Target) : List Filter → Bool
  | [] => false
  | f :: fs => holds t f || anyHolds t fs

end

theorem allHold_eq (t : Target) : (fs : List Filter) → allHold t fs = fs.all (holds t)
  | [] => rfl
  | f :: fs => by rw [allHold, allHold_eq t fs, List.all_cons]

theorem anyHolds_eq (t : Target) : (fs : List Filter) → anyHolds t fs = fs.any (holds t)
  | [] => rfl
  | f :: fs => by rw [anyHolds, anyHolds_eq t fs, List.any_cons]

end Filter

end VolunteerAccess
