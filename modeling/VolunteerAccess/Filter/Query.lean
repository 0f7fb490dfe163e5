import VolunteerAccess.Filter

/-!
# Filters as query documents

A store with a query language of its own is given a filter as a document: fields
with their wanted values, and the operators `$in`, `$and`, `$or`, `$nor` and
`$expr`.
-/

namespace VolunteerAccess

/-- The tests of a condition as members of a query document. -/
def Condition.toQuery (c : Condition) : Json := c.encode

namespace Filter

mutual

/-- The query document of a filter. -/
def toQuery : Filter → Json
  | .nothing => .object [("$expr", .bool false)]
  | .everything => .object []
  | .where c => c.toQuery
  | .not f => .object [("$nor", .array [toQuery f])]
  | .all fs => .object [("$and", .array (toQueries fs))]
  | .any fs => .object [("$or", .array (toQueries fs))]

def toQueries : List Filter → List Json
  | [] => []
  | f :: fs => toQuery f :: toQueries fs

end

theorem toQueries_eq : (fs : List Filter) → toQueries fs = fs.map toQuery
  | [] => rfl
  | f :: fs => by rw [toQueries, toQueries_eq fs, List.map_cons]

end Filter

end VolunteerAccess
