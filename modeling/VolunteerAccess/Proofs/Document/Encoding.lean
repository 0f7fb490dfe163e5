import Mathlib.Data.List.Nodup
import VolunteerAccess.Interest
import VolunteerAccess.Proofs.Dict.Insertion

/-!
# Records read back from their encodings

A record is encoded as an object with one member for each of its fields. Reading
looks the fields up by name, so nothing depends on the order that the object puts
its members in.

- `Document.fields?_mkObject`: the fields of an encoded structure are the members
  that were written, in whatever order.
- `Document.list?_array`: a list is read back if its items are.
- `Json.without`: a value without one of its members.
- `Interest.decode?_encode`: **an interest is read back from its encoding**.
-/

namespace VolunteerAccess

/-! ## Structures -/

namespace Document

/-- No name occurs twice among members whose names are distinct. -/
theorem repeats_of_nodup {τ : Type} [Document τ] {ms : List (String × τ)}
    (h : (ms.map Prod.fst).Nodup) (names : List String) : repeats names ms = false := by
  refine List.any_eq_false.2 fun n _ => ?_
  have hcount : ms.countP (fun m => m.1 == n) = (ms.map Prod.fst).count n := by
    rw [List.count, List.countP_map]
    rfl
  have hone := List.nodup_iff_count_le_one.1 h n
  rw [hcount, decide_eq_true_eq]
  omega

/-- The fields of an encoded structure are the members that were written. -/
theorem fields?_mkObject (names : List String) {ms : List (String × Json)}
    (h : (ms.map Prod.fst).Nodup) :
    fields? names (Json.mkObject ms) = some (fun n => ms.lookup n) := by
  have hrepeats : repeats names (Dict.ofList ms).entries = false :=
    repeats_of_nodup (Dict.ofList ms).nodup_keys names
  show (if repeats names (Dict.ofList ms).entries = true then none
    else some (fun n => (Dict.ofList ms).entries.lookup n)) = _
  rw [hrepeats, if_neg Bool.false_ne_true]
  -- The object has its members in key order, and looks them up as they were written.
  simp only [Dict.lookup_ofList h]

theorem list?_array {α : Type} {read : Json → Option α} {write : α → Json}
    (h : ∀ x, read (write x) = some x) (xs : List α) :
    list? read (.array (xs.map write)) = some xs := by
  show (xs.map write).mapM read = some xs
  induction xs with
  | nil => rfl
  | cons x xs ih =>
    rw [List.map_cons, List.mapM_cons, h x, ih]
    rfl

end Document

/-! ## Members taken out -/

namespace Json

/-- The value without the members of a name. -/
def without (name : String) : Json → Json
  | .object ms => .object (ms.filter (fun m => m.1 != name))
  | v => v

theorem without_ofDict (d : Dict Json) (name : String) :
    (ofDict d).without name = ofDict (d.erase name) := rfl

theorem get?_ofDict (d : Dict Json) (name : String) : (ofDict d).get? name = d.get? name := rfl

/-- A member of an encoded structure is found by its name. -/
theorem get?_mkObject {ms : List (String × Json)} (h : (ms.map Prod.fst).Nodup)
    {name : String} {v : Json} (hmem : (name, v) ∈ ms) : (mkObject ms).get? name = some v := by
  unfold mkObject
  rw [get?_ofDict, (Dict.get?_ofList_iff h).2 hmem]

end Json

/-! ## Interests -/

theorem Decimal.natural64?_toNat (n : UInt64) : natural64? n.toNat = some n := by
  have hlt : n.toNat < Nat.pow 2 64 := n.toNat_lt
  have hrange : isNatural64 n.toNat = true := by
    unfold isNatural64
    rw [Int.toNat_natCast, decide_eq_true (Int.natCast_nonneg _), decide_eq_true hlt]
    rfl
  unfold natural64?
  rw [if_pos hrange, Int.toNat_natCast, UInt64.ofNat_toNat]

theorem Status.decode?_encode (s : Status) : Status.decode? s.encode = some s := by
  cases s <;> rfl

theorem Message.decode?_encode (m : Message) : Message.decode? m.encode = some m := by
  unfold Message.decode? Message.encode
  rw [Document.fields?_mkObject _ (by simp)]
  rfl

namespace Interest

/-- **An interest is read back from its encoding.** -/
theorem decode?_encode (i : Interest) : Interest.decode? i.encode = some i := by
  have hmessages : Document.list? Message.decode? (Json.array (i.messages.map Message.encode)) =
      some i.messages := Document.list?_array Message.decode?_encode i.messages
  have hdate : Document.count? (Json.ofNat i.dateAdded.toNat) = some i.dateAdded :=
    Decimal.natural64?_toNat i.dateAdded
  unfold Interest.decode? Interest.encode
  rw [Document.fields?_mkObject _ (by simp)]
  show (do
    let status ← Status.decode? i.status.encode
    let messages ← Document.list? Message.decode? (Json.array (i.messages.map Message.encode))
    let dateAdded ← Document.count? (Json.ofNat i.dateAdded.toNat)
    return ({ i with status, messages, dateAdded } : Interest)) = some i
  rw [i.status.decode?_encode, hmessages, hdate]
  rfl

end Interest

end VolunteerAccess
