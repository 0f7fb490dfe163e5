import VolunteerAccess.Json.Reader

/-!
# Values that equal themselves

Values are compared number by number, and a NaN equals nothing, itself included. All
numbers that are read or computed are rounded from a ratio of naturals, and rounding goes
to infinity at most. So the values of texts, unlike the numbers by themselves, are equal
to themselves.

- `Binary64.isNaN_nearest`: rounding a ratio never gives a NaN.
- `Json.nanFree`: the values without a NaN. `Json.same_self`: they equal themselves.
- `Json.same_self_of_parse?`: **a value that was read equals itself**, as
  `Json.nanFree_of_parse?` has it free of NaNs.
-/

namespace VolunteerAccess

/-! ## Numbers -/

namespace Binary64

theorem same_self (x : Binary64) : x.same x = !x.isNaN := by
  unfold same
  rw [beq_self_eq_true, Bool.true_or, Bool.and_true, Bool.and_self]

/-- The largest magnitude is that of infinity. -/
theorem isNaN_ofMagnitude (negative : Bool) (magnitude : Nat) :
    (ofMagnitude negative magnitude).isNaN = false := by
  have hpow52 : Nat.pow 2 52 = 4503599627370496 := rfl
  have hpow63 : Nat.pow 2 63 = 9223372036854775808 := rfl
  unfold isNaN exponentField fractionField ofMagnitude
  rw [hpow52, hpow63, UInt64.toNat_ofNat', Bool.and_eq_false_iff, beq_eq_false_iff_ne,
    bne_eq_false_iff_eq]
  split <;> omega

/-- The sign does not tell a NaN from a number. -/
theorem isNaN_neg (x : Binary64) : x.neg.isNaN = x.isNaN := by
  have hsign : (0x8000000000000000 : UInt64).toNat = 2 ^ 63 := rfl
  have hexponent : x.neg.exponentField = x.exponentField := by
    show (x.bits ^^^ 0x8000000000000000).toNat / 2 ^ 52 % 2 ^ 11 = x.bits.toNat / 2 ^ 52 % 2 ^ 11
    rw [UInt64.toNat_xor, hsign, Nat.xor_div_two_pow, Nat.xor_mod_two_pow]
    exact Nat.xor_zero _
  have hfraction : x.neg.fractionField = x.fractionField := by
    show (x.bits ^^^ 0x8000000000000000).toNat % 2 ^ 52 = x.bits.toNat % 2 ^ 52
    rw [UInt64.toNat_xor, hsign, Nat.xor_mod_two_pow]
    exact Nat.xor_zero _
  unfold isNaN
  rw [hexponent, hfraction]

theorem isNaN_nearest (negative : Bool) (num den : Nat) :
    (nearest negative num den).isNaN = false := by
  unfold nearest
  split
  · exact isNaN_ofMagnitude _ _
  · exact isNaN_ofMagnitude _ _

end Binary64

namespace Json

/-! ## Equality -/

mutual

/-- Whether no number in a value is a NaN. -/
def nanFree : Json → Bool
  | .number (.real x) => !x.isNaN
  | .array vs => allNanFree vs
  | .object ms => membersNanFree ms
  | _ => true

def allNanFree : List Json → Bool
  | [] => true
  | v :: vs => nanFree v && allNanFree vs

def membersNanFree : List (String × Json) → Bool
  | [] => true
  | (_, v) :: ms => nanFree v && membersNanFree ms

end

theorem allNanFree_eq : (vs : List Json) → allNanFree vs = vs.all nanFree
  | [] => rfl
  | v :: vs => by rw [allNanFree, allNanFree_eq vs, List.all_cons]

theorem membersNanFree_eq : (ms : List (String × Json)) →
    membersNanFree ms = ms.all fun m => m.2.nanFree
  | [] => rfl
  | (key, v) :: ms => by rw [membersNanFree, membersNanFree_eq ms, List.all_cons]

theorem nanFree_of_mem {ms : List (String × Json)} (h : membersNanFree ms = true)
    {m : String × Json} (hm : m ∈ ms) : m.2.nanFree = true := by
  rw [membersNanFree_eq, List.all_eq_true] at h
  exact h m hm

theorem nanFree_of_get? {v w : Json} (h : v.nanFree = true) {name : String}
    (hw : v.get? name = some w) : w.nanFree = true := by
  cases v with
  | object ms =>
    obtain ⟨m, hm, rfl⟩ := Option.map_eq_some_iff.1 hw
    exact nanFree_of_mem h (List.mem_of_find?_eq_some hm)
  | _ => cases hw

mutual

/-- A value equals itself, unless there is a NaN in it. -/
theorem same_self : (v : Json) → v.nanFree = true → v.same v = true
  | .null, _ => rfl
  | .bool b, _ => beq_self_eq_true b
  | .number (.integer n), _ => beq_self_eq_true n
  | .number (.real x), h => by
    show x.same x = true
    rw [Binary64.same_self]
    exact h
  | .text s, _ => beq_self_eq_true s
  | .array vs, h => sameItems_self vs h
  | .object ms, h => sameMembers_self ms h

theorem sameItems_self : (vs : List Json) → allNanFree vs = true → sameItems vs vs = true
  | [], _ => rfl
  | v :: vs, h => by
    rw [allNanFree, Bool.and_eq_true] at h
    rw [sameItems, same_self v h.1, sameItems_self vs h.2, Bool.and_self]

theorem sameMembers_self :
    (ms : List (String × Json)) → membersNanFree ms = true → sameMembers ms ms = true
  | [], _ => rfl
  | (key, v) :: ms, h => by
    rw [membersNanFree, Bool.and_eq_true] at h
    rw [sameMembers, beq_self_eq_true, same_self v h.1, sameMembers_self ms h.2, Bool.and_self,
      Bool.and_self]

end

/-! ## Values of texts -/

/-- Whatever a significand is scaled by, the result was rounded last. -/
theorem Scaled.isNaN_of_toReal? {significand : Nat} {e : Int} {x : Binary64}
    (h : toReal? significand e = some x) : x.isNaN = false := by
  have hround {negative : Bool} {num den : Nat}
      (hx : some (Binary64.nearest negative num den) = some x) : x.isNaN = false := by
    cases hx
    exact Binary64.isNaN_nearest _ _ _
  unfold toReal? at h
  dsimp only at h
  split at h
  · exact hround h
  · split at h
    · cases h
    · split at h
      · split at h
        · cases h
        · exact hround h
      · split at h
        · exact hround h
        · split at h
          · exact hround h
          · exact hround h

/-- The number of a literal is whole, or rounded and then given a sign. -/
theorem Literal.nanFree_of_value? {l : Literal} {n : Number} (h : l.value? = some n) :
    (Json.number n).nanFree = true := by
  have hreal {significand : Nat} {e : Int}
      (hn : (Scaled.toReal? significand e).map
        (fun x => Number.real (if l.negative then x.neg else x)) = some n) :
      (Json.number n).nanFree = true := by
    obtain ⟨x, hx, rfl⟩ := Option.map_eq_some_iff.1 hn
    have hnumber := Scaled.isNaN_of_toReal? hx
    cases hsign : l.negative with
    | false => simp [nanFree, hnumber]
    | true => simp [nanFree, hnumber, Binary64.isNaN_neg]
  unfold value? at h
  dsimp only at h
  split at h
  · split at h
    · cases h
      rfl
    · split at h
      · cases h
        rfl
      · exact hreal h
  · exact hreal h

theorem nanFree_mkObject {ms : List (String × Json)} (h : membersNanFree ms = true) :
    (mkObject ms).nanFree = true := by
  show membersNanFree (Dict.ofList ms).entries = true
  rw [membersNanFree_eq, List.all_eq_true]
  intro m hm
  exact nanFree_of_mem h (Dict.mem_of_get?_ofList (Dict.get?_eq_some_iff.2 hm))

mutual

theorem Tree.nanFree_of_toJson? : (t : Tree) → (depth : Nat) → (v : Json) →
    t.toJson? depth = some v → v.nanFree = true
  | .null, _, _, h => by cases h; rfl
  | .bool _, _, _, h => by cases h; rfl
  | .number l, _, v, h => by
    rw [Tree.toJson?] at h
    obtain ⟨n, hn, rfl⟩ := Option.map_eq_some_iff.1 h
    exact Literal.nanFree_of_value? hn
  | .text s, _, v, h => by
    rw [Tree.toJson?] at h
    obtain ⟨s, -, rfl⟩ := Option.map_eq_some_iff.1 h
    rfl
  | .array items, 0, _, h => by cases h
  | .array items, depth + 1, v, h => by
    rw [Tree.toJson?] at h
    obtain ⟨vs, hvs, rfl⟩ := Option.map_eq_some_iff.1 h
    exact Tree.allNanFree_of_toItems? items depth vs hvs
  | .object members, 0, _, h => by cases h
  | .object members, depth + 1, v, h => by
    rw [Tree.toJson?] at h
    obtain ⟨ms, hms, rfl⟩ := Option.map_eq_some_iff.1 h
    exact nanFree_mkObject (Tree.membersNanFree_of_toMembers? members depth ms hms)

theorem Tree.allNanFree_of_toItems? : (ts : List Tree) → (depth : Nat) → (vs : List Json) →
    Tree.toItems? depth ts = some vs → allNanFree vs = true
  | [], _, _, h => by cases h; rfl
  | t :: ts, depth, _, h => by
    rw [Tree.toItems?] at h
    obtain ⟨v, hv, h⟩ := Option.bind_eq_some_iff.1 h
    obtain ⟨vs, hvs, h⟩ := Option.bind_eq_some_iff.1 h
    cases h
    rw [allNanFree, Tree.nanFree_of_toJson? t depth v hv,
      Tree.allNanFree_of_toItems? ts depth vs hvs, Bool.and_self]

theorem Tree.membersNanFree_of_toMembers? : (ts : List (Option String × Tree)) → (depth : Nat) →
    (ms : List (String × Json)) → Tree.toMembers? depth ts = some ms → membersNanFree ms = true
  | [], _, _, h => by cases h; rfl
  | (name, t) :: ts, depth, _, h => by
    rw [Tree.toMembers?] at h
    obtain ⟨key, -, h⟩ := Option.bind_eq_some_iff.1 h
    obtain ⟨v, hv, h⟩ := Option.bind_eq_some_iff.1 h
    obtain ⟨ms, hms, h⟩ := Option.bind_eq_some_iff.1 h
    cases h
    rw [membersNanFree, Tree.nanFree_of_toJson? t depth v hv,
      Tree.membersNanFree_of_toMembers? ts depth ms hms, Bool.and_self]

end

theorem nanFree_of_parse? {s : String} {v : Json} (h : parse? s = some v) : v.nanFree = true := by
  obtain ⟨t, -, ht⟩ := Option.bind_eq_some_iff.1 h
  exact t.nanFree_of_toJson? maxDepth v ht

/-- **A value that was read equals itself.** -/
theorem same_self_of_parse? {s : String} {v : Json} (h : parse? s = some v) : v.same v = true :=
  v.same_self (nanFree_of_parse? h)

end Json

end VolunteerAccess
