import VolunteerAccess.Dict

/-!
# Maps built by insertions

A map does not remember in which order its entries came, nor what was bound to a
key before.

- `Dict.insert_insert`, `Dict.insert_comm`: of two values under one key the later
  counts, and under two keys the order does not.
- `Dict.erase_insert_of_none`: a new entry that is taken away again leaves no trace.
- `Dict.get?_ofList`: of two entries of a list with one key the later counts.
- `Dict.get?_ofList_iff`: where no key occurs twice, **the map of a list binds its
  entries and nothing else**. `Dict.ofList_entries` and `Dict.lookup_ofList` follow.
-/

namespace VolunteerAccess

namespace Dict

universe u

variable {α : Type u} {d : Dict α}

/-! ## Two insertions -/

/-- The value that was bound before does not matter. -/
theorem insert_insert (d : Dict α) (k : String) (x y : α) :
    (d.insert k x).insert k y = d.insert k y := by
  refine ext_get? fun l => ?_
  by_cases hl : l = k
  · subst hl
    rw [get?_insert_self, get?_insert_self]
  · rw [get?_insert_of_ne _ _ hl, get?_insert_of_ne _ _ hl, get?_insert_of_ne _ _ hl]

/-- Under two keys it does not matter which insertion comes first. -/
theorem insert_comm (d : Dict α) {k l : String} (h : k ≠ l) (x y : α) :
    (d.insert k x).insert l y = (d.insert l y).insert k x := by
  refine ext_get? fun m => ?_
  by_cases hl : m = l
  · subst hl
    rw [get?_insert_self, get?_insert_of_ne _ _ h.symm, get?_insert_self]
  · by_cases hk : m = k
    · subst hk
      rw [get?_insert_of_ne _ _ hl, get?_insert_self, get?_insert_self]
    · rw [get?_insert_of_ne _ _ hl, get?_insert_of_ne _ _ hk, get?_insert_of_ne _ _ hk,
        get?_insert_of_ne _ _ hl]

theorem erase_insert_of_none {k : String} (h : d.get? k = none) (x : α) :
    (d.insert k x).erase k = d := by
  refine ext_get? fun l => ?_
  by_cases hl : l = k
  · subst hl
    rw [get?_erase_self, h]
  · rw [get?_erase_of_ne _ hl, get?_insert_of_ne _ _ hl]

/-! ## Maps of lists -/

/-- One more entry at the end of a list is one more insertion. -/
theorem ofList_append (es : List (String × α)) (e : String × α) :
    ofList (es ++ [e]) = (ofList es).insert e.1 e.2 := by
  unfold ofList
  rw [List.foldl_append, List.foldl_cons, List.foldl_nil]

/-- The last entry of a key counts; a key without entries is bound as it was. -/
theorem get?_foldl_insert (k : String) (es : List (String × α)) (d : Dict α) :
    (es.foldl (fun d e => d.insert e.1 e.2) d).get? k =
      ((es.reverse.find? fun e => e.1 == k).map Prod.snd).or (d.get? k) := by
  induction es generalizing d with
  | nil => rfl
  | cons e es ih =>
    rw [List.foldl_cons, ih, List.reverse_cons, List.find?_append]
    cases es.reverse.find? fun e => e.1 == k with
    | some x => rfl
    | none =>
      by_cases hk : e.1 = k
      · subst hk
        simp
      · have hb : (e.1 == k) = false := by simpa using hk
        rw [get?_insert_of_ne _ _ (Ne.symm hk)]
        simp [hb]

/-- Of two entries with one key the later counts. -/
theorem get?_ofList (k : String) (es : List (String × α)) :
    (ofList es).get? k = (es.reverse.find? fun e => e.1 == k).map Prod.snd := by
  unfold ofList
  rw [get?_foldl_insert, get?_empty, Option.or_none]

/-- A key that is not in a list is bound as it was. -/
theorem get?_foldl_insert_of_not_mem {k : String} {es : List (String × α)}
    (h : k ∉ es.map Prod.fst) :
    (es.foldl (fun d e => d.insert e.1 e.2) d).get? k = d.get? k := by
  have hnone : es.reverse.find? (fun e => e.1 == k) = none := by
    refine List.find?_eq_none.2 fun e he hk => h ?_
    exact List.mem_map.2 ⟨e, List.mem_reverse.1 he, beq_iff_eq.1 hk⟩
  rw [get?_foldl_insert, hnone, Option.map_none, Option.none_or]

theorem get?_foldl_insert_of_mem {k : String} {x : α} {es : List (String × α)}
    (hes : (es.map Prod.fst).Nodup) (h : (k, x) ∈ es) :
    (es.foldl (fun d e => d.insert e.1 e.2) d).get? k = some x := by
  induction es generalizing d with
  | nil => exact absurd h List.not_mem_nil
  | cons e es ih =>
    rw [List.map_cons, List.nodup_cons] at hes
    rw [List.foldl_cons]
    rcases List.mem_cons.1 h with rfl | h
    · rw [get?_foldl_insert_of_not_mem hes.1, get?_insert_self]
    · exact ih hes.2 h

/-- Where no key occurs twice, a key has one value. -/
theorem eq_of_mem_of_nodup {k : String} {x y : α} {es : List (String × α)}
    (hes : (es.map Prod.fst).Nodup) (hx : (k, x) ∈ es) (hy : (k, y) ∈ es) : x = y := by
  have hfound := get?_foldl_insert_of_mem (d := empty) hes hx
  rw [get?_foldl_insert_of_mem hes hy] at hfound
  exact (Option.some.inj hfound).symm

/-- **The map of a list binds the entries of the list** and nothing else, if no key occurs
twice. -/
theorem get?_ofList_iff {k : String} {x : α} {es : List (String × α)}
    (hes : (es.map Prod.fst).Nodup) : (ofList es).get? k = some x ↔ (k, x) ∈ es :=
  ⟨mem_of_get?_ofList, get?_foldl_insert_of_mem hes⟩

/-- The keys of a map strictly increase. -/
theorem pairwise_keys (d : Dict α) : d.keys.Pairwise (· < ·) := by
  unfold keys
  rw [List.pairwise_map]
  exact d.ordered

/-- No key of a map occurs twice. -/
theorem nodup_keys (d : Dict α) : d.keys.Nodup := d.pairwise_keys.imp key_ne_of_lt

theorem ofList_entries (d : Dict α) : ofList d.entries = d := by
  refine ext_get? fun k => Option.ext fun x => ?_
  rw [get?_ofList_iff d.nodup_keys, get?_eq_some_iff]

/-- A new entry after those of a map. -/
theorem ofList_entries_append (d : Dict α) (k : String) (x : α) :
    ofList (d.entries ++ [(k, x)]) = d.insert k x := by
  rw [ofList_append, ofList_entries]

/-! ## Look-ups in lists -/

theorem lookup_eq_some_iff {k : String} {x : α} {es : List (String × α)}
    (hes : (es.map Prod.fst).Nodup) : es.lookup k = some x ↔ (k, x) ∈ es := by
  induction es with
  | nil => simp
  | cons e es ih =>
    obtain ⟨l, y⟩ := e
    rw [List.map_cons, List.nodup_cons] at hes
    rw [List.lookup_cons, List.mem_cons, Prod.mk.injEq]
    by_cases hk : k = l
    · subst hk
      have hrest : (k, x) ∉ es := fun hmem => hes.1 (List.mem_map.2 ⟨(k, x), hmem, rfl⟩)
      simp [hrest, eq_comm]
    · have hb : (k == l) = false := by simpa using hk
      simp [hk, hb, ih hes.2]

/-- A list and its map answer look-ups alike, if no key occurs twice. -/
theorem lookup_ofList {es : List (String × α)} (hes : (es.map Prod.fst).Nodup) (k : String) :
    (ofList es).entries.lookup k = es.lookup k := by
  refine Option.ext fun x => ?_
  rw [lookup_eq_some_iff (ofList es).nodup_keys, lookup_eq_some_iff hes, ← get?_eq_some_iff,
    get?_ofList_iff hes]

end Dict

end VolunteerAccess
