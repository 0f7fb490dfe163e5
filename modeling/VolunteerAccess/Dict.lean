/-!
# Finite maps keyed by text

Settings, stored records and the fields of a condition are all looked up by
name and shown in name order. This module holds the one map they share.

- `Dict α`: a list of entries whose keys strictly increase. Text is compared
  by code points, which is also the order of its UTF-8 bytes.
- `Dict.insert`, `Dict.erase`, `Dict.get?`: the operations, each with the
  equation that says what a look-up sees afterwards.
- `Dict.ext_get?`: two maps that answer every look-up alike are equal, so
  equality of maps is a statement about look-ups alone.
- `Dict.mem_keys_iff`, `Dict.mem_values_iff`, `Dict.size_insert_of_none`,
  `Dict.keys_insert_of_some`: keys, values and sizes, in terms of look-ups as well.
-/

namespace VolunteerAccess

universe u v

/-- A finite map from text to values, kept in key order. -/
structure Dict (α : Type u) where
  /-- The entries, least key first. -/
  entries : List (String × α)
  /-- Keys strictly increase, so no key occurs twice. -/
  ordered : entries.Pairwise (fun a b => a.1 < b.1)

namespace Dict

variable {α : Type u} {β : Type v}

/-! ## Order of text -/

theorem key_lt_of_not_lt_of_ne {a b : String} (h : ¬ a < b) (hne : a ≠ b) : b < a := by
  apply Decidable.byContradiction
  intro hba
  exact hne (String.le_antisymm (String.not_lt.1 hba) (String.not_lt.1 h))

theorem key_ne_of_lt {a b : String} (h : a < b) : a ≠ b := by
  rintro rfl
  exact String.lt_irrefl a h

/-! ## Insertion -/

/-- Put an entry at its place, replacing an entry of the same key. -/
def insertEntry (k : String) (x : α) : List (String × α) → List (String × α)
  | [] => [(k, x)]
  | e :: rest =>
    if k < e.1 then (k, x) :: e :: rest
    else if k = e.1 then (k, x) :: rest
    else e :: insertEntry k x rest

theorem mem_insertEntry {k : String} {x : α} {e : String × α} :
    {es : List (String × α)} → e ∈ insertEntry k x es → e = (k, x) ∨ e ∈ es
  | [], h => by simpa [insertEntry] using h
  | d :: rest, h => by
    unfold insertEntry at h
    split at h
    · simpa using h
    · split at h
      · rcases List.mem_cons.1 h with h | h
        · exact Or.inl h
        · exact Or.inr (List.mem_cons_of_mem _ h)
      · rcases List.mem_cons.1 h with h | h
        · exact Or.inr (by simp [h])
        · rcases mem_insertEntry h with h | h
          · exact Or.inl h
          · exact Or.inr (List.mem_cons_of_mem _ h)

theorem ordered_insertEntry (k : String) (x : α) :
    {es : List (String × α)} → es.Pairwise (fun a b => a.1 < b.1) →
      (insertEntry k x es).Pairwise (fun a b => a.1 < b.1)
  | [], _ => by simp [insertEntry]
  | d :: rest, h => by
    have hd := List.pairwise_cons.1 h
    unfold insertEntry
    split
    · next hlt =>
      refine List.pairwise_cons.2 ⟨fun e he => ?_, h⟩
      rcases List.mem_cons.1 he with rfl | he
      · exact hlt
      · exact String.lt_trans hlt (hd.1 e he)
    · split
      · next heq => exact List.pairwise_cons.2 ⟨fun e he => heq ▸ hd.1 e he, hd.2⟩
      · next hlt hne =>
        refine List.pairwise_cons.2 ⟨fun e he => ?_, ordered_insertEntry k x hd.2⟩
        rcases mem_insertEntry he with rfl | he
        · exact key_lt_of_not_lt_of_ne hlt hne
        · exact hd.1 e he

/-- The map with no entries. -/
def empty : Dict α := ⟨[], List.Pairwise.nil⟩

instance : Inhabited (Dict α) := ⟨empty⟩

/-- The map in which `k` is bound to `x`, whatever it was bound to before. -/
def insert (d : Dict α) (k : String) (x : α) : Dict α :=
  ⟨insertEntry k x d.entries, ordered_insertEntry k x d.ordered⟩

/-- The map without an entry for `k`. -/
def erase (d : Dict α) (k : String) : Dict α :=
  ⟨d.entries.filter (fun e => e.1 != k), d.ordered.filter _⟩

/-- The map of a list of entries; of two entries with one key the later counts. -/
def ofList (es : List (String × α)) : Dict α :=
  es.foldl (fun d e => d.insert e.1 e.2) empty

/-! ## Views -/

/-- The value bound to `k`. -/
def get? (d : Dict α) (k : String) : Option α :=
  (d.entries.find? (fun e => e.1 == k)).map Prod.snd

/-- Whether `k` is bound. -/
def contains (d : Dict α) (k : String) : Bool := (d.get? k).isSome

/-- The bound keys, in order. -/
def keys (d : Dict α) : List String := d.entries.map Prod.fst

/-- The bound values, in key order. -/
def values (d : Dict α) : List α := d.entries.map Prod.snd

/-- How many keys are bound. -/
def size (d : Dict α) : Nat := d.entries.length

/-- Whether no key is bound. -/
def isEmpty (d : Dict α) : Bool := d.entries.isEmpty

/-- The map with `f` applied to each value. -/
def map (f : α → β) (d : Dict α) : Dict β :=
  ⟨d.entries.map (fun e => (e.1, f e.2)), by
    rw [List.pairwise_map]
    exact d.ordered⟩

/-! ## What a look-up sees -/

@[simp] theorem get?_empty (k : String) : (empty : Dict α).get? k = none := rfl

theorem find?_insertEntry_self (k : String) (x : α) :
    (es : List (String × α)) → (insertEntry k x es).find? (fun e => e.1 == k) = some (k, x)
  | [] => by simp [insertEntry]
  | d :: rest => by
    unfold insertEntry
    split
    · simp
    · split
      · simp
      · next hne =>
        have : (d.1 == k) = false := by simpa using fun h => hne h.symm
        simp [this, find?_insertEntry_self k x rest]

theorem find?_insertEntry_of_ne {k k' : String} (x : α) (h : k' ≠ k) :
    (es : List (String × α)) →
      (insertEntry k x es).find? (fun e => e.1 == k') = es.find? (fun e => e.1 == k')
  | [] => by simp [insertEntry, h.symm]
  | d :: rest => by
    have hk : (k == k') = false := by simpa using h.symm
    unfold insertEntry
    split
    · simp [hk]
    · split
      · next heq => simp [hk, ← heq]
      · simp only [List.find?_cons]
        rw [find?_insertEntry_of_ne x h rest]

@[simp] theorem get?_insert_self (d : Dict α) (k : String) (x : α) :
    (d.insert k x).get? k = some x := by
  simp [get?, insert, find?_insertEntry_self]

theorem get?_insert_of_ne (d : Dict α) {k k' : String} (x : α) (h : k' ≠ k) :
    (d.insert k x).get? k' = d.get? k' := by
  simp [get?, insert, find?_insertEntry_of_ne x h]

@[simp] theorem get?_erase_self (d : Dict α) (k : String) : (d.erase k).get? k = none := by
  simp [get?, erase]

theorem get?_erase_of_ne (d : Dict α) {k k' : String} (h : k' ≠ k) :
    (d.erase k).get? k' = d.get? k' := by
  unfold get? erase
  congr 1
  rw [List.find?_filter]
  congr 1
  funext e
  by_cases he : e.1 = k'
  · simp [he, h]
  · simp [he]

/-- An entry is bound to its key. -/
theorem get?_eq_some_iff {d : Dict α} {k : String} {x : α} :
    d.get? k = some x ↔ (k, x) ∈ d.entries := by
  obtain ⟨es, ho⟩ := d
  simp only [get?]
  induction es with
  | nil => simp
  | cons e rest ih =>
    have he := List.pairwise_cons.1 ho
    rw [List.find?_cons]
    by_cases hk : e.1 = k
    · have hrest : (k, x) ∉ rest := fun hm => by
        have := he.1 _ hm
        simp only [hk] at this
        exact String.lt_irrefl k this
      subst hk
      simp only [beq_self_eq_true, Option.map_some, Option.some.injEq, List.mem_cons, hrest,
        or_false]
      exact ⟨fun h => by rw [← h], fun h => (congrArg Prod.snd h).symm⟩
    · have hb : (e.1 == k) = false := by simpa using hk
      have hne : (k, x) ≠ e := fun h => hk (by rw [← h])
      simp only [hb, List.mem_cons, hne, false_or]
      exact ih he.2

/-- The keys are those that a look-up finds. -/
theorem mem_keys_iff {d : Dict α} {k : String} : k ∈ d.keys ↔ ∃ x, d.get? k = some x := by
  unfold keys
  rw [List.mem_map]
  constructor
  · rintro ⟨⟨_, x⟩, hmem, rfl⟩
    exact ⟨x, get?_eq_some_iff.2 hmem⟩
  · rintro ⟨x, hx⟩
    exact ⟨(k, x), get?_eq_some_iff.1 hx, rfl⟩

/-- The values are those that a look-up finds. -/
theorem mem_values_iff {d : Dict α} {x : α} : x ∈ d.values ↔ ∃ k, d.get? k = some x := by
  unfold values
  rw [List.mem_map]
  constructor
  · rintro ⟨⟨k, _⟩, hmem, rfl⟩
    exact ⟨k, get?_eq_some_iff.2 hmem⟩
  · rintro ⟨k, hk⟩
    exact ⟨(k, x), get?_eq_some_iff.1 hk, rfl⟩

theorem not_mem_keys_iff {d : Dict α} {k : String} : k ∉ d.keys ↔ d.get? k = none := by
  rw [mem_keys_iff, ← Option.isSome_iff_exists, Bool.not_eq_true, Option.isSome_eq_false_iff,
    Option.isNone_iff_eq_none]

theorem mem_keys_insert {d : Dict α} {k l : String} {x : α} :
    l ∈ (d.insert k x).keys ↔ l = k ∨ l ∈ d.keys := by
  rw [mem_keys_iff, mem_keys_iff]
  by_cases h : l = k
  · subst h
    simp
  · simp [get?_insert_of_ne d x h, h]

theorem mem_of_get?_foldl_insert {k : String} {x : α} {es : List (String × α)} {d : Dict α}
    (h : (es.foldl (fun d e => d.insert e.1 e.2) d).get? k = some x) :
    d.get? k = some x ∨ (k, x) ∈ es := by
  induction es generalizing d with
  | nil => exact Or.inl h
  | cons e es ih =>
    rcases ih h with hd | hmem
    · by_cases hk : k = e.1
      · subst hk
        rw [get?_insert_self] at hd
        cases hd
        exact Or.inr List.mem_cons_self
      · rw [get?_insert_of_ne d e.2 hk] at hd
        exact Or.inl hd
    · exact Or.inr (List.mem_cons_of_mem e hmem)

/-- What a look-up finds in the map of a list stands in the list. -/
theorem mem_of_get?_ofList {k : String} {x : α} {es : List (String × α)}
    (h : (ofList es).get? k = some x) : (k, x) ∈ es := by
  rcases mem_of_get?_foldl_insert h with hnone | hmem
  · cases hnone
  · exact hmem

private theorem eq_of_mem_iff {es fs : List (String × α)}
    (he : es.Pairwise (fun a b => a.1 < b.1)) (hf : fs.Pairwise (fun a b => a.1 < b.1))
    (h : ∀ e, e ∈ es ↔ e ∈ fs) : es = fs := by
  induction es generalizing fs with
  | nil =>
    cases fs with
    | nil => rfl
    | cons f fs => exact absurd ((h f).2 List.mem_cons_self) (by simp)
  | cons e es ih =>
    cases fs with
    | nil => exact absurd ((h e).1 List.mem_cons_self) (by simp)
    | cons f fs =>
      have he' := List.pairwise_cons.1 he
      have hf' := List.pairwise_cons.1 hf
      have hhead : e = f := by
        rcases List.mem_cons.1 ((h e).1 List.mem_cons_self) with hef | hef
        · exact hef
        · rcases List.mem_cons.1 ((h f).2 List.mem_cons_self) with hfe | hfe
          · exact hfe.symm
          · exact absurd (String.lt_trans (he'.1 f hfe) (hf'.1 e hef)) (String.lt_irrefl _)
      subst hhead
      congr 1
      refine ih he'.2 hf'.2 fun g => ?_
      constructor
      · intro hg
        rcases List.mem_cons.1 ((h g).1 (List.mem_cons_of_mem _ hg)) with rfl | hg'
        · exact absurd (he'.1 g hg) (String.lt_irrefl _)
        · exact hg'
      · intro hg
        rcases List.mem_cons.1 ((h g).2 (List.mem_cons_of_mem _ hg)) with rfl | hg'
        · exact absurd (hf'.1 g hg) (String.lt_irrefl _)
        · exact hg'

/-- Two maps that answer every look-up alike are equal. -/
theorem ext_get? {d e : Dict α} (h : ∀ k, d.get? k = e.get? k) : d = e := by
  have hent : d.entries = e.entries := by
    refine eq_of_mem_iff d.ordered e.ordered fun p => ?_
    obtain ⟨k, x⟩ := p
    rw [← get?_eq_some_iff, ← get?_eq_some_iff, h k]
  cases d
  cases e
  simp_all

/-! ## Keys after an insertion -/

theorem length_insertEntry_of_ne {k : String} (x : α) :
    {es : List (String × α)} → (∀ e ∈ es, e.1 ≠ k) →
      (insertEntry k x es).length = es.length + 1
  | [], _ => rfl
  | d :: rest, h => by
    have hd := List.forall_mem_cons.1 h
    unfold insertEntry
    split
    · rfl
    · split
      · next heq => exact absurd heq.symm hd.1
      · rw [List.length_cons, length_insertEntry_of_ne x hd.2, List.length_cons]

/-- A value that replaces another one leaves the keys as they are. -/
theorem map_fst_insertEntry_of_mem {k : String} (x : α) {y : α} :
    {es : List (String × α)} → es.Pairwise (fun a b => a.1 < b.1) → (k, y) ∈ es →
      (insertEntry k x es).map Prod.fst = es.map Prod.fst
  | [], _, h => absurd h List.not_mem_nil
  | d :: rest, ho, h => by
    have hd := List.pairwise_cons.1 ho
    unfold insertEntry
    rcases List.mem_cons.1 h with rfl | hrest
    · rw [if_neg (String.lt_irrefl k), if_pos rfl, List.map_cons, List.map_cons]
    · -- The key stands further on, so its place is not before the first entry.
      have hlt : d.1 < k := hd.1 _ hrest
      have hnot : ¬ k < d.1 := fun hgt => String.lt_irrefl k (String.lt_trans hgt hlt)
      have hne : k ≠ d.1 := (key_ne_of_lt hlt).symm
      rw [if_neg hnot, if_neg hne, List.map_cons, map_fst_insertEntry_of_mem x hd.2 hrest,
        List.map_cons]

/-- A new key makes the map larger by one. -/
theorem size_insert_of_none {d : Dict α} {k : String} (h : d.get? k = none) (x : α) :
    (d.insert k x).size = d.size + 1 := by
  refine length_insertEntry_of_ne x fun e he hk => ?_
  have hbound : d.get? k = some e.2 := get?_eq_some_iff.2 (hk ▸ he)
  rw [h] at hbound
  cases hbound

/-- A value that replaces another one adds no key and takes none away. -/
theorem keys_insert_of_some {d : Dict α} {k : String} {y : α} (h : d.get? k = some y) (x : α) :
    (d.insert k x).keys = d.keys :=
  map_fst_insertEntry_of_mem x d.ordered (get?_eq_some_iff.1 h)

theorem length_keys (d : Dict α) : d.keys.length = d.size := List.length_map _

theorem size_insert_of_some {d : Dict α} {k : String} {y : α} (h : d.get? k = some y) (x : α) :
    (d.insert k x).size = d.size := by
  rw [← length_keys, ← length_keys, keys_insert_of_some h]

end Dict

end VolunteerAccess
