import VolunteerAccess.Proofs.Store.Operations

/-!
# Ids that a store gives

An interest without an id is stored under the next number. Numbers start at one
whatever ids are in use already, so two numbers never meet, but a number may meet
an id that fixtures or a caller chose. The interest stored there is then lost.

- `Store.Operation`, `Store.after`: every store that can be reached from fixtures.
- `Store.Numbered`: the invariant. A live id is a number that was drawn, or it was
  supplied from outside.
- `Store.Adds`, `Store.Replaces`: the two things that a save without an id can do.
- `Store.adds_iff_not_taken`: **which of them it does**.
-/

namespace VolunteerAccess

namespace Store

/-! ## Histories -/

/-- An operation on a store. -/
inductive Operation where
  | query (f : Filter)
  | findOne (f : Filter)
  | save (i : Interest)
  | deleteOne (f : Filter)
  | addOpportunity (scope : Scope) (o : Opportunity)

/-- The store after an operation. -/
def Operation.apply (s : Store) : Operation → Store
  | .query _ | .findOne _ => s
  | .save i => (s.save i).2
  | .deleteOne f => (s.deleteOne f).2
  | .addOpportunity scope o => s.addOpportunity scope o

/-- The store of some fixtures after operations, the first of them first. -/
def after (f : Fixtures) (ops : List Operation) : Store := ops.foldl Operation.apply (ofFixtures f)

/-- Whether an operation draws a number: it saves an interest without an id. -/
def Operation.draws : Operation → Bool
  | .save i => i.id.isEmpty
  | _ => false

/-- How many numbers are drawn. -/
def drawn (ops : List Operation) : Nat := ops.countP Operation.draws

/-- The id that the next number makes. -/
def nextId (ops : List Operation) : String := freshId (UInt64.ofNat (drawn ops))

/-- Whether an id comes from outside: fixtures have it, or a caller saves under it. -/
def Supplied (f : Fixtures) (ops : List Operation) (k : String) : Prop :=
  (∃ i ∈ f.interests, i.id = k) ∨ ∃ i, Operation.save i ∈ ops ∧ i.id = k

theorem Supplied.append {f : Fixtures} {ops : List Operation} {k : String}
    (h : Supplied f ops k) (op : Operation) : Supplied f (ops ++ [op]) k := by
  obtain hfixture | ⟨i, hi, hk⟩ := h
  · exact .inl hfixture
  · exact .inr ⟨i, List.mem_append_left [op] hi, hk⟩

theorem drawn_append (ops : List Operation) (op : Operation) :
    drawn (ops ++ [op]) = drawn ops + if op.draws then 1 else 0 := by
  unfold drawn
  rw [List.countP_append, List.countP_singleton]

/-! ## Numbers -/

theorem freshId_ne_empty (n : UInt64) : freshId n ≠ "" := by
  intro h
  have hlength := congrArg String.length h
  unfold freshId at hlength
  rw [String.length_append] at hlength
  have hstem : "interest-".length = 9 := rfl
  have hempty : "".length = 0 := rfl
  omega

/-- A number can be read back from its digits. -/
theorem freshId_injective {m n : UInt64} (h : freshId m = freshId n) : m = n := by
  have hdigits : (m + 1).toNat.repr = (n + 1).toNat.repr := (String.append_right_inj _).1 h
  have hread := congrArg (fun digits => Nat.ofDigitChars 10 digits.toList 0) hdigits
  simp only [Nat.toList_repr, Nat.ofDigitChars_ten_toDigits] at hread
  exact (UInt64.add_left_inj 1).1 (UInt64.toNat_inj.1 hread)

/-- Numbers do not wrap around as long as there are fewer of them than the counter has values. -/
theorem freshId_ofNat_ne {m n : Nat} (hm : m < n) (hn : n < UInt64.size) :
    freshId (UInt64.ofNat m) ≠ freshId (UInt64.ofNat n) := by
  intro h
  have hnat := congrArg UInt64.toNat (freshId_injective h)
  rw [UInt64.toNat_ofNat_of_lt' (Nat.lt_trans hm hn), UInt64.toNat_ofNat_of_lt' hn] at hnat
  omega

/-! ## The invariant -/

/-- A store in which every live id comes from outside or is a number that was drawn. -/
structure Numbered (f : Fixtures) (ops : List Operation) (s : Store) : Prop where
  issued : s.issued = UInt64.ofNat (drawn ops)
  origin : ∀ k x, s.interests.get? k = some x →
    Supplied f ops k ∨ ∃ n < drawn ops, k = freshId (UInt64.ofNat n)

theorem numbered_ofFixtures (f : Fixtures) : Numbered f [] (ofFixtures f) where
  issued := rfl
  origin k x h := by
    obtain ⟨i, hi, hentry⟩ := List.mem_map.1 (Dict.mem_of_get?_ofList h)
    exact .inl (.inl ⟨i, hi, congrArg Prod.fst hentry⟩)

variable {f : Fixtures} {ops : List Operation} {s : Store}

/-- One more operation takes no origin away. -/
theorem Numbered.origin_append (h : Numbered f ops s) (op : Operation) {k : String} {x : Interest}
    (hx : s.interests.get? k = some x) :
    Supplied f (ops ++ [op]) k ∨ ∃ n < drawn (ops ++ [op]), k = freshId (UInt64.ofNat n) := by
  obtain hsupplied | ⟨n, hn, hnumber⟩ := h.origin k x hx
  · exact .inl (hsupplied.append op)
  · have hdrawn : drawn ops ≤ drawn (ops ++ [op]) := by
      rw [drawn_append]
      omega
    exact .inr ⟨n, by omega, hnumber⟩

/-- An operation that neither draws a number nor adds an interest preserves the invariant. -/
theorem Numbered.frame (h : Numbered f ops s) {op : Operation} {t : Store}
    (hop : op.draws = false) (hissued : t.issued = s.issued)
    (hlive : ∀ k x, t.interests.get? k = some x → s.interests.get? k = some x) :
    Numbered f (ops ++ [op]) t where
  issued := by
    rw [hissued, h.issued, drawn_append, hop]
    rfl
  origin k x hx := h.origin_append op (hlive k x hx)

/-- A save adds one id, which is a number that it draws or is given by the caller. -/
theorem Numbered.save (h : Numbered f ops s) (i : Interest) :
    Numbered f (ops ++ [.save i]) (s.save i).2 where
  issued := by
    rw [issued_save, h.issued, drawn_append, Operation.draws]
    cases i.id.isEmpty with
    | true => exact (UInt64.ofNat_add (drawn ops) 1).symm
    | false => rfl
  origin k x hx := by
    -- Only the entry that is saved has an origin that is not known yet.
    by_cases hk : k = (s.save i).1.id
    · by_cases hid : i.id = ""
      · have hdrawn : drawn (ops ++ [.save i]) = drawn ops + 1 := by
          rw [drawn_append, Operation.draws, hid]
          rfl
        rw [id_save_of_empty s i hid, h.issued] at hk
        exact .inr ⟨drawn ops, by omega, hk⟩
      · rw [id_save_of_ne_empty s i hid] at hk
        exact .inl (.inr ⟨i, List.mem_append_right ops List.mem_cons_self, hk.symm⟩)
    · rw [get?_save_of_ne s i hk] at hx
      exact h.origin_append _ hx

/-- Every operation preserves the invariant. -/
theorem Numbered.apply (h : Numbered f ops s) (op : Operation) :
    Numbered f (ops ++ [op]) (op.apply s) := by
  cases op with
  | query f => exact h.frame rfl rfl fun _ _ hx => hx
  | findOne f => exact h.frame rfl rfl fun _ _ hx => hx
  | save i => exact h.save i
  | deleteOne g =>
    exact h.frame rfl (issued_deleteOne s g) fun _ _ hx => get?_of_get?_deleteOne s g hx
  | addOpportunity scope o =>
    cases scope with
    | active => exact h.frame rfl rfl fun _ _ hx => hx
    | archived => exact h.frame rfl rfl fun _ _ hx => hx

theorem Numbered.foldl (h : Numbered f ops s) (more : List Operation) :
    Numbered f (ops ++ more) (more.foldl Operation.apply s) := by
  induction more generalizing ops s with
  | nil =>
    rw [List.append_nil]
    exact h
  | cons op more ih =>
    rw [List.append_cons]
    exact ih (h.apply op)

/-- **Every store that can be reached satisfies the invariant.** -/
theorem numbered_after (f : Fixtures) (ops : List Operation) : Numbered f ops (after f ops) :=
  (numbered_ofFixtures f).foldl ops

/-- A live interest under the next number has got there from outside. -/
theorem supplied_of_live (hops : drawn ops < UInt64.size) {x : Interest}
    (hx : (after f ops).interests.get? (nextId ops) = some x) : Supplied f ops (nextId ops) := by
  obtain hsupplied | ⟨n, hn, hnumber⟩ := (numbered_after f ops).origin _ x hx
  · exact hsupplied
  · exact absurd hnumber.symm (freshId_ofNat_ne hn hops)

/-! ## What a save without an id does -/

/-- The interest is stored under an id that was free, and all others are kept. -/
structure Adds (s : Store) (i : Interest) : Prop where
  returned : (s.save i).1 = { i with id := (s.save i).1.id }
  named : (s.save i).1.id ≠ ""
  unused : (s.save i).1.id ∉ s.interests.keys
  stored : (s.save i).2.interests.get? (s.save i).1.id = some (s.save i).1
  kept : ∀ k x, s.interests.get? k = some x → (s.save i).2.interests.get? k = some x
  counted : (s.save i).2.count = s.count + 1

/-- The interest takes the place of another one. -/
structure Replaces (s : Store) (i : Interest) : Prop where
  used : (s.save i).1.id ∈ s.interests.keys
  stored : (s.save i).2.interests.get? (s.save i).1.id = some (s.save i).1
  kept : ∀ k, k ≠ (s.save i).1.id → (s.save i).2.interests.get? k = s.interests.get? k
  counted : (s.save i).2.count = s.count

theorem Replaces.not_adds {i : Interest} (h : Replaces s i) : ¬ Adds s i := fun hadds =>
  hadds.unused h.used

variable {i : Interest}

theorem adds_of_unused (hi : i.id = "") (h : s.interests.get? (freshId s.issued) = none) :
    Adds s i := by
  have hid := id_save_of_empty s i hi
  rw [← hid] at h
  refine ⟨?_, ?_, Dict.not_mem_keys_iff.2 h, get?_save_self s i, fun k x hx => ?_, ?_⟩
  · rw [hid, save_fst, hi]
    rfl
  · rw [hid]
    exact freshId_ne_empty s.issued
  · have hk : k ≠ (s.save i).1.id := by
      rintro rfl
      rw [h] at hx
      cases hx
    rw [get?_save_of_ne s i hk]
    exact hx
  · unfold count
    rw [interests_save, Dict.size_insert_of_none h]

theorem replaces_of_used {x : Interest} (hi : i.id = "")
    (h : s.interests.get? (freshId s.issued) = some x) : Replaces s i := by
  rw [← id_save_of_empty s i hi] at h
  refine ⟨Dict.mem_keys_iff.2 ⟨x, h⟩, get?_save_self s i, fun k hk => get?_save_of_ne s i hk, ?_⟩
  unfold count
  rw [interests_save, Dict.size_insert_of_some h]

/-- Whether the next number is the id of a live interest from outside. -/
def Taken (f : Fixtures) (ops : List Operation) : Prop :=
  nextId ops ∈ (after f ops).interests.keys ∧ Supplied f ops (nextId ops)

/-- **A save without an id adds an interest, unless the next number was supplied from outside**
and is still in use; then, and only then, it replaces the interest of that id. -/
theorem adds_iff_not_taken (f : Fixtures) (ops : List Operation) (hops : drawn ops < UInt64.size)
    (i : Interest) (hi : i.id = "") :
    (Adds (after f ops) i ↔ ¬ Taken f ops) ∧ (Replaces (after f ops) i ↔ Taken f ops) := by
  -- The counter stands at the number of draws, so the save takes the next id.
  have hnext : freshId (after f ops).issued = nextId ops := by
    rw [(numbered_after f ops).issued]
    rfl
  cases hlive : (after f ops).interests.get? (nextId ops) with
  | none =>
    have hfree : ¬ Taken f ops := fun htaken => Dict.not_mem_keys_iff.2 hlive htaken.1
    have hadds : Adds (after f ops) i := adds_of_unused hi (hnext ▸ hlive)
    exact ⟨iff_of_true hadds hfree, iff_of_false (fun h => h.not_adds hadds) hfree⟩
  | some x =>
    have htaken : Taken f ops := ⟨Dict.mem_keys_iff.2 ⟨x, hlive⟩, supplied_of_live hops hlive⟩
    have hreplaces : Replaces (after f ops) i := replaces_of_used hi (hnext ▸ hlive)
    exact ⟨iff_of_false hreplaces.not_adds (not_not_intro htaken), iff_of_true hreplaces htaken⟩

/-- An interest without an id. -/
def newcomer : Interest :=
  { id := "", person := "p2", opportunity := "o2", status := .interested, messages := [],
    dateAdded := 0 }

/-- Fixtures of which one interest has a number for its id. -/
def seeded (id : String) : Fixtures :=
  { Fixtures.empty with interests := [{ newcomer with id, person := "p1" }] }

/-- The second interest without an id meets the one that the fixtures number two. -/
theorem adds_iff_not_taken_seeded :
    drawn [.save newcomer] < UInt64.size ∧ newcomer.id = "" ∧
      Taken (seeded "interest-2") [.save newcomer] ∧
      Replaces (after (seeded "interest-2") [.save newcomer]) newcomer := by
  have hdrawn : drawn [.save newcomer] < UInt64.size := by decide
  have htaken : Taken (seeded "interest-2") [.save newcomer] :=
    ⟨by decide, .inl ⟨_, List.mem_cons_self, rfl⟩⟩
  exact ⟨hdrawn, rfl, htaken,
    (adds_iff_not_taken (seeded "interest-2") [.save newcomer] hdrawn newcomer rfl).2.2 htaken⟩

/-- The first one meets an interest that the fixtures number one, which is lost. -/
theorem not_adds_seeded : newcomer.id = "" ∧ drawn [] < UInt64.size ∧
    ¬ Adds (after (seeded "interest-1") []) newcomer := by
  refine ⟨rfl, by decide, fun h => ?_⟩
  have hcount : ((after (seeded "interest-1") []).save newcomer).2.count = 1 := rfl
  have hgrown : ((after (seeded "interest-1") []).save newcomer).2.count = 1 + 1 := h.counted
  rw [hcount] at hgrown
  exact absurd hgrown (by decide)

end Store

end VolunteerAccess
