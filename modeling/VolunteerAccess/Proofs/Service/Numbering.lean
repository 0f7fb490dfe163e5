import VolunteerAccess.Proofs.Service.Decisions

/-!
# Numbers of requests

Where no interest is supplied from outside, every live interest has been created
by a request, under a number that was drawn for it. Updates store under the
number that is there already, so the numbers in use stay below the counter, and
as long as the counter does not wrap around the next number is free.

- `Store.Counted`: the invariant, with the count of numbers drawn so far.
- `Store.Counted.handle`: a request draws at most one number and preserves it.
- `Service.storeAfter`: the store after some requests; `Service.counted_storeAfter`:
  **a run preserves the invariant, and draws at most one number for each request**.
-/

namespace VolunteerAccess

namespace Store

/-- A store in which `n` numbers were drawn and every live id is one of them. -/
structure Counted (n : Nat) (s : Store) : Prop where
  issued : s.issued = UInt64.ofNat n
  origin : ∀ k x, s.interests.get? k = some x → ∃ m < n, k = freshId (UInt64.ofNat m)

theorem counted_ofFixtures {f : Fixtures} (hf : f.interests = []) :
    Counted 0 (ofFixtures f) where
  issued := rfl
  origin k x h := by
    obtain ⟨i, hi, -⟩ := List.mem_map.1 (Dict.mem_of_get?_ofList h)
    rw [hf] at hi
    exact absurd hi List.not_mem_nil

namespace Counted

variable {n : Nat} {s : Store} (h : s.Counted n)
include h

theorem key_ne_empty {k : String} {x : Interest} (hx : s.interests.get? k = some x) : k ≠ "" := by
  obtain ⟨m, -, rfl⟩ := h.origin k x hx
  exact freshId_ne_empty _

/-- The next number is not in use, unless the counter has wrapped around. -/
theorem get?_freshId (hn : n < UInt64.size) : s.interests.get? (freshId s.issued) = none := by
  cases hx : s.interests.get? (freshId s.issued) with
  | none => rfl
  | some x =>
    obtain ⟨m, hm, hid⟩ := h.origin _ x hx
    rw [h.issued] at hid
    exact absurd hid.symm (freshId_ofNat_ne hm hn)

/-- A new interest draws a number. -/
theorem save_new {i : Interest} (hi : i.id = "") : (s.save i).2.Counted (n + 1) where
  issued := by
    rw [issued_save, hi, h.issued]
    exact (UInt64.ofNat_add n 1).symm
  origin k x hx := by
    by_cases hk : k = (s.save i).1.id
    · rw [id_save_of_empty s i hi, h.issued] at hk
      exact ⟨n, Nat.lt_succ_self n, hk⟩
    · rw [get?_save_of_ne s i hk] at hx
      obtain ⟨m, hm, hnumber⟩ := h.origin k x hx
      exact ⟨m, Nat.lt_succ_of_lt hm, hnumber⟩

/-- An interest that takes the place of another one draws none. -/
theorem save_stored {i x : Interest} (hx : s.interests.get? i.id = some x) :
    (s.save i).2.Counted n := by
  have hne : i.id ≠ "" := h.key_ne_empty hx
  have hid : (s.save i).1.id = i.id := id_save_of_ne_empty s i hne
  constructor
  · rw [issued_save, if_neg fun hempty => hne (String.isEmpty_iff.1 hempty), h.issued]
  · intro k y hy
    by_cases hk : k = i.id
    · -- The id has its origin from the interest that was there.
      rw [hk]
      exact h.origin i.id x hx
    · rw [get?_save_of_ne s i (by rw [hid]; exact hk)] at hy
      exact h.origin k y hy

theorem deleteOne (f : Filter) : (s.deleteOne f).2.Counted n where
  issued := (issued_deleteOne s f).trans h.issued
  origin k x hx := h.origin k x (get?_of_get?_deleteOne s f hx)

/-- A request draws at most one number. -/
theorem handle (hs : s.Keyed) (svc : Service) (call : Call) (request : Request) :
    ∃ m ≤ n + 1, (svc.handle call request s).store.Counted m := by
  have heffect := svc.effect_handle call request s
  generalize (svc.handle call request s).store = t at heffect ⊢
  -- Only a creation draws a number: an update finds its interest stored under the same id.
  cases heffect with
  | unchanged => exact ⟨n, Nat.le_succ n, h⟩
  | created hdrafted =>
    obtain ⟨a, hdraft⟩ := Service.drafted_eq_ok_iff.1 hdrafted
    exact ⟨n + 1, Nat.le_refl _, h.save_new hdraft.id⟩
  | @updated id change j hrevised =>
    obtain ⟨a, i, target, hrevision, rfl⟩ := (Service.revised_eq_ok_iff hs).1 hrevised
    have hid : i.id = id := hs id i hrevision.stored
    have hstored : s.interests.get? (i.amended target change.messages).id = some i := by
      show s.interests.get? i.id = some i
      rw [hid]
      exact hrevision.stored
    exact ⟨n, Nat.le_succ n, h.save_stored hstored⟩
  | @deleted id f i hdoomed hfound => exact ⟨n, Nat.le_succ n, h.deleteOne f⟩

end Counted

end Store

/-! ## Runs -/

namespace Service

/-- The store after some requests. -/
def storeAfter (svc : Service) (requests : List (Call × Request)) (s : Store) : Store :=
  (svc.run requests s).2.1

variable (svc : Service)

theorem storeAfter_append (rs rs' : List (Call × Request)) (s : Store) :
    svc.storeAfter (rs ++ rs') s = svc.storeAfter rs' (svc.storeAfter rs s) := by
  induction rs generalizing s with
  | nil => rfl
  | cons r rs ih => exact ih (svc.handle r.1 r.2 s).store

/-- **A run draws at most one number for each request**, and all ids in use are among them. -/
theorem counted_storeAfter {n : Nat} {s : Store} (h : s.Counted n) (hs : s.Keyed)
    (requests : List (Call × Request)) :
    (svc.storeAfter requests s).Keyed ∧
      ∃ m ≤ n + requests.length, (svc.storeAfter requests s).Counted m := by
  induction requests generalizing n s with
  | nil => exact ⟨hs, n, Nat.le_refl n, h⟩
  | cons r requests ih =>
    obtain ⟨call, request⟩ := r
    obtain ⟨m, hm, hstep⟩ := h.handle hs svc call request
    obtain ⟨hkeyed, m', hm', hrest⟩ := ih hstep (hs.handle svc call request)
    refine ⟨hkeyed, m', ?_, hrest⟩
    rw [List.length_cons]
    omega

end Service

end VolunteerAccess
