/-!
# Named entries in the order of a document

Tables of a document keep their entries in the order in which the names first
appear, and a name is bound once.

- `Entries.put`: bind a name, in place if it is bound already.
- `Entries.lookup_put_self`, `Entries.lookup_put_of_ne`: what a look-up sees
  afterwards.
- `Entries.put_eq_append`: a new name comes last.
- `Entries.eq_or_mem_of_mem_put`, `Entries.nodup_put`: no other entry comes in, and
  no name is bound twice.
-/

namespace VolunteerAccess.Entries

universe u

variable {α : Type u}

/-- The entries with `x` bound to the name `k`. -/
def put (k : String) (x : α) : List (String × α) → List (String × α)
  | [] => [(k, x)]
  | e :: es => if e.1 == k then (k, x) :: es else e :: put k x es

@[simp] theorem lookup_put_self (k : String) (x : α) :
    (es : List (String × α)) → (put k x es).lookup k = some x
  | [] => by simp [put]
  | (n, y) :: es => by
    unfold put
    by_cases h : n = k
    · simp [h]
    · have : (k == n) = false := by simpa using fun hk => h hk.symm
      simp [h, List.lookup_cons, this, lookup_put_self k x es]

theorem lookup_put_of_ne {k l : String} (x : α) (h : l ≠ k) :
    (es : List (String × α)) → (put k x es).lookup l = es.lookup l
  | [] => by
    have hl : (l == k) = false := by simpa using h
    simp [put, List.lookup_cons, hl]
  | (n, y) :: es => by
    unfold put
    have hl : (l == k) = false := by simpa using h
    by_cases hn : n = k
    · subst hn
      simp [List.lookup_cons, hl]
    · simp [hn, List.lookup_cons, lookup_put_of_ne x h es]

theorem put_eq_append {k : String} (x : α) :
    {es : List (String × α)} → (∀ e ∈ es, e.1 ≠ k) → put k x es = es ++ [(k, x)]
  | [], _ => rfl
  | e :: es, h => by
    have he := List.forall_mem_cons.1 h
    have hne : (e.1 == k) = false := by simpa using he.1
    simp [put, hne, put_eq_append x he.2]

theorem eq_or_mem_of_mem_put {k : String} {x : α} {e : String × α} :
    {es : List (String × α)} → e ∈ put k x es → e = (k, x) ∨ e ∈ es
  | [], h => .inl (List.mem_singleton.1 h)
  | d :: es, h => by
    unfold put at h
    split at h
    · rcases List.mem_cons.1 h with h | h
      · exact .inl h
      · exact .inr (List.mem_cons_of_mem d h)
    · rcases List.mem_cons.1 h with h | h
      · exact .inr (h ▸ List.mem_cons_self)
      · exact (eq_or_mem_of_mem_put h).imp_right (List.mem_cons_of_mem d)

theorem nodup_put {k : String} (x : α) :
    {es : List (String × α)} → (es.map Prod.fst).Nodup → ((put k x es).map Prod.fst).Nodup
  | [], _ => List.pairwise_singleton _ _
  | d :: es, h => by
    rw [List.map_cons, List.nodup_cons] at h
    unfold put
    split
    · next heq =>
      rw [List.map_cons, List.nodup_cons, ← beq_iff_eq.1 heq]
      exact h
    · next hne =>
      rw [List.map_cons, List.nodup_cons]
      refine ⟨fun hmem => ?_, nodup_put x h.2⟩
      obtain ⟨e, he, heq⟩ := List.mem_map.1 hmem
      rcases eq_or_mem_of_mem_put he with rfl | he
      · exact hne (beq_iff_eq.2 heq.symm)
      · exact h.1 (heq ▸ List.mem_map_of_mem he)

end VolunteerAccess.Entries
