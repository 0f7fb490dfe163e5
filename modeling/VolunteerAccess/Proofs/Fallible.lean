import Mathlib.Data.List.Forall2

/-!
# Steps that may fail

Compiling an ability and answering a request are sequences of steps each of
which may fail. A sequence succeeds exactly when all its steps do, which is the
form in which later proofs take it apart:

- `bind_eq_ok_iff`: two steps, of which the second gets the result of the first;
  `bind_congr_ok`: the second matters only at that result. `bind_eq_error_iff`: a failure is
  the first one that is met.
- `map_eq_ok_iff`, `map_eq_error_iff`, `mapError_eq_ok_iff`, `mapError_eq_error_iff`: what is
  done to a result or to a failure cannot fail. `elim_eq_ok_iff`: what must be there.
  `toOption_eq_some_iff`: what is there. `exists_map_val_eq`: a result with what is known of it.
- `forM_eq_ok_iff`: a check made of every member of a list; `forM_eq_error_iff`: the
  first member that does not pass is the one that is reported.
- `mapM_eq_ok_iff`, `mapM_eq_some_iff`: a result made of every member of a list.
- `foldlM_eq_ok_iff`: something built up member by member.
- `forall₂_exists_iff`: two results made one after the other of every member.
- `exists_mem_of_forall₂_left`, `exists_mem_of_forall₂_right`: every member has its
  counterpart.
-/

namespace VolunteerAccess

universe u v w

variable {ε : Type u} {α : Type v} {β : Type v}

theorem bind_eq_ok_iff {x : Except ε α} {f : α → Except ε β} {b : β} :
    x >>= f = .ok b ↔ ∃ a, x = .ok a ∧ f a = .ok b := by
  cases x with
  | error e =>
    constructor
    · intro h
      cases h
    · rintro ⟨a, ha, -⟩
      cases ha
  | ok a =>
    constructor
    · intro h
      exact ⟨a, rfl, h⟩
    · rintro ⟨_, ha, h⟩
      cases ha
      exact h

/-- The failure of two steps is that of the first, or that of the second if the first succeeds. -/
theorem bind_eq_error_iff {x : Except ε α} {f : α → Except ε β} {e : ε} :
    x >>= f = .error e ↔ x = .error e ∨ ∃ a, x = .ok a ∧ f a = .error e := by
  cases x with
  | error e' =>
    show Except.error e' = Except.error e ↔ _
    rw [Except.error.injEq, Except.error.injEq]
    refine (or_iff_left ?_).symm
    rintro ⟨a, ha, -⟩
    cases ha
  | ok a =>
    constructor
    · intro h
      exact .inr ⟨a, rfl, h⟩
    · rintro (h | ⟨_, ha, h⟩)
      · cases h
      · cases ha
        exact h

theorem map_eq_ok_iff {x : Except ε α} {f : α → β} {b : β} :
    x.map f = .ok b ↔ ∃ a, x = .ok a ∧ f a = b := by
  cases x with
  | error e =>
    refine iff_of_false (fun h => by cases h) ?_
    rintro ⟨a, ha, -⟩
    cases ha
  | ok a =>
    show Except.ok (f a) = .ok b ↔ _
    rw [Except.ok.injEq]
    constructor
    · intro h
      exact ⟨a, rfl, h⟩
    · rintro ⟨_, ha, h⟩
      cases ha
      exact h

/-- A result that is only rewritten is missing where it was. -/
theorem map_eq_error_iff {x : Except ε α} {f : α → β} {e : ε} :
    x.map f = .error e ↔ x = .error e := by
  cases x with
  | error e' =>
    show Except.error e' = Except.error e ↔ _
    rw [Except.error.injEq, Except.error.injEq]
  | ok a => exact iff_of_false (fun h => by cases h) (fun h => by cases h)

/-- A failure that is only renamed is still one. -/
theorem mapError_eq_ok_iff {ε' : Type u} {x : Except ε α} {f : ε → ε'} {a : α} :
    x.mapError f = .ok a ↔ x = .ok a := by
  cases x with
  | error e => exact iff_of_false (fun h => by cases h) (fun h => by cases h)
  | ok b =>
    show Except.ok b = .ok a ↔ Except.ok b = .ok a
    rw [Except.ok.injEq, Except.ok.injEq]

theorem mapError_eq_error_iff {ε' : Type u} {x : Except ε α} {f : ε → ε'} {e : ε'} :
    x.mapError f = .error e ↔ ∃ e', x = .error e' ∧ f e' = e := by
  cases x with
  | error e' =>
    show Except.error (f e') = Except.error e ↔ _
    rw [Except.error.injEq]
    constructor
    · intro h
      exact ⟨e', rfl, h⟩
    · rintro ⟨_, he, h⟩
      cases he
      exact h
  | ok a =>
    refine iff_of_false (fun h => by cases h) ?_
    rintro ⟨e', he, -⟩
    cases he

/-- What is known of every result can come with it. -/
theorem exists_map_val_eq {P : α → Prop} {x : Except ε α} (h : ∀ a, x = .ok a → P a) :
    ∃ y : Except ε { a // P a }, y.map Subtype.val = x := by
  cases x with
  | error e => exact ⟨.error e, rfl⟩
  | ok a => exact ⟨.ok ⟨a, h a rfl⟩, rfl⟩

/-- What must be there is taken where it is. -/
theorem elim_eq_ok_iff {o : Option α} {e : ε} {a : α} :
    o.elim (.error e) .ok = (.ok a : Except ε α) ↔ o = some a := by
  cases o <;> simp

theorem toOption_eq_some_iff {x : Except ε α} {a : α} : x.toOption = some a ↔ x = .ok a := by
  cases x <;> simp [Except.toOption]

/-- What follows a step may be replaced by what does the same with its result. -/
theorem bind_congr_ok {x : Except ε α} {f g : α → Except ε β} (h : ∀ a, x = .ok a → f a = g a) :
    x >>= f = x >>= g := by
  cases x with
  | error e => rfl
  | ok a => exact h a rfl

theorem forM_eq_ok_iff {γ : Type w} {f : γ → Except ε PUnit} {xs : List γ} :
    xs.forM f = .ok ⟨⟩ ↔ ∀ x ∈ xs, f x = .ok ⟨⟩ := by
  induction xs with
  | nil => exact ⟨fun _ _ hx => absurd hx List.not_mem_nil, fun _ => rfl⟩
  | cons x xs ih =>
    show (f x >>= fun _ => xs.forM f) = .ok ⟨⟩ ↔ _
    rw [bind_eq_ok_iff, List.forall_mem_cons, ← ih]
    constructor
    · rintro ⟨⟨⟩, hx, hxs⟩
      exact ⟨hx, hxs⟩
    · rintro ⟨hx, hxs⟩
      exact ⟨⟨⟩, hx, hxs⟩

/-- The first member that does not pass is the one that is reported. -/
theorem forM_eq_error_iff {γ : Type w} {f : γ → Except ε PUnit} {xs : List γ} {e : ε} :
    xs.forM f = .error e ↔ ∃ earlier x later, xs = earlier ++ x :: later ∧
      (∀ y ∈ earlier, f y = .ok ⟨⟩) ∧ f x = .error e := by
  induction xs with
  | nil =>
    refine iff_of_false (fun h => by cases h) ?_
    rintro ⟨earlier, x, later, heq, -⟩
    exact absurd heq.symm (List.append_ne_nil_of_right_ne_nil _ (List.cons_ne_nil x later))
  | cons x xs ih =>
    show (f x >>= fun _ => xs.forM f) = .error e ↔ _
    cases hx : f x with
    | error e' =>
      show Except.error e' = .error e ↔ _
      rw [Except.error.injEq]
      constructor
      · rintro rfl
        exact ⟨[], x, xs, rfl, fun y hy => absurd hy List.not_mem_nil, hx⟩
      · rintro ⟨earlier, y, later, heq, hearlier, hy⟩
        -- The head fails, so no other member can stand before the one that is reported.
        cases earlier with
        | nil =>
          cases heq
          rw [hx] at hy
          exact Except.error.inj hy
        | cons z earlier =>
          cases heq
          have hz := hearlier x List.mem_cons_self
          rw [hx] at hz
          cases hz
    | ok u =>
      show xs.forM f = .error e ↔ _
      rw [ih]
      constructor
      · rintro ⟨earlier, y, later, rfl, hearlier, hy⟩
        refine ⟨x :: earlier, y, later, rfl, ?_, hy⟩
        rw [List.forall_mem_cons]
        exact ⟨hx, hearlier⟩
      · rintro ⟨earlier, y, later, heq, hearlier, hy⟩
        cases earlier with
        | nil =>
          cases heq
          rw [hx] at hy
          cases hy
        | cons z earlier =>
          cases heq
          exact ⟨earlier, y, later, rfl, (List.forall_mem_cons.1 hearlier).2, hy⟩

/-- Checking lists one after another is checking the members of all of them in order. -/
theorem forM_flatMap {γ : Type w} {ι : Type w} {f : γ → Except ε PUnit} {g : ι → List γ}
    {is : List ι} : is.forM (fun i => (g i).forM f) = (is.flatMap g).forM f := by
  induction is with
  | nil => rfl
  | cons i is ih =>
    rw [List.flatMap_cons]
    show ((g i).forM f >>= fun _ => is.forM fun i => (g i).forM f) = _
    rw [ih]
    exact (List.forM_append).symm

theorem mapM_eq_ok_iff {γ : Type w} {f : γ → Except ε α} {xs : List γ} {ys : List α} :
    xs.mapM f = .ok ys ↔ List.Forall₂ (fun x y => f x = .ok y) xs ys := by
  induction xs generalizing ys with
  | nil =>
    rw [List.mapM_nil, List.forall₂_nil_left_iff]
    constructor
    · intro h
      cases h
      rfl
    · rintro rfl
      rfl
  | cons x xs ih =>
    rw [List.mapM_cons, bind_eq_ok_iff, List.forall₂_cons_left_iff]
    constructor
    · rintro ⟨y, hy, hrest⟩
      obtain ⟨zs, hzs, heq⟩ := bind_eq_ok_iff.1 hrest
      cases heq
      exact ⟨y, zs, hy, ih.1 hzs, rfl⟩
    · rintro ⟨y, zs, hy, hzs, rfl⟩
      exact ⟨y, hy, bind_eq_ok_iff.2 ⟨zs, ih.2 hzs, rfl⟩⟩

/-- A result made of every member of a list is there if each of them gives one. -/
theorem mapM_eq_some_iff {γ : Type u} {ι : Type v} {f : γ → Option ι} {xs : List γ} {ys : List ι} :
    xs.mapM f = some ys ↔ (∀ x ∈ xs, (f x).isSome = true) ∧ xs.filterMap f = ys := by
  induction xs generalizing ys with
  | nil => simp
  | cons x xs ih =>
    rw [List.mapM_cons, List.forall_mem_cons]
    cases hx : f x with
    | none => simp
    | some y =>
      rw [List.filterMap_cons_some hx]
      show (xs.mapM f).bind (fun zs => some (y :: zs)) = some ys ↔ _
      rw [Option.bind_eq_some_iff]
      simp only [ih, Option.some.injEq]
      constructor
      · rintro ⟨_, ⟨hxs, rfl⟩, rfl⟩
        exact ⟨⟨rfl, hxs⟩, rfl⟩
      · rintro ⟨⟨-, hxs⟩, rfl⟩
        exact ⟨_, ⟨hxs, rfl⟩, rfl⟩

/-- Where success at a member does not depend on what is built so far, all members must be fit,
and the result is that of the steps without failure. -/
theorem foldlM_eq_ok_iff {γ : Type w} {f : β → γ → Except ε β} {fit : γ → Prop} {step : β → γ → β}
    (h : ∀ b x b', f b x = .ok b' ↔ fit x ∧ b' = step b x) {xs : List γ} {b b' : β} :
    xs.foldlM f b = .ok b' ↔ (∀ x ∈ xs, fit x) ∧ b' = xs.foldl step b := by
  induction xs generalizing b with
  | nil =>
    show Except.ok b = Except.ok b' ↔ _
    rw [Except.ok.injEq, eq_comm]
    exact ⟨fun heq => ⟨fun x hx => absurd hx List.not_mem_nil, heq⟩, fun hall => hall.2⟩
  | cons x xs ih =>
    rw [List.foldlM_cons, bind_eq_ok_iff, List.forall_mem_cons, List.foldl_cons]
    simp only [h, ih]
    constructor
    · rintro ⟨_, ⟨hx, rfl⟩, hxs, heq⟩
      exact ⟨⟨hx, hxs⟩, heq⟩
    · rintro ⟨⟨hx, hxs⟩, heq⟩
      exact ⟨step b x, ⟨hx, rfl⟩, hxs, heq⟩

/-- Two passes over a list are one pass that does both steps at each member. -/
theorem forall₂_exists_iff {γ : Type w} {R : γ → α → Prop} {S : α → β → Prop} {xs : List γ}
    {zs : List β} : List.Forall₂ (fun x z => ∃ y, R x y ∧ S y z) xs zs ↔
      ∃ ys, List.Forall₂ R xs ys ∧ List.Forall₂ S ys zs := by
  constructor
  · intro h
    induction h with
    | nil => exact ⟨[], .nil, .nil⟩
    | cons hd _ ih =>
      obtain ⟨y, hR, hS⟩ := hd
      obtain ⟨ys, hRs, hSs⟩ := ih
      exact ⟨y :: ys, .cons hR hRs, .cons hS hSs⟩
  · rintro ⟨ys, hR, hS⟩
    induction hR generalizing zs with
    | nil =>
      cases hS
      exact .nil
    | cons hd _ ih =>
      obtain _ | ⟨hS, hSs⟩ := hS
      exact .cons ⟨_, hd, hS⟩ (ih hSs)

theorem exists_mem_of_forall₂_left {R : α → β → Prop} {xs : List α} {ys : List β}
    (h : List.Forall₂ R xs ys) {x : α} (hx : x ∈ xs) : ∃ y ∈ ys, R x y := by
  induction h with
  | nil => exact absurd hx List.not_mem_nil
  | cons hd _ ih =>
    rcases List.mem_cons.1 hx with rfl | hx
    · exact ⟨_, List.mem_cons_self, hd⟩
    · obtain ⟨y, hy, hR⟩ := ih hx
      exact ⟨y, List.mem_cons_of_mem _ hy, hR⟩

theorem exists_mem_of_forall₂_right {R : α → β → Prop} {xs : List α} {ys : List β}
    (h : List.Forall₂ R xs ys) {y : β} (hy : y ∈ ys) : ∃ x ∈ xs, R x y :=
  exists_mem_of_forall₂_left h.flip hy

end VolunteerAccess
