import Mathlib.Data.List.Pairwise
import Mathlib.Logic.Function.Basic
import VolunteerAccess.Settings

/-!
# Values of settings that stand apart

The values of one source are laid over one another in an order that nobody chooses. Two of them
may be exchanged unless one sets what the other one sets or passes through. What is left of the
order is then the order of entries in tables, which no look-up can tell:

- `Settings.Shape`: what look-ups tell of a tree.
- `Settings.Layer`: what a value at the end of a key does to a tree.
  `Settings.shape_merge`, `Settings.shape_updateSteps`: it does so to shapes.
- `Settings.Layer.apart`: layers that do not meet. `Settings.Layer.over_comm`: **they may be
  exchanged**.
- `Settings.shapes_assignAll_perm`: **values that stand apart, any two of them, may be laid in any
  order**.
-/

namespace VolunteerAccess.Settings

/-! ## Shapes -/

/-- What look-ups tell of a tree. Lists are seen as they are, with any tables in them. -/
inductive Shape where
  | value (v : Tree)
  | table (entries : String → Option Shape)

namespace Shape

/-- What is looked up in a table; any other shape has no entries. -/
def entries : Shape → String → Option Shape
  | .table es => es
  | .value _ => fun _ => none

/-- The items of a list; any other shape has none. -/
def items : Shape → List Tree
  | .value v => v.items
  | .table _ => []

end Shape

mutual

/-- The shape of a tree. -/
def Tree.shape : Tree → Shape
  | .table es => .table (shapes es)
  | v => .value v

/-- The shapes of entries by their names, the first one of a name counting. -/
def shapes : List (String × Tree) → String → Option Shape
  | [] => fun _ => none
  | (name, v) :: es => Function.update (shapes es) name (some v.shape)

end

theorem shapes_eq_map_lookup (es : List (String × Tree)) (name : String) :
    shapes es name = (es.lookup name).map Tree.shape := by
  induction es with
  | nil => rfl
  | cons e es ih =>
    rw [shapes, Function.update_apply, ih]
    by_cases hname : name = e.1
    · rw [if_pos hname, hname, List.lookup_cons_self]
      rfl
    · have hne : (name == e.1) = false := beq_eq_false_iff_ne.2 hname
      rw [if_neg hname, List.lookup_cons, hne]

theorem shapes_put (name : String) (v : Tree) (es : List (String × Tree)) :
    shapes (Entries.put name v es) = Function.update (shapes es) name (some v.shape) := by
  funext other
  rw [shapes_eq_map_lookup, Function.update_apply]
  by_cases hother : other = name
  · rw [if_pos hother, hother, Entries.lookup_put_self]
    rfl
  · rw [if_neg hother, Entries.lookup_put_of_ne v hother, shapes_eq_map_lookup]

theorem Tree.entries_shape (t : Tree) : t.shape.entries = shapes t.entries := by
  cases t <;> rfl

theorem Tree.items_shape (t : Tree) : t.shape.items = t.items := by
  cases t <;> rfl

/-- A look-up that finds nothing is taken for an absent value. -/
theorem shape_getD_lookup (es : List (String × Tree)) (name : String) :
    ((es.lookup name).getD .absent).shape = (shapes es name).getD (.value .absent) := by
  rw [shapes_eq_map_lookup]
  cases es.lookup name <;> rfl

/-! ## Layers -/

/-- What a value at the end of a key does to the tree that it is laid over. -/
inductive Layer where
  /-- It takes the place of the tree. -/
  | value (v : Tree)
  /-- It changes an item of a list, whatever the change may be. -/
  | item (index : Int) (change : Tree → Tree)
  /-- It is laid over entries of a table. -/
  | table (entries : List (String × Layer))

mutual

/-- What a value does to the tree that it is laid over. -/
def Tree.layer : Tree → Layer
  | .table es => .table (layers es)
  | v => .value v

def layers : List (String × Tree) → List (String × Layer)
  | [] => []
  | (name, v) :: es => (name, v.layer) :: layers es

end

/-- What a value at the end of some steps does to the tree where they start. -/
def Tree.layerAt (v : Tree) : List Step → Layer
  | [] => v.layer
  | .entry name :: steps => .table [(name, v.layerAt steps)]
  | .item index :: steps => .item index (Key.updateSteps steps v.merge)

mutual

/-- The shape with a layer laid over it. -/
def Layer.over : Layer → Shape → Shape
  | .value v, _ => .value v
  | .item index change, s => .value (.list (Key.updateItem index change s.items))
  | .table es, s => .table (overAll es s.entries)

def overAll : List (String × Layer) → (String → Option Shape) → String → Option Shape
  | [], own => own
  | (name, l) :: es, own =>
    overAll es (Function.update own name (some (l.over ((own name).getD (.value .absent)))))

end

mutual

/-- **A value is laid over a tree as its layer is over the shape of the tree.** -/
theorem shape_merge : (v t : Tree) → (v.merge t).shape = v.layer.over t.shape
  | .table es, t => by
    rw [Tree.merge, Tree.layer, Layer.over, Tree.shape, shapes_mergeEntries, Tree.entries_shape]
  | .absent, _ | .bool _, _ | .integer _, _ | .real _, _ | .text _, _ | .list _, _ => rfl

theorem shapes_mergeEntries : (es own : List (String × Tree)) →
    shapes (Tree.mergeEntries es own) = overAll (layers es) (shapes own)
  | [], _ => rfl
  | (name, v) :: es, own => by
    rw [Tree.mergeEntries, shapes_mergeEntries es, layers, overAll, shapes_put, shape_merge v,
      shape_getD_lookup]

end

theorem shape_updateSteps (v : Tree) (steps : List Step) (t : Tree) :
    (Key.updateSteps steps v.merge t).shape = (v.layerAt steps).over t.shape := by
  induction steps generalizing t with
  | nil => exact shape_merge v t
  | cons step steps ih =>
    cases step with
    | entry name =>
      rw [Key.updateSteps, Tree.layerAt, Layer.over, overAll, overAll, Tree.shape, shapes_put, ih,
        shape_getD_lookup, Tree.entries_shape]
    | item index =>
      rw [Key.updateSteps, Tree.layerAt, Layer.over, Tree.items_shape]
      rfl

/-! ## Layers that stand apart -/

mutual

/-- Whether two layers do not meet: they are laid over different entries of tables, or change
different items of a list, counted from its start. -/
def Layer.apart : Layer → Layer → Bool
  | .item i _, .item j _ => 0 ≤ i && 0 ≤ j && i != j
  | .table es, .table fs => apartAll es fs
  | _, _ => false

/-- Whether layers of entries do not meet: those of one name are apart. -/
def apartAll : List (String × Layer) → List (String × Layer) → Bool
  | [], _ => true
  | (name, l) :: es, fs => fs.all (fun f => name != f.1 || l.apart f.2) && apartAll es fs

end

/-! ## Exchanged layers -/

theorem length_updateItem {i : Int} (hi : 0 ≤ i) (f : Tree → Tree) (xs : List Tree) :
    (Key.updateItem i f xs).length = max xs.length (i.natAbs + 1) := by
  unfold Key.updateItem
  rw [if_pos hi, List.length_modify, List.length_append, List.length_replicate]
  omega

theorem getD_updateItem {i : Int} (hi : 0 ≤ i) (f : Tree → Tree) (xs : List Tree) (n : Nat) :
    (Key.updateItem i f xs)[n]?.getD .absent =
      if n = i.natAbs then f (xs[n]?.getD .absent) else xs[n]?.getD .absent := by
  unfold Key.updateItem
  rw [if_pos hi, List.getElem?_modify, List.getElem?_append, List.getElem?_replicate]
  grind

/-- Two items of a list, counted from its start, may be changed in either order. -/
theorem updateItem_comm {i j : Int} (hi : 0 ≤ i) (hj : 0 ≤ j) (hne : i ≠ j)
    (f g : Tree → Tree) (xs : List Tree) :
    Key.updateItem i f (Key.updateItem j g xs) = Key.updateItem j g (Key.updateItem i f xs) := by
  have hne : i.natAbs ≠ j.natAbs := by omega
  refine List.ext_getElem ?_ fun n hn hn' => ?_
  · rw [length_updateItem hi, length_updateItem hj, length_updateItem hj, length_updateItem hi]
    omega
  · have hitem : (Key.updateItem i f (Key.updateItem j g xs))[n]?.getD .absent =
        (Key.updateItem j g (Key.updateItem i f xs))[n]?.getD .absent := by
      simp only [getD_updateItem hi, getD_updateItem hj]
      grind
    simpa [hn, hn'] using hitem

/-- What a layer does to the entry of its name. -/
def overEntry (e : String × Layer) (own : String → Option Shape) : String → Option Shape :=
  Function.update own e.1 (some (e.2.over ((own e.1).getD (.value .absent))))

theorem overEntry_comm {e f : String × Layer}
    (h : e.1 ≠ f.1 ∨ ∀ s, e.2.over (f.2.over s) = f.2.over (e.2.over s))
    (own : String → Option Shape) :
    overEntry e (overEntry f own) = overEntry f (overEntry e own) := by
  unfold overEntry
  by_cases hname : e.1 = f.1
  · rw [hname, Function.update_self, Function.update_self, Option.getD_some, Option.getD_some,
      Function.update_idem, Function.update_idem, (h.resolve_left (not_not_intro hname))]
  · rw [Function.update_of_ne hname, Function.update_of_ne (Ne.symm hname),
      Function.update_comm hname]

theorem overEntry_overAll_comm {e : String × Layer} {fs : List (String × Layer)}
    (h : ∀ f ∈ fs, e.1 ≠ f.1 ∨ ∀ s, e.2.over (f.2.over s) = f.2.over (e.2.over s))
    (own : String → Option Shape) :
    overAll fs (overEntry e own) = overEntry e (overAll fs own) := by
  induction fs generalizing own with
  | nil => rfl
  | cons f fs ih =>
    obtain ⟨hf, hfs⟩ := List.forall_mem_cons.1 h
    show overAll fs (overEntry f (overEntry e own)) = overEntry e (overAll fs (overEntry f own))
    rw [← overEntry_comm hf, ih hfs]

mutual

/-- **Layers that stand apart may be exchanged.** -/
theorem Layer.over_comm : (a b : Layer) → a.apart b = true → (s : Shape) →
    a.over (b.over s) = b.over (a.over s)
  | .item i f, .item j g, h, s => by
    simp only [Layer.apart, Bool.and_eq_true, decide_eq_true_eq, bne_iff_ne] at h
    obtain ⟨⟨hi, hj⟩, hne⟩ := h
    exact congrArg (fun xs => Shape.value (.list xs)) (updateItem_comm hi hj hne f g s.items)
  | .table es, .table fs, h, s => congrArg Shape.table (overAll_comm es fs h s.entries)
  | .value _, _, h, _ | .item _ _, .value _, h, _ | .item _ _, .table _, h, _
  | .table _, .value _, h, _ | .table _, .item _ _, h, _ => by cases h

theorem overAll_comm : (es fs : List (String × Layer)) → apartAll es fs = true →
    (own : String → Option Shape) → overAll es (overAll fs own) = overAll fs (overAll es own)
  | [], _, _, _ => rfl
  | (name, l) :: es, fs, h, own => by
    rw [apartAll, Bool.and_eq_true, List.all_eq_true] at h
    have hentry : ∀ f ∈ fs, name ≠ f.1 ∨ ∀ s, l.over (f.2.over s) = f.2.over (l.over s) := by
      intro f hf
      obtain hname | hlayer := Bool.or_eq_true_iff.1 (h.1 f hf)
      · exact .inl (bne_iff_ne.1 hname)
      · exact .inr (l.over_comm f.2 hlayer)
    show overAll es (overEntry (name, l) (overAll fs own)) =
      overAll fs (overAll es (overEntry (name, l) own))
    rw [← overEntry_overAll_comm hentry, overAll_comm es fs h.2]

end

/-! ## Values under keys -/

/-- The layer of a value under a key, with the outermost entry that the key starts at. -/
def entryLayer (v : String × Tree) : String × Layer :=
  let key := Key.ofText v.1
  (key.root, v.2.layerAt key.steps)

/-- Whether two values under keys do not meet. -/
def apart (v w : String × Tree) : Bool :=
  (entryLayer v).1 != (entryLayer w).1 || (entryLayer v).2.apart (entryLayer w).2

theorem shapes_assign (v : String × Tree) (root : List (String × Tree)) :
    shapes (assign v.1 v.2 root) = overEntry (entryLayer v) (shapes root) := by
  unfold assign Key.update
  rw [shapes_put, shape_updateSteps, shape_getD_lookup]
  rfl

theorem shapes_assignAll (values : List (String × Tree)) (root : List (String × Tree)) :
    shapes (assignAll values root) =
      values.foldl (fun own v => overEntry (entryLayer v) own) (shapes root) := by
  induction values generalizing root with
  | nil => rfl
  | cons v values ih =>
    show shapes (assignAll values (assign v.1 v.2 root)) = _
    rw [ih, shapes_assign]
    rfl

theorem overEntry_comm_of_apart {v w : String × Tree} (h : apart v w = true)
    (own : String → Option Shape) :
    overEntry (entryLayer v) (overEntry (entryLayer w) own) =
      overEntry (entryLayer w) (overEntry (entryLayer v) own) := by
  refine overEntry_comm ?_ own
  obtain hroot | hlayer := Bool.or_eq_true_iff.1 h
  · exact .inl (bne_iff_ne.1 hroot)
  · exact .inr (Layer.over_comm _ _ hlayer)

/-- **Values that stand apart, any two of them, may be laid in any order.** -/
theorem shapes_assignAll_perm {values laid : List (String × Tree)} (hperm : laid.Perm values)
    (hapart : values.Pairwise fun v w => apart v w = true) (root : List (String × Tree)) :
    shapes (assignAll laid root) = shapes (assignAll values root) := by
  rw [shapes_assignAll, shapes_assignAll]
  have hcomm : values.Pairwise fun v w => ∀ own,
      overEntry (entryLayer v) (overEntry (entryLayer w) own) =
        overEntry (entryLayer w) (overEntry (entryLayer v) own) :=
    hapart.imp fun h => overEntry_comm_of_apart h
  have hall := List.Pairwise.forall_of_forall_of_flip (fun _ _ _ => rfl) hcomm
    (hcomm.imp fun h own => (h own).symm)
  refine hperm.foldl_eq' (fun v hv w hw own => ?_) _
  exact hall (hperm.mem_iff.1 hw) (hperm.mem_iff.1 hv) own

end VolunteerAccess.Settings
