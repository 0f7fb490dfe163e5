import VolunteerAccess.Proofs.Document.Encoding
import VolunteerAccess.Proofs.Fallible
import VolunteerAccess.Proofs.Settings.Layers
import VolunteerAccess.Proofs.Settings.Sections

/-!
# Trees that differ in the order of their entries

What is laid in another order gives tables with their entries in another order. Settings are
looked up by name, so they do not tell such trees apart:

- `Settings.Tree.Tidy`: a tree whose tables bind no name twice. `Settings.tidy_assignAll`: whatever
  is laid over one another gives such trees.
- `Settings.Alike`: trees that differ in the order of entries at most.
  `Settings.Alike.lookup`: so do their entries.
- `Settings.Respects`: readers that do not tell such trees apart. `Settings.respects_decode?`:
  **the reader of settings is one**.
- `Settings.Setting.reads_congr`: nor do single settings.
-/

namespace VolunteerAccess.Settings

/-! ## Tidy trees -/

/-- A tree whose tables bind no name twice. Tables in lists may be anything. -/
inductive Tree.Tidy : Tree → Prop where
  | single {v : Tree} (h : v.isTable = false) : Tidy v
  | table {es : List (String × Tree)} (names : (es.map Prod.fst).Nodup)
      (entries : ∀ e ∈ es, Tidy e.2) : Tidy (.table es)

namespace Tree.Tidy

variable {t v : Tree} {es : List (String × Tree)}

theorem nodup (h : (Tree.table es).Tidy) : (es.map Prod.fst).Nodup := by
  cases h with
  | single h => cases h
  | table names entries => exact names

theorem of_mem (h : (Tree.table es).Tidy) {e : String × Tree} (he : e ∈ es) : e.2.Tidy := by
  cases h with
  | single h => cases h
  | table names entries => exact entries e he

theorem lookup (h : (Tree.table es).Tidy) {name : String} (hv : es.lookup name = some v) :
    v.Tidy :=
  h.of_mem ((Dict.lookup_eq_some_iff h.nodup).1 hv)

theorem nil : (Tree.table []).Tidy := .table List.nodup_nil fun _ he => absurd he List.not_mem_nil

theorem entries (h : t.Tidy) : (Tree.table t.entries).Tidy := by
  cases t with
  | table es => exact h
  | _ => exact nil

theorem getD_lookup (h : (Tree.table es).Tidy) (name : String) :
    ((es.lookup name).getD .absent).Tidy := by
  cases hv : es.lookup name with
  | none => exact .single rfl
  | some v => exact h.lookup hv

theorem put (h : (Tree.table es).Tidy) (name : String) (hv : v.Tidy) :
    (Tree.table (Entries.put name v es)).Tidy := by
  refine .table (Entries.nodup_put v h.nodup) fun e he => ?_
  rcases Entries.eq_or_mem_of_mem_put he with rfl | he
  · exact hv
  · exact h.of_mem he

end Tree.Tidy

mutual

/-- A value that is laid over a tidy tree need not be tidy itself: its entries are put in one after
another. -/
theorem tidy_merge : (v : Tree) → {t : Tree} → t.Tidy → (v.merge t).Tidy
  | .table es, _, h => tidy_mergeEntries es h.entries
  | .absent, _, _ | .bool _, _, _ | .integer _, _, _ | .real _, _, _ | .text _, _, _
  | .list _, _, _ => .single rfl

theorem tidy_mergeEntries : (es : List (String × Tree)) → {own : List (String × Tree)} →
    (Tree.table own).Tidy → (Tree.table (Tree.mergeEntries es own)).Tidy
  | [], _, h => h
  | (name, v) :: es, _, h =>
    tidy_mergeEntries es (h.put name (tidy_merge v (h.getD_lookup name)))

end

theorem tidy_updateSteps (v : Tree) (steps : List Step) {t : Tree} (h : t.Tidy) :
    (Key.updateSteps steps v.merge t).Tidy := by
  induction steps generalizing t with
  | nil => exact tidy_merge v h
  | cons step steps ih =>
    cases step with
    | entry name => exact h.entries.put name (ih (h.entries.getD_lookup name))
    | item index => exact .single rfl

theorem tidy_assignAll (values : List (String × Tree)) {root : List (String × Tree)}
    (h : (Tree.table root).Tidy) : (Tree.table (assignAll values root)).Tidy := by
  induction values generalizing root with
  | nil => exact h
  | cons v values ih => exact ih (h.put _ (tidy_updateSteps v.2 _ (h.getD_lookup _)))

/-! ## Alike trees -/

/-- Trees that differ in the order of entries at most. -/
inductive Alike : Tree → Tree → Prop where
  | same (t : Tree) : Alike t t
  | tables {es fs : List (String × Tree)} (left : (Tree.table es).Tidy)
      (right : (Tree.table fs).Tidy) (shapes : shapes es = shapes fs) :
      Alike (.table es) (.table fs)

theorem Tree.shape_of_not_isTable {v : Tree} (h : v.isTable = false) : v.shape = .value v := by
  cases v with
  | table es => cases h
  | _ => rfl

/-- Tidy trees of one shape are alike. -/
theorem alike_of_shape {t u : Tree} (ht : t.Tidy) (hu : u.Tidy) (h : t.shape = u.shape) :
    Alike t u := by
  cases htable : t.isTable with
  | true =>
    obtain ⟨es, rfl⟩ := Tree.isTable_iff.1 htable
    cases u with
    | table fs => exact .tables ht hu (Shape.table.inj h)
    | _ => cases h
  | false =>
    rw [Tree.shape_of_not_isTable htable] at h
    cases u with
    | table fs => cases h
    | _ =>
      cases h
      exact .same _

namespace Alike

variable {t u : Tree} {es fs : List (String × Tree)}

/-- Entries of one name are alike. -/
theorem lookup (h : Alike (.table es) (.table fs)) (name : String) :
    Option.Rel Alike (es.lookup name) (fs.lookup name) := by
  cases h with
  | same =>
    cases es.lookup name with
    | none => exact .none
    | some v => exact .some (.same v)
  | tables left right shapes =>
    have hname := congrFun shapes name
    rw [shapes_eq_map_lookup, shapes_eq_map_lookup] at hname
    cases hv : es.lookup name with
    | none =>
      rw [hv] at hname
      rw [Option.map_eq_none_iff.1 hname.symm]
      exact .none
    | some v =>
      rw [hv] at hname
      obtain ⟨w, hw, hshape⟩ := Option.map_eq_some_iff.1 hname.symm
      rw [hw]
      exact .some (alike_of_shape (left.lookup hv) (right.lookup hw) hshape.symm)

theorem lookup_entries (h : Alike t u) (name : String) :
    Option.Rel Alike (t.entries.lookup name) (u.entries.lookup name) := by
  cases h with
  | same => exact (Alike.same (.table t.entries)).lookup name
  | tables left right shapes => exact (Alike.tables left right shapes).lookup name

theorem isTable_eq (h : Alike t u) : t.isTable = u.isTable := by
  cases h <;> rfl

theorem isNull_eq (h : Alike t u) : Document.isNull t = Document.isNull u := by
  cases h <;> rfl

/-- Alike tables have the same names. -/
theorem names_perm (h : Alike (.table es) (.table fs)) :
    (es.map Prod.fst).Perm (fs.map Prod.fst) := by
  cases h with
  | same => exact .refl _
  | tables left right shapes =>
    have hmem : ∀ {es : List (String × Tree)} {name : String}, (Tree.table es).Tidy →
        (name ∈ es.map Prod.fst ↔ (Settings.shapes es name).isSome = true) := by
      intro es name hes
      rw [shapes_eq_map_lookup, Option.isSome_map, Option.isSome_iff_exists]
      simp only [Dict.lookup_eq_some_iff hes.nodup, List.mem_map, Prod.exists, exists_and_right,
        exists_eq_right]
    refine (List.perm_ext_iff_of_nodup left.nodup right.nodup).2 fun name => ?_
    rw [hmem left, hmem right, shapes]

end Alike

/-! ## Readers -/

/-- A reader that does not tell alike trees apart. -/
def Respects {α : Type} (read : Tree → Option α) : Prop :=
  ∀ ⦃t u : Tree⦄, Alike t u → read t = read u

section
variable {α : Type} {read : Tree → Option α} {v w : Option Tree}

theorem respects_text? : Respects (Document.text? (τ := Tree)) := fun _ _ h => by cases h <;> rfl

theorem respects_flag? : Respects (Document.flag? (τ := Tree)) := fun _ _ h => by cases h <;> rfl

theorem respects_items? : Respects (Document.items? (τ := Tree)) := fun _ _ h => by cases h <;> rfl

theorem respects_list? (read : Tree → Option α) : Respects (Document.list? read) := by
  intro t u h
  unfold Document.list?
  rw [respects_items? h]

/-- The only one of some names. -/
def onlyName? : List String → Option String
  | [name] => some name
  | _ => none

theorem onlyName?_perm {names names' : List String} (h : names.Perm names') :
    onlyName? names = onlyName? names' := by
  match names, names', h.length_eq with
  | [], [], _ => rfl
  | [_], [_], _ => exact congrArg onlyName? (List.perm_singleton.1 h)
  | _ :: _ :: _, _ :: _ :: _, _ => rfl

/-- A table stands for a case of an enumeration if it has one name alone. -/
theorem case?_table (es : List (String × Tree)) :
    Document.case? (Tree.table es) = onlyName? (es.map Prod.fst) := by
  match es with
  | [] => rfl
  | [_] => rfl
  | _ :: _ :: _ => rfl

theorem respects_enum? (cases : List α) (name : α → String) :
    Respects (Document.enum? (τ := Tree) cases name) := by
  have hcase : Respects (Document.case? (τ := Tree)) := by
    intro t u h
    cases h with
    | same => rfl
    | tables left right shapes =>
      rw [case?_table, case?_table]
      exact onlyName?_perm (Alike.tables left right shapes).names_perm
  intro t u h
  unfold Document.enum?
  rw [hcase h]

theorem Respects.bind (hread : Respects read) (h : Option.Rel Alike v w) :
    v.bind read = w.bind read := by
  cases h with
  | none => rfl
  | some h => exact hread h

theorem Respects.all_isSome (hread : Respects read) (h : Option.Rel Alike v w) :
    v.all (fun t => (read t).isSome) = w.all fun t => (read t).isSome := by
  cases h with
  | none => rfl
  | some h => exact congrArg Option.isSome (hread h)

theorem Respects.orDefault (hread : Respects read) (d : α) (h : Option.Rel Alike v w) :
    Document.orDefault d read v = Document.orDefault d read w := by
  cases h with
  | none => rfl
  | some h => exact hread h

theorem Respects.optional (hread : Respects read) (h : Option.Rel Alike v w) :
    Document.optional read v = Document.optional read w := by
  cases h with
  | none => rfl
  | some h =>
    unfold Document.optional
    dsimp only
    rw [h.isNull_eq, hread h]

/-- The fields of a table without a name bound twice are its entries. -/
theorem fields?_of_nodup {es : List (String × Tree)} (h : (es.map Prod.fst).Nodup)
    (names : List String) :
    Document.fields? names (Tree.table es) = some fun name => es.lookup name := by
  show (if Document.repeats names es then none else some fun name => es.lookup name) = _
  rw [Document.repeats_of_nodup h, if_neg Bool.false_ne_true]

/-- What is made of the fields of a structure alone. -/
theorem respects_fields {names : List String} {read : (String → Option Tree) → Option α}
    (hread : ∀ f g : String → Option Tree, (∀ name, Option.Rel Alike (f name) (g name)) →
      read f = read g) : Respects fun t => (Document.fields? names t).bind read := by
  intro t u h
  cases h with
  | same => rfl
  | tables left right shapes =>
    dsimp only
    rw [fields?_of_nodup left.nodup, fields?_of_nodup right.nodup]
    exact hread _ _ (Alike.tables left right shapes).lookup

/-- An entry of a table with its value read. -/
def readEntry (read : Tree → Option α) (e : String × Tree) : Option (String × α) :=
  (read e.2).map fun x => (e.1, x)

theorem readEntry_eq_some_iff {e : String × Tree} {x : String × α} :
    readEntry read e = some x ↔ e.1 = x.1 ∧ read e.2 = some x.2 := by
  unfold readEntry
  rw [Option.map_eq_some_iff]
  constructor
  · rintro ⟨y, hy, rfl⟩
    exact ⟨rfl, hy⟩
  · rintro ⟨hname, hx⟩
    exact ⟨x.2, hx, Prod.ext hname rfl⟩

/-- Each name is bound to what is read under it. -/
theorem get?_ofList_filterMap {es : List (String × Tree)} (h : (es.map Prod.fst).Nodup)
    (name : String) : (Dict.ofList (es.filterMap (readEntry read))).get? name =
      (es.lookup name).bind read := by
  have hnodup : ((es.filterMap (readEntry read)).map Prod.fst).Nodup := by
    refine List.pairwise_map.2 (List.pairwise_filterMap.2 ?_)
    refine (List.pairwise_map.1 h).imp fun hne x hx y hy => ?_
    rwa [← (readEntry_eq_some_iff.1 hx).1, ← (readEntry_eq_some_iff.1 hy).1]
  refine Option.ext fun x => ?_
  rw [Dict.get?_ofList_iff hnodup, List.mem_filterMap, Option.bind_eq_some_iff]
  simp only [Dict.lookup_eq_some_iff h, readEntry_eq_some_iff]
  constructor
  · rintro ⟨e, he, rfl, hx⟩
    exact ⟨e.2, he, hx⟩
  · rintro ⟨v, hv, hx⟩
    exact ⟨(name, v), hv, rfl, hx⟩

/-- A table is read if all its entries are, and then each name is bound to what is read. -/
theorem dict?_table_eq_some_iff {es : List (String × Tree)} (h : (es.map Prod.fst).Nodup)
    {d : Dict α} : Document.dict? read (Tree.table es) = some d ↔
      (∀ name, (es.lookup name).all (fun v => (read v).isSome) = true) ∧
        ∀ name, (es.lookup name).bind read = d.get? name := by
  have hall : (∀ e ∈ es, (readEntry read e).isSome = true) ↔
      ∀ name, (es.lookup name).all (fun v => (read v).isSome) = true := by
    simp only [readEntry, Option.isSome_map, Option.all_eq_true, Dict.lookup_eq_some_iff h,
      Prod.forall]
  show (es.mapM (readEntry read)).bind (fun entries => some (Dict.ofList entries)) = some d ↔ _
  rw [Option.bind_eq_some_iff, ← hall]
  simp only [mapM_eq_some_iff, Option.some.injEq, ← get?_ofList_filterMap h]
  constructor
  · rintro ⟨_, ⟨hes, rfl⟩, rfl⟩
    exact ⟨hes, fun _ => rfl⟩
  · rintro ⟨hes, hget⟩
    exact ⟨_, ⟨hes, rfl⟩, Dict.ext_get? hget⟩

theorem Respects.dict? (hread : Respects read) : Respects (Document.dict? read) := by
  intro t u h
  cases h with
  | same => rfl
  | @tables es fs left right shapes =>
    have hlookup := (Alike.tables left right shapes).lookup
    refine Option.ext fun d => ?_
    rw [dict?_table_eq_some_iff left.nodup, dict?_table_eq_some_iff right.nodup]
    simp only [hread.all_isSome (hlookup _), hread.bind (hlookup _)]

/-! ## Settings -/

theorem respects_decodeEngine? : Respects (decodeEngine? (τ := Tree)) :=
  respects_fields fun _ _ h => respects_flag?.orDefault _ (h _)

theorem respects_decodeStore? : Respects (decodeStore? (τ := Tree)) :=
  respects_fields fun _ _ h => respects_text?.optional (h _)

theorem respects_logFormat : Respects (LogFormat.decode? (τ := Tree)) := respects_enum? _ _

theorem respects_role : Respects (Role.decode? (τ := Tree)) := respects_enum? _ _

theorem respects_decodeLogging? : Respects (decodeLogging? (τ := Tree)) := by
  refine respects_fields fun f g h => ?_
  rw [respects_text?.orDefault _ (h "level"), respects_logFormat.orDefault _ (h "format")]

theorem respects_transitionConfig : Respects (TransitionConfig.decode? (τ := Tree)) := by
  have hallowed : Respects fun t : Tree =>
      (Document.dict? (Document.list? Document.text?) t).map Dict.entries := fun _ _ h =>
    congrArg (Option.map Dict.entries) ((respects_list? _).dict? h)
  refine respects_fields fun f g h => ?_
  rw [respects_role.orDefault _ (h "actor"), respects_text?.orDefault _ (h "field"),
    hallowed.orDefault _ (h "allowed")]

/-- **Settings do not tell in which order the entries of their tables are.** -/
theorem respects_decode? : Respects (Settings.decode? (τ := Tree)) := by
  refine respects_fields fun f g h => ?_
  rw [respects_decodeEngine?.orDefault _ (h "engine"),
    respects_transitionConfig.dict?.orDefault _ (h "transitions"),
    respects_decodeStore?.orDefault _ (h "store"),
    respects_decodeLogging?.orDefault _ (h "logging")]

namespace Setting

variable {es fs : List (String × Tree)}

/-- Nor does what is in the place of a single setting. -/
theorem rel_entry? (x : Setting) (h : Alike (.table es) (.table fs)) :
    Option.Rel Alike (x.entry? es) (x.entry? fs) := by
  have hhome := h.lookup x.home
  unfold entry?
  generalize es.lookup x.home = v at hhome ⊢
  generalize fs.lookup x.home = w at hhome ⊢
  cases hhome with
  | none => exact .none
  | some h => exact h.lookup_entries x.name

theorem reads_congr (x : Setting) {settings : Settings} (h : Option.Rel Alike v w) :
    x.Reads v settings ↔ x.Reads w settings := by
  cases x with
  | concurrentBuilders => exact iff_of_eq (congrArg (· = _) (respects_flag?.orDefault _ h))
  | fixtures => exact iff_of_eq (congrArg (· = _) (respects_text?.optional h))
  | level => exact iff_of_eq (congrArg (· = _) (respects_text?.orDefault _ h))
  | format => exact iff_of_eq (congrArg (· = _) (respects_logFormat.orDefault _ h))

end Setting

end

end VolunteerAccess.Settings
