import VolunteerAccess.Proofs.Ability.Verdict
import VolunteerAccess.Proofs.Filter.NormalForm
import VolunteerAccess.Proofs.Filter.Queries
import VolunteerAccess.Service

/-!
# The shape of query documents

A store with a query language of its own refuses an operator that is given no operands,
and takes a constant only where it is the whole query. The documents of simplified
filters are such queries, however deep the filters are.

- `Json.members`: the members of the objects in a value, at any depth.
- `Condition.operatorFree`: the conditions from which a document gets no operator.
- `Query.Tidy`: the documents that a store takes.
- `Filter.Normal.tidy`: **the document of a simplified filter is tidy**.
- `Ability.Asks`: the filters that a store is asked with for an ability.
- `Filter.stays_normal`: the combinators keep filters simplified, so these filters are
  simplified and their documents tidy.
-/

namespace VolunteerAccess

/-! ## Members at any depth -/

namespace Json

mutual

/-- The members of the objects in a value, at any depth. -/
def members : Json → List (String × Json)
  | .array vs => membersOfItems vs
  | .object ms => membersOfMembers ms
  | _ => []

def membersOfItems : List Json → List (String × Json)
  | [] => []
  | v :: vs => members v ++ membersOfItems vs

def membersOfMembers : List (String × Json) → List (String × Json)
  | [] => []
  | (key, v) :: ms => (key, v) :: (members v ++ membersOfMembers ms)

end

theorem membersOfItems_eq : (vs : List Json) → membersOfItems vs = vs.flatMap members
  | [] => rfl
  | v :: vs => by rw [membersOfItems, membersOfItems_eq vs, List.flatMap_cons]

theorem membersOfMembers_eq : (ms : List (String × Json)) →
    membersOfMembers ms = ms.flatMap fun m => m :: m.2.members
  | [] => rfl
  | (key, v) :: ms => by
    rw [membersOfMembers, membersOfMembers_eq ms, List.flatMap_cons, List.cons_append]

theorem members_singleton (key : String) (v : Json) :
    (object [(key, v)]).members = (key, v) :: v.members := by
  rw [members, membersOfMembers, membersOfMembers, List.append_nil]

mutual

/-- Whether a value is no object and has none inside it. -/
def objectFree : Json → Bool
  | .array vs => allObjectFree vs
  | .object _ => false
  | _ => true

def allObjectFree : List Json → Bool
  | [] => true
  | v :: vs => objectFree v && allObjectFree vs

end

mutual

theorem members_of_objectFree : (v : Json) → v.objectFree = true → v.members = []
  | .null, _ | .bool _, _ | .number _, _ | .text _, _ => rfl
  | .array vs, h => membersOfItems_of_objectFree vs h

theorem membersOfItems_of_objectFree :
    (vs : List Json) → allObjectFree vs = true → membersOfItems vs = []
  | [], _ => rfl
  | v :: vs, h => by
    rw [allObjectFree, Bool.and_eq_true] at h
    rw [membersOfItems, members_of_objectFree v h.1, membersOfItems_of_objectFree vs h.2,
      List.nil_append]

end

end Json

/-! ## Conditions -/

/-- Whether no object occurs in what a field is compared with. -/
def Matcher.objectFree : Matcher → Bool
  | .eq v => v.objectFree
  | .isIn vs => Json.allObjectFree vs

namespace Condition

/-- Whether no field has a name that starts with a dollar sign, and no object occurs in what
the fields are compared with. -/
def operatorFree (c : Condition) : Bool :=
  c.tests.entries.all fun test => test.1.toList.head? != some '$' && test.2.objectFree

/-- What a test is written as has no member but the list to choose from. -/
theorem mem_members_encode {m : Matcher} (h : m.objectFree = true) {member : String × Json}
    (hmember : member ∈ m.encode.members) : member.1 = "$in" := by
  cases m with
  | eq v =>
    have hnone : v.members = [] := v.members_of_objectFree h
    unfold Matcher.encode at hmember
    rw [hnone] at hmember
    exact absurd hmember List.not_mem_nil
  | isIn vs =>
    have hnone : (Json.array vs).members = [] := Json.membersOfItems_of_objectFree vs h
    unfold Matcher.encode at hmember
    rw [Json.members_singleton, hnone] at hmember
    rw [List.mem_singleton.1 hmember]

/-- The document of a condition has fields and lists to choose from for members. -/
theorem mem_members_toQuery {c : Condition} (h : c.operatorFree = true)
    {member : String × Json} (hmember : member ∈ c.toQuery.members) :
    member.1 = "$in" ∨ member.1.toList.head? ≠ some '$' := by
  have htests : c.toQuery.members = (c.tests.entries.map fun test =>
      (test.1, test.2.encode)).flatMap fun m => m :: m.2.members := Json.membersOfMembers_eq _
  rw [htests, List.flatMap_map, List.mem_flatMap] at hmember
  obtain ⟨test, htest, hmember⟩ := hmember
  have hfree := List.all_eq_true.1 h test htest
  rw [Bool.and_eq_true, bne_iff_ne] at hfree
  rcases List.mem_cons.1 hmember with rfl | hdeep
  · exact .inr hfree.1
  · exact .inl (mem_members_encode hfree.2 hdeep)

end Condition

/-! ## Documents -/

namespace Query

/-- A member of a document that is neither a constant nor an operator without operands. -/
def Settled (member : String × Json) : Prop :=
  member.1 ≠ "$expr" ∧ (member.1 ∈ ["$and", "$or", "$nor"] → member.2 ≠ .array [])

/-- A document without an operator that has no operands, and with a constant at most as the whole
of it. -/
structure Tidy (q : Json) : Prop where
  operands : ∀ key ∈ ["$and", "$or", "$nor"], (key, .array []) ∉ q.members
  constant : ∀ v, ("$expr", v) ∈ q.members → q = .object [("$expr", .bool false)]

theorem tidy_of_settled {q : Json} (h : ∀ member ∈ q.members, Settled member) : Tidy q where
  operands _ hkey hmember := (h _ hmember).2 hkey rfl
  constant _ hmember := absurd rfl (h _ hmember).1

/-- What is neither a constant nor an operator may be given anything. -/
theorem settled_of_field {member : String × Json}
    (h : member.1 = "$in" ∨ member.1.toList.head? ≠ some '$') : Settled member := by
  have hkey : ∀ op : Operator, member.1 ≠ op.key := by
    intro op heq
    rcases h with hin | hfield
    · rw [hin] at heq
      cases op <;> exact absurd heq (by decide)
    · rw [heq] at hfield
      cases op <;> exact hfield rfl
  refine ⟨hkey .expr, fun hoperator => ?_⟩
  simp only [List.mem_cons, List.not_mem_nil, or_false] at hoperator
  rcases hoperator with hand | hor | hnor
  · exact absurd hand (hkey .and)
  · exact absurd hor (hkey .or)
  · exact absurd hnor (hkey .nor)

/-- The members of an operator are settled if it has operands and theirs are settled. -/
theorem settled_operator {key : String} (hkey : key ≠ "$expr") {qs : List Json} (hqs : qs ≠ [])
    (h : ∀ q ∈ qs, ∀ member ∈ q.members, Settled member) :
    ∀ member ∈ (Json.object [(key, .array qs)]).members, Settled member := by
  rw [Json.members_singleton, Json.members, Json.membersOfItems_eq, List.forall_mem_cons]
  refine ⟨⟨hkey, fun _ hnil => hqs (Json.array.inj hnil)⟩, fun member hmember => ?_⟩
  obtain ⟨q, hq, hmember⟩ := List.mem_flatMap.1 hmember
  exact h q hq member hmember

end Query

/-! ## Filters -/

namespace Filter

/-- Whether all conditions in a filter are free of operators. -/
def OperatorFree (f : Filter) : Prop := ∀ c ∈ f.conditions, c.operatorFree = true

instance (f : Filter) : Decidable f.OperatorFree :=
  inferInstanceAs (Decidable (∀ c ∈ f.conditions, c.operatorFree = true))

theorem operatorFree_parts {fs : List Filter} (h : ∀ c ∈ conditionsOf fs, c.operatorFree = true)
    {f : Filter} (hf : f ∈ fs) : f.OperatorFree := by
  intro c hc
  refine h c ?_
  rw [conditionsOf_eq]
  exact List.mem_flatMap.2 ⟨f, hf, hc⟩

/-- The parts of a joint are its operands. -/
theorem settled_parts {key : String} (hkey : key ≠ "$expr") {fs : List Filter}
    (htwo : 2 ≤ fs.length) (h : ∀ f ∈ fs, ∀ member ∈ f.toQuery.members, Query.Settled member) :
    ∀ member ∈ (Json.object [(key, .array (toQueries fs))]).members, Query.Settled member := by
  rw [toQueries_eq]
  refine Query.settled_operator hkey (fun hnil => ?_) (List.forall_mem_map.2 h)
  rw [List.map_eq_nil_iff.1 hnil] at htwo
  exact absurd htwo (by decide)

/-- The document of a filter that is simplified and no constant has settled members only. -/
theorem Proper.settled {f : Filter} (h : f.Proper) (hfree : f.OperatorFree) :
    ∀ member ∈ f.toQuery.members, Query.Settled member := by
  induction h with
  | «where» htested hmet =>
    intro member hmember
    have hc := hfree _ List.mem_cons_self
    exact Query.settled_of_field (Condition.mem_members_toQuery hc hmember)
  | not hinner hsingle ih =>
    rw [toQuery]
    exact Query.settled_operator (by decide) (List.cons_ne_nil _ _)
      (List.forall_mem_singleton.2 (ih hfree))
  | all htwo hparts hflat ih =>
    rw [toQuery]
    exact settled_parts (by decide) htwo fun f hf => ih f hf (operatorFree_parts hfree hf)
  | any htwo hparts hflat ih =>
    rw [toQuery]
    exact settled_parts (by decide) htwo fun f hf => ih f hf (operatorFree_parts hfree hf)

/-- **The document of a simplified filter is tidy**, if its conditions are free of operators. -/
theorem Normal.tidy {f : Filter} (h : f.Normal) (hfree : f.OperatorFree) :
    Query.Tidy f.toQuery := by
  obtain rfl | rfl | hproper := h
  · exact ⟨fun _ _ hmember => (by cases List.mem_singleton.1 hmember), fun _ _ => rfl⟩
  · exact ⟨fun _ _ => List.not_mem_nil, fun _ hmember => absurd hmember List.not_mem_nil⟩
  · exact Query.tidy_of_settled (hproper.settled hfree)

end Filter

/-! ## What a store is asked -/

/-- The filters that a store is asked with for an ability: the one for an action, which may be
narrowed by a list query or to an id. -/
inductive Ability.Asks (a : Ability) (action : Action) : Filter → Prop where
  | unrestricted : a.Asks action (a.filterFor action)
  | listed (q : ListQuery) : a.Asks action ((a.filterFor action).and q.toFilter)
  | named (id : Json) : a.Asks action ((a.filterFor action).and (.byId id))

theorem Ability.Asks.normal {a : Ability} {action : Action} {f : Filter} (h : a.Asks action f) :
    f.Normal := by
  have hown := a.normal_filterFor action
  cases h with
  | unrestricted => exact hown
  | listed q => exact hown.and (Filter.normal_ofCondition q.condition)
  | named id => exact hown.and (Filter.normal_byId id)

namespace Filter

/-- **Simplified filters stay simplified**: the combinators and the filters of conditions keep to
the normal form, and so do the filters that a store is asked with for an ability, the documents
of which are tidy if their conditions are free of operators. -/
theorem stays_normal :
    (∀ f g : Filter, f.Normal → g.Normal → (f.or g).Normal ∧ (f.and g).Normal) ∧
      (∀ f : Filter, f.Normal → f.negate.Normal ∧ f.negate.negate = f) ∧
      (∀ c : Condition, (ofCondition c).Normal) ∧
      ∀ (a : Ability) (action : Action) (f : Filter), a.Asks action f →
        f.Normal ∧ (f.OperatorFree → Query.Tidy f.toQuery) := by
  refine ⟨fun f g hf hg => ⟨hf.or hg, hf.and hg⟩, fun f hf => ⟨hf.negate, hf.negate_negate⟩,
    normal_ofCondition, ?_⟩
  intro a action f h
  exact ⟨h.normal, h.normal.tidy⟩

/-- The records that may be read after a denial among grants, for one opportunity. -/
def regrantedThere : Filter :=
  (Ability.regranted.filterFor .read).and (ListQuery.forOpportunity "o1").toFilter

theorem stays_normal_regranted :
    (regrantedThere.Normal ∧ (regrantedThere.or (byId (.text "i1"))).Normal ∧
      regrantedThere.negate.negate = regrantedThere) ∧
      regrantedThere.OperatorFree ∧ Query.Tidy regrantedThere.toQuery := by
  obtain ⟨hjoin, hnegate, -, hasked⟩ := stays_normal
  have hfree : regrantedThere.OperatorFree := by decide
  obtain ⟨hnormal, htidy⟩ := hasked Ability.regranted .read regrantedThere (.listed _)
  exact ⟨⟨hnormal, (hjoin _ _ hnormal (normal_byId _)).1, (hnegate _ hnormal).2⟩, hfree,
    htidy hfree⟩

/-- A joint of nothing would be refused. -/
example : ¬ Query.Tidy (any []).toQuery := fun h => h.operands "$or" (by decide) (.head _)

end Filter

end VolunteerAccess
