import Mathlib.Data.List.Find
import VolunteerAccess.Interest
import VolunteerAccess.Proofs.Compilation.Outcomes
import VolunteerAccess.Proofs.Dict.Insertion

/-!
# Records and their JSON forms

A rule sees a record through its fields. An interest has a view of its own, which
hides the messages, and a second one through its JSON form, which shows them. The
check of rules keeps conditions to the fields of the resource, and there both
views agree.

- `Target.Agrees`: two views of one resource that have the same fields as far as
  conditions may name them.
- `Ability.can_congr`: an ability that passed the check **cannot tell such views apart**.
- `Interest.agrees_record`: the JSON form of an interest agrees with the interest.
- `Compiler.can_record`: so every compiled ability answers for both alike.
-/

namespace VolunteerAccess

/-- Two views of records that differ at most in fields that no condition may name. -/
structure Target.Agrees (t t' : Target) : Prop where
  resource : t.resource = t'.resource
  field : ∀ name ∈ t.resource.fields, t.field name = t'.field name

/-! ## Abilities -/

section
variable {t t' : Target}

theorem Condition.holds_congr {c : Condition}
    (h : ∀ name ∈ c.fields, t.field name = t'.field name) : c.holds t = c.holds t' := by
  have htests : ∀ test ∈ c.tests.entries, passes t test = passes t' test := by
    intro test htest
    unfold passes
    rw [h test.1 (List.mem_map_of_mem htest)]
  unfold holds
  rw [Bool.eq_iff_iff, List.all_eq_true, List.all_eq_true]
  refine forall₂_congr fun test htest => ?_
  rw [htests test htest]

/-- A condition that names only fields of the resource is not met by one view alone. -/
theorem Rule.holds_congr {r : Rule} (hr : r.WellFormed t.resource) (h : t.Agrees t') :
    r.holds t = r.holds t' := by
  unfold holds
  cases hc : r.conditions with
  | none => rfl
  | some c =>
    refine Condition.holds_congr fun name hname => h.field name ?_
    exact List.contains_iff_mem.1 (hr.hasField c hc name hname)

/-- **An ability of well-formed rules cannot tell agreeing views apart.** -/
theorem Ability.can_congr {a : Ability} (ha : ∀ r ∈ a.rules, r.WellFormed t.resource)
    (h : t.Agrees t') (action : Action) : a.can action t = a.can action t' := by
  have hfind : a.rules.reverse.find? (fun r => r.appliesTo t.resource action && r.holds t) =
      a.rules.reverse.find? (fun r => r.appliesTo t'.resource action && r.holds t') := by
    refine List.find?_congr fun r hr => ?_
    rw [← h.resource, Rule.holds_congr (ha r (List.mem_reverse.1 hr)) h]
  unfold can
  rw [hfind]

end

/-! ## Records -/

/-- The record of an object has the members of the object. -/
theorem Record.ofJson?_mkObject (subject : Resource) (ms : List (String × Json)) :
    Record.ofJson? subject (.mkObject ms) = some { subject, fields := .ofList ms } := by
  show some ({ subject, fields := .ofList (Dict.ofList ms).entries } : Record) = _
  rw [Dict.ofList_entries]

namespace Interest

/-- The members of the JSON form. -/
def members (i : Interest) : List (String × Json) :=
  [("_id", .text i.id), ("person", .text i.person), ("opportunity", .text i.opportunity),
    ("status", i.status.encode), ("messages", .array (i.messages.map Message.encode)),
    ("dateAdded", .ofNat i.dateAdded.toNat)]

/-- The record that the JSON form of an interest stands for. -/
def record (i : Interest) (subject : Resource) : Record :=
  { subject, fields := .ofList i.members }

theorem ofJson?_encode (i : Interest) (subject : Resource) :
    Record.ofJson? subject i.encode = some (i.record subject) :=
  Record.ofJson?_mkObject subject i.members

/-- Every field that conditions may name is set, and is a member of the JSON form. -/
theorem field_mem_members (i : Interest) {name : String} (h : name ∈ Resource.interest.fields) :
    ∃ v, i.field name = some v ∧ v.isNull = false ∧ (name, v) ∈ i.members := by
  simp only [Resource.fields, List.mem_cons, List.not_mem_nil, or_false] at h
  rcases h with rfl | rfl | rfl | rfl | rfl
  all_goals exact ⟨_, rfl, rfl, by simp [members, Status.encode]⟩

/-- **The JSON form of an interest agrees with the interest.** -/
theorem agrees_record (i : Interest) : (i.record .interest).target.Agrees i.target where
  resource := rfl
  field name hname := by
    obtain ⟨v, hfield, hnull, hmem⟩ := i.field_mem_members hname
    have hnodup : (i.members.map Prod.fst).Nodup := by simp [members]
    show ((Dict.ofList i.members).get? name).filter (fun v => !v.isNull) = i.field name
    rw [(Dict.get?_ofList_iff hnodup).2 hmem, hfield]
    simp [hnull]

end Interest

namespace Compiler

/-- A compiled ability answers for an interest as for its JSON form. -/
theorem can_record {c : Compiler} {session : Session} {a : Ability}
    (h : c.compile session .interest = .ok a) (i : Interest) (action : Action) :
    a.can action (i.record .interest).target = a.can action i.target :=
  Ability.can_congr (wellFormed_of_compile h) i.agrees_record action

end Compiler

end VolunteerAccess
