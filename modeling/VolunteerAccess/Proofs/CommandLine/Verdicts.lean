import VolunteerAccess.CommandLine.Program
import VolunteerAccess.Proofs.Ability.Records
import VolunteerAccess.Proofs.Document.Encoding
import VolunteerAccess.Proofs.Policy.Matrix
import VolunteerAccess.Proofs.Service.Answers

/-!
# What the program reports and what the service does

The program answers whether a session may do something with a stored interest. It
judges the JSON form of the interest, rule by rule; the service searches its store
with a filter. On one set of fixtures both come to the same answer.

- `Command.settle`: the answer to a command once the fixtures are loaded;
  `Program.answer_eq_settle`: it is the answer of the program.
- `Command.Reports`, `Command.reports_can_iff`: what the program says about a record, and the
  ability, the record and the verdict behind it.
- `Command.reports_iff_service`: **what the program reports as granted is what the service
  carries out**, and no granted action is reported as denied for all records.
-/

namespace VolunteerAccess

/-! ## Answers of the program -/

/-- The answer to a command over loaded fixtures. -/
def Command.settle (concurrent : Bool) (g : Guard) (f : Fixtures) (c : Command) :
    Except CommandFailure Finding :=
  c.question >>= fun q => q.answer (m := Id) concurrent g (.ok f)

/-- With settings and fixtures the program gives this answer. -/
theorem Program.answer_eq_settle {h : Host Id} {arguments : Arguments} {settings : Settings}
    {g : Guard} {f : Fixtures} (hsettings : Settings.load h arguments.config = .ok settings)
    (hguard : settings.guard = .ok g)
    (hfixtures : Program.fixtures h arguments.fixtures settings.fixtures = .ok f) :
    Program.answer h arguments = arguments.command.settle settings.concurrentBuilders g f := by
  unfold Program.answer Command.settle
  rw [hsettings]
  simp only [bind, hguard]
  rw [hfixtures]
  cases arguments.command.question <;> rfl

namespace Question

variable {concurrent : Bool} {f : Fixtures} {who id : String} {resource : Resource}
  {action : Action}

/-- The program judges by the ability that the standard policy gives to the session. -/
theorem ability_eq_ok_iff {a : Ability} : ability concurrent f who resource = .ok a ↔
    ∃ session, f.session? who = some session ∧
      (Policy.standard concurrent ((Store.ofFixtures f).ownership .none)).compile session
        resource = .ok a := by
  unfold ability
  rw [bind_eq_ok_iff]
  refine exists_congr fun session => ?_
  rw [elim_eq_ok_iff]
  exact and_congr_right fun _ => mapError_eq_ok_iff

/-- A verdict is that of the session's ability on the JSON form of the stored interest. -/
theorem checkRecord_eq_ok_iff {finding : Finding} :
    checkRecord concurrent f who resource action id = .ok finding ↔
      ∃ a i, ability concurrent f who resource = .ok a ∧
        (Store.ofFixtures f).findById resource id = some i ∧
        finding = .verdict resource action id (a.can action (i.record resource).target)
          (a.hasGrant action) := by
  unfold checkRecord
  rw [bind_eq_ok_iff]
  refine exists_congr fun a => ?_
  cases (Store.ofFixtures f).findById resource id with
  | none => simp
  | some i =>
    simp only [Interest.ofJson?_encode, Option.some.injEq, exists_and_left, exists_eq_left']
    refine and_congr_right fun _ => ?_
    show Except.ok _ = Except.ok finding ↔ _
    rw [Except.ok.injEq, eq_comm]

end Question

/-! ## Reports -/

/-- The program reports whether an action is granted, and whether it is denied for all records. -/
def Command.Reports (concurrent : Bool) (g : Guard) (f : Fixtures) (c : Command)
    (granted categorical : Bool) : Prop :=
  ∃ finding, c.settle concurrent g f = .ok finding ∧
    finding.encode.get? "granted" = some (.bool granted) ∧
    finding.encode.get? "categorical" = some (.bool categorical)

theorem Finding.get?_encode_verdict (resource : Resource) (action : Action) (id : String)
    (granted grantable : Bool) :
    (verdict resource action id granted grantable).encode.get? "granted" = some (.bool granted) ∧
      (verdict resource action id granted grantable).encode.get? "categorical" =
        some (.bool !grantable) := by
  unfold encode
  exact ⟨Json.get?_mkObject (by simp) (by simp), Json.get?_mkObject (by simp) (by simp)⟩

theorem Action.ofText?_name (action : Action) : Action.ofText? action.name = some action := by
  cases action <;> decide +kernel

namespace Command

variable {concurrent : Bool} {g : Guard} {f : Fixtures} {who id resourceText actionText : String}
  {resource : Resource} {action : Action}

theorem question_can_eq_ok_iff {q : Question} :
    (Command.can who resourceText actionText id).question = .ok q ↔
      ∃ resource action, Resource.ofText? resourceText = some resource ∧
        Action.ofText? actionText = some action ∧ q = .check who resource action id := by
  show ((Resource.ofText? resourceText).elim
      (Except.error (CommandFailure.unknownResource resourceText)) .ok >>= fun resource =>
    (Action.ofText? actionText).elim
      (Except.error (CommandFailure.unknownAction actionText)) .ok >>= fun action =>
    Except.ok (Question.check who resource action id)) = .ok q ↔ _
  simp only [bind_eq_ok_iff, elim_eq_ok_iff, Except.ok.injEq, exists_and_left,
    eq_comm (a := q)]

/-- What is reported about a record is the verdict of the session's ability. -/
theorem reports_can_iff {granted categorical : Bool} :
    (Command.can who resourceText actionText id).Reports concurrent g f granted categorical ↔
      ∃ resource action a i, Resource.ofText? resourceText = some resource ∧
        Action.ofText? actionText = some action ∧
        Question.ability concurrent f who resource = .ok a ∧
        (Store.ofFixtures f).findById resource id = some i ∧
        a.can action (i.record resource).target = granted ∧ a.hasGrant action = !categorical := by
  unfold Reports settle
  constructor
  · rintro ⟨finding, hsettle, hgranted, hcategorical⟩
    obtain ⟨q, hq, hfinding⟩ := bind_eq_ok_iff.1 hsettle
    obtain ⟨resource, action, hresource, haction, rfl⟩ := question_can_eq_ok_iff.1 hq
    replace hfinding : Question.checkRecord concurrent f who resource action id = .ok finding :=
      hfinding
    obtain ⟨a, i, ha, hi, rfl⟩ := Question.checkRecord_eq_ok_iff.1 hfinding
    refine ⟨resource, action, a, i, hresource, haction, ha, hi, ?_, ?_⟩
    · rw [(Finding.get?_encode_verdict _ _ _ _ _).1] at hgranted
      simpa using hgranted
    · rw [(Finding.get?_encode_verdict _ _ _ _ _).2] at hcategorical
      simpa using hcategorical
  · rintro ⟨resource, action, a, i, hresource, haction, ha, hi, rfl, hgrant⟩
    refine ⟨_, bind_eq_ok_iff.2 ⟨_, question_can_eq_ok_iff.2 ⟨_, _, hresource, haction, rfl⟩,
      Question.checkRecord_eq_ok_iff.2 ⟨a, i, ha, hi, rfl⟩⟩, ?_, ?_⟩
    · exact (Finding.get?_encode_verdict _ _ _ _ _).1
    · rw [(Finding.get?_encode_verdict _ _ _ _ _).2, hgrant, Bool.not_not]

/-- A stored interest is reported on as the session's ability says. -/
theorem reports_interest {a : Ability} {i : Interest}
    (ha : Question.ability concurrent f who .interest = .ok a)
    (hi : (Store.ofFixtures f).findById .interest id = some i) (action : Action) :
    (Command.can who "interest" action.name id).Reports concurrent g f (a.can action i.target)
      (!a.hasGrant action) := by
  obtain ⟨session, -, hcompile⟩ := Question.ability_eq_ok_iff.1 ha
  refine reports_can_iff.2 ⟨.interest, action, a, i, rfl, action.ofText?_name, ha, hi, ?_, ?_⟩
  · exact Compiler.can_record hcompile i action
  · rw [Bool.not_not]

/-- A granted action is not reported as denied for all records. -/
theorem categorical_of_granted {categorical : Bool}
    (h : (Command.can who resourceText actionText id).Reports concurrent g f true categorical) :
    categorical = false := by
  obtain ⟨resource, action, a, i, -, -, ha, -, hcan, hgrant⟩ := reports_can_iff.1 h
  obtain ⟨session, -, hcompile⟩ := Question.ability_eq_ok_iff.1 ha
  have hresource : (i.record resource).target.resource = a.subject :=
    (Compiler.subject_of_compile hcompile).symm
  rw [Ability.hasGrant_of_can hresource hcan] at hgrant
  simpa using hgrant.symm

/-- **What the program reports as granted is what the service carries out.** An ability answers
for the JSON form of an interest as for the interest itself. So the program, which checks the
former, reports reading, deleting or listing a stored interest as granted if and only if the
service, over the same fixtures, shows it, deletes it or has it in the list of everything; and
it never reports a granted action as denied for all records. -/
theorem reports_iff_service :
    (∀ (c : Compiler) (session : Session) (a : Ability),
      c.compile session .interest = .ok a → ∀ i : Interest, ∃ r : Record,
        Record.ofJson? .interest i.encode = some r ∧
          ∀ action, a.can action r.target = a.can action i.target) ∧
    (∀ (f : Fixtures) (who id : String) (i : Interest) (call : Call),
      f.session? who = some call.session → (Store.ofFixtures f).findById .interest id = some i →
      call.outages = .none →
      ∀ (concurrent concurrent' : Bool) (g g' : Guard),
        ∃ granted categorical : Action → Bool,
          (∀ action, (Command.can who "interest" action.name id).Reports concurrent g f
            (granted action) (categorical action)) ∧
          (granted .read = true ↔ ∃ x, ((Service.standard concurrent' g').handle call (.get id)
            (.ofFixtures f)).answer = .ok (.interest x)) ∧
          (granted .delete = true ↔ ((Service.standard concurrent' g').handle call (.delete id)
            (.ofFixtures f)).answer = .ok .done) ∧
          (granted .list = true ↔ ∃ found, ((Service.standard concurrent' g').handle call
            (.list .unrestricted) (.ofFixtures f)).answer = .ok (.interests found) ∧
              i ∈ found)) ∧
    (∀ (f : Fixtures) (concurrent : Bool) (g : Guard) (who resourceText actionText id : String)
      (categorical : Bool), (Command.can who resourceText actionText id).Reports concurrent g f
        true categorical → categorical = false) := by
  refine ⟨fun c session a hcompile i => ?_, ?_, fun _ _ _ _ _ _ _ _ h => categorical_of_granted h⟩
  · exact ⟨_, i.ofJson?_encode .interest, fun action => Compiler.can_record hcompile i action⟩
  intro f who id i call hwho hi houtages concurrent concurrent' g g'
  have hs := Store.keyed_ofFixtures f
  have hcompile (concurrent : Bool) :=
    Policy.compile_standard concurrent (.ofFixtures f) call.session .interest
  generalize ({ subject := .interest, rules := _ } : Ability) = a at hcompile
  have hability : (Service.standard concurrent' g').ability call (.ofFixtures f) = .ok a := by
    rw [Service.ability_eq_ok_iff, houtages]
    exact hcompile concurrent'
  have hworks (op : StoreOperation) : call.outages.operation op = none := by
    rw [houtages]
    rfl
  refine ⟨fun action => a.can action i.target, fun action => !a.hasGrant action, ?_, ?_, ?_, ?_⟩
  · have ha := Question.ability_eq_ok_iff.2 ⟨call.session, hwho, hcompile concurrent⟩
    exact fun action => reports_interest ha hi action
  · exact (Service.shown_iff_can hs hability (hworks .findOne) hi).symm
  · exact (Service.removed_iff_can hs hability (hworks .deleteOne) hi).symm
  · exact (Service.listed_iff_can hability (hworks .query) hi).symm

/-- An interest of one of two people. -/
def benched : Interest :=
  { id := "i1", person := "p2", opportunity := "o1", status := .interested, messages := [],
    dateAdded := 5 }

def bench : Fixtures :=
  { Fixtures.empty with
    interests := [benched]
    sessions := .ofList [("vera", .ofPerson "p2" [.volunteer] []),
      ("otto", .ofPerson "p3" [.volunteer] [])] }

/-- A request of one of the two. -/
def onBench (person : String) : Call :=
  { session := .ofPerson person [.volunteer] [], now := 7, outages := .none }

/-- Whose interest it is may delete it, and the other one may not, although each may delete some. -/
theorem reports_iff_service_bench :
    (∃ granted categorical : Action → Bool,
      (∀ action, (Command.can "vera" "interest" action.name "i1").Reports true .standard bench
        (granted action) (categorical action)) ∧
      (granted .read = true ↔ ∃ x, ((Service.standard false .standard).handle (onBench "p2")
        (.get "i1") (.ofFixtures bench)).answer = .ok (.interest x)) ∧
      (granted .delete = true ↔ ((Service.standard false .standard).handle (onBench "p2")
        (.delete "i1") (.ofFixtures bench)).answer = .ok .done) ∧
      (granted .list = true ↔ ∃ found, ((Service.standard false .standard).handle (onBench "p2")
        (.list .unrestricted) (.ofFixtures bench)).answer = .ok (.interests found) ∧
          benched ∈ found)) ∧
    (Command.can "vera" "interest" "delete" "i1").Reports true .standard bench true false ∧
    ((Service.standard false .standard).handle (onBench "p2") (.delete "i1")
      (.ofFixtures bench)).answer = .ok .done ∧
    (Command.can "otto" "interest" "delete" "i1").Reports true .standard bench false false ∧
    ((Service.standard false .standard).handle (onBench "p3") (.delete "i1")
      (.ofFixtures bench)).answer = .error (.denied (.notFound .delete .interest)) := by
  obtain ⟨-, hservice, -⟩ := reports_iff_service
  have hvolunteer (who person : String)
      (h : bench.session? who = some (.ofPerson person [.volunteer] [])) :
      Question.ability true bench who .interest =
        .ok { subject := .interest, rules := (Policy.volunteerRules person).rules } :=
    Question.ability_eq_ok_iff.2 ⟨_, h, Policy.compile_standard true _ _ .interest⟩
  have hagree := hservice bench "vera" "i1" benched (onBench "p2") rfl rfl rfl true false
    .standard .standard
  exact ⟨hagree,
    reports_interest (i := benched) (hvolunteer "vera" "p2" rfl) rfl .delete, rfl,
    reports_interest (i := benched) (hvolunteer "otto" "p3" rfl) rfl .delete, rfl⟩

end Command

end VolunteerAccess
