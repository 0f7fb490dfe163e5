import VolunteerAccess.Action
import VolunteerAccess.Resource
import VolunteerAccess.Role

/-!
# Failures

Why a request was not carried out. Denials and rejected transitions are answers
of the policy; all other failures say that there is no answer, and are never
turned into one.

- `ConfigFailure`, `BuildFailure`, `Denial`, `InvalidTransition`,
  `ValidationFailure`, `StoreFailure`: the causes, each with its message.
- `Failure`: any of them, with the status code and the short reason that are
  shown outside.
-/

namespace VolunteerAccess

/-- Why a file could not be read. -/
inductive FileProblem where
  | notFound
  | isDirectory
  | notDirectory
  /-- A part of the path, or all of it, is longer than a file system allows. -/
  | nameTooLong
  /-- The path has a null character in it. -/
  | nullInName
  /-- For another reason, such as a text that is not well-formed. -/
  | unreadable (detail : String)
deriving DecidableEq, Repr, Inhabited

namespace FileProblem

/-- The message of the operating system. -/
def message : FileProblem → String
  | .notFound => "No such file or directory (os error 2)"
  | .isDirectory => "Is a directory (os error 21)"
  | .notDirectory => "Not a directory (os error 20)"
  | .nameTooLong => "File name too long (os error 36)"
  | .nullInName => "file name contained an unexpected NUL byte"
  | .unreadable detail => detail

end FileProblem

/-- Why there are no settings or no fixtures. -/
inductive ConfigFailure where
  /-- A document could not be found, read or decoded. -/
  | load (detail : String)
  /-- A document was decoded but breaks a rule. -/
  | invalid (detail : String)
  /-- A setting that must be there is blank. -/
  | missing (field : String)
  /-- A fixture file could not be read. -/
  | file (problem : FileProblem)
  /-- A list of settings would have more items than memory can hold. -/
  | exhausted
deriving DecidableEq, Inhabited

namespace ConfigFailure

def message : ConfigFailure → String
  | .load detail => "Failed to load configuration: " ++ detail
  | .invalid detail => "Invalid configuration: " ++ detail
  | .missing field => "Missing required configuration: " ++ field
  | .file problem => "IO error: " ++ problem.message
  | .exhausted => "Configuration exceeds memory"

end ConfigFailure

/-- A look-up of owned opportunities failed. -/
structure LookupFailure where
  collection : String
  reason : String
deriving DecidableEq, Inhabited

def LookupFailure.message (f : LookupFailure) : String :=
  f.collection ++ " lookup failed: " ++ f.reason

/-- Why there is no ability. -/
inductive BuildFailure where
  /-- A look-up that the rules of a role need failed. -/
  | lookup (role : Role) (cause : LookupFailure)
  /-- A rule tests a field that its resource does not have. -/
  | unknownField (subject : Resource) (field : String)
  /-- A rule is for another resource than its builder. -/
  | subjectMismatch (expected found : Resource)
  /-- No builder is registered for the resource. -/
  | noBuilder (subject : Resource)
deriving DecidableEq, Inhabited

namespace BuildFailure

def message : BuildFailure → String
  | .lookup role cause =>
    "ownership lookup for role '" ++ role.name ++ "' failed: " ++ cause.message
  | .unknownField subject field =>
    "rule for '" ++ subject.name ++ "' references unknown field '" ++ field ++ "'"
  | .subjectMismatch expected found =>
    "builder for '" ++ expected.name ++ "' produced a rule for '" ++ found.name ++ "'"
  | .noBuilder subject => "no rule builder registered for '" ++ subject.name ++ "'"

end BuildFailure

/-- How a denial is shown outside. -/
inductive Presentation where
  /-- No record would be allowed. -/
  | forbidden
  /-- Some records would be; whether this one exists is not told. -/
  | notFound
deriving DecidableEq, Repr, Inhabited

def Presentation.name : Presentation → String
  | .forbidden => "forbidden"
  | .notFound => "not found"

/-- The policy does not allow the action. -/
structure Denial where
  action : Action
  subject : Resource
  presentation : Presentation
  reason : String
deriving DecidableEq, Inhabited

namespace Denial

/-- No record would be allowed to the session. -/
def forbidden (action : Action) (subject : Resource) : Denial :=
  { action, subject, presentation := .forbidden,
    reason := "no role held by the session may " ++ action.name ++ " " ++ subject.name }

/-- The record does not exist or is hidden. -/
def notFound (action : Action) (subject : Resource) : Denial :=
  { action, subject, presentation := .notFound,
    reason := "record is not visible to this session" }

/-- The record is known to the session, but the action is not allowed. -/
def forbiddenBecause (action : Action) (subject : Resource) (reason : String) : Denial :=
  { action, subject, presentation := .forbidden, reason }

def message (d : Denial) : String :=
  d.action.name ++ " on '" ++ d.subject.name ++ "' is " ++ d.presentation.name ++ ": " ++ d.reason

end Denial

/-- A transition table does not permit a change of status. -/
structure InvalidTransition where
  subject : Resource
  source : String
  target : String
deriving DecidableEq, Inhabited

def InvalidTransition.message (t : InvalidTransition) : String :=
  "invalid status transition '" ++ t.source ++ "' -> '" ++ t.target ++ "' on '" ++
    t.subject.name ++ "'"

/-- The data of a request breaks a rule of the record. -/
inductive ValidationFailure where
  | missingField (name : String)
  | unknownStatus (text : String)
  | emptyMessage
deriving DecidableEq, Inhabited

def ValidationFailure.message : ValidationFailure → String
  | .missingField name => "missing required field: " ++ name
  | .unknownStatus text => "unknown status value: " ++ text
  | .emptyMessage => "message body must not be empty"

/-- An operation of the store failed. -/
structure StoreFailure where
  operation : String
  reason : String
deriving DecidableEq, Inhabited

def StoreFailure.message (f : StoreFailure) : String :=
  "store operation '" ++ f.operation ++ "' failed: " ++ f.reason

/-! ## Any failure -/

/-- Why a request was not carried out. -/
inductive Failure where
  | config (cause : ConfigFailure)
  | build (cause : BuildFailure)
  | denied (cause : Denial)
  | transition (cause : InvalidTransition)
  | validation (cause : ValidationFailure)
  | store (cause : StoreFailure)
deriving DecidableEq, Inhabited

namespace Failure

def message : Failure → String
  | .config c => "Configuration error: " ++ c.message
  | .build c => "Rule build error: " ++ c.message
  | .denied c => "Permission denied: " ++ c.message
  | .transition c => "Invalid transition: " ++ c.message
  | .validation c => "Validation error: " ++ c.message
  | .store c => "Store error: " ++ c.message

/-- The status code that the failure is answered with. -/
def statusCode : Failure → Nat
  | .denied c =>
    match c.presentation with
    | .forbidden => 403
    | .notFound => 404
  | .transition _ => 403
  | .validation _ => 422
  | .config _ | .build _ | .store _ => 500

/-- The short reason that the failure is answered with. -/
def reason : Failure → String
  | .denied c => c.presentation.name
  | .transition _ => "invalid status transition"
  | .validation _ => "validation failed"
  | .config _ => "configuration error"
  | .build _ => "ability unavailable"
  | .store _ => "store unavailable"

/-- Whether the failure is an answer of the policy. -/
def isPolicyDecision : Failure → Bool
  | .denied _ | .transition _ => true
  | .config _ | .build _ | .validation _ | .store _ => false

end Failure

end VolunteerAccess
