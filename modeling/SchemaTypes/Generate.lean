import SchemaTypes.Operation.Basic
import SchemaTypes.Resolve

set_option autoImplicit false

/-!
# Generation

Generation resolves the schemas that a root document asks for: every entry of `components/schemas`,
and what its operations ask for.  Each request is a task; the tasks are carried out one after the
other in one session, and each has exactly one outcome.  A task that fails stops no other.
-/

namespace SchemaTypes

/-- What a schema is generated for. -/
inductive Purpose where
  /-- An entry of `components/schemas`. -/
  | component (name : String)
  /-- A part of an operation. -/
  | operation (name : String) (part : OperationPart)
  deriving DecidableEq, Repr, Inhabited

/-- A schema to generate. -/
structure Task where
  purpose : Purpose
  /-- Where the schema stands; if it was not found, where it was asked for. -/
  location : Reference
  /-- How its declaration is named, or why the schema was not found. -/
  naming : Except Fault NamingPolicy

/-- What came of a task. -/
structure Outcome where
  purpose : Purpose
  location : Reference
  result : Except Fault TypeExpr

/-- A type that was generated. -/
structure Artifact where
  location : Reference
  purpose : Purpose
  type : TypeExpr
  deriving Repr, Inhabited

/-- A schema that could not be generated. -/
structure Failure where
  location : Reference
  fault : Fault
  deriving Repr, Inhabited

namespace Outcome

/-- The type generated. -/
def artifact? (outcome : Outcome) : Option Artifact :=
  match outcome.result with
  | .ok type => some ⟨outcome.location, outcome.purpose, type⟩
  | .error _ => none

/-- The fault met. -/
def failure? (outcome : Outcome) : Option Failure :=
  match outcome.result with
  | .ok _ => none
  | .error fault => some ⟨outcome.location, fault⟩

end Outcome

/-- What generation came to; both lists are in the order of the tasks. -/
structure Report where
  artifacts : List Artifact
  failures : List Failure
  deriving Repr, Inhabited

namespace Report

/-- The report on a list of outcomes. -/
def ofOutcomes (outcomes : List Outcome) : Report :=
  ⟨outcomes.filterMap Outcome.artifact?, outcomes.filterMap Outcome.failure?⟩

/-- Whether nothing failed. -/
def isComplete (report : Report) : Bool := report.failures.isEmpty

/-- The first type generated at a place, given in canonical form. -/
def artifact? (report : Report) (canonical : String) : Option Artifact :=
  report.artifacts.find? fun artifact => artifact.location.canonical == canonical

end Report

namespace Task

/-- The entries of `components/schemas` in a document. -/
def components (store : Store) (document : String) : List Task :=
  let schemas := ((Reference.root document).child "components").child "schemas"
  match store.resolve schemas with
  | .ok (.object members) =>
    members.map fun entry => ⟨.component entry.1, schemas.child entry.1, .ok .component⟩
  | _ => []

/-- How the declaration of a part of an operation is named: what lies in a reusable component is
named after that. -/
def policyOf (operation : Operation) (part : OperationPart) (suffix : String)
    (place : Reference) : NamingPolicy :=
  if NamingPolicy.isShared place then .shared suffix
  else .operation operation.name part suffix

/-- The task of what an operation asks for. -/
def ofRequest (config : Config) (operation : Operation) (request : OperationRequest) : Task :=
  let purpose := Purpose.operation operation.name request.part
  match request.place with
  | .ok place =>
    ⟨purpose, place, .ok (policyOf operation request.part config.schemaSuffix place)⟩
  | .error fault => ⟨purpose, operation.place, .error fault⟩

/-- What the operations of a document ask for. -/
def operations (store : Store) (config : Config) (document : String) : List Task :=
  (Operation.ofDocument store document).flatMap fun operation =>
    (operation.requests store config).map (ofRequest config operation)

/-- Carries out a task.  The session goes on after a fault. -/
def perform (task : Task) (session : Session) : Outcome × Session :=
  match task.naming with
  | .error fault => (⟨task.purpose, task.location, .error fault⟩, session)
  | .ok policy =>
    match Session.resolveReference task.location (some policy) session with
    | .ok type after => (⟨task.purpose, task.location, .ok type⟩, after)
    | .error fault after => (⟨task.purpose, task.location, .error fault⟩, after)

/-- Carries out tasks in order. -/
def performAll : List Task → Session → List Outcome × Session
  | [], session => ([], session)
  | task :: rest, session =>
    let (outcome, session) := task.perform session
    let (outcomes, session) := performAll rest session
    (outcome :: outcomes, session)

theorem performAll_append (first second : List Task) (session : Session) :
    performAll (first ++ second) session =
      let (outcomes, between) := performAll first session
      let (more, after) := performAll second between
      (outcomes ++ more, after) := by
  induction first generalizing session with
  | nil => rfl
  | cons task rest ih => simp [performAll, ih]

end Task

namespace Session

/-- The tasks of the components of the root document. -/
def componentTasks (session : Session) : List Task := Task.components session.store session.root

/-- The tasks of the operations of the root document. -/
def operationTasks (session : Session) : List Task :=
  Task.operations session.store session.config session.root

/-- Carries out tasks and reports. -/
def generate (tasks : List Task) (session : Session) : Report × Session :=
  let (outcomes, session) := Task.performAll tasks session
  (Report.ofOutcomes outcomes, session)

/-- Generates the components of the root document. -/
def generateComponents (session : Session) : Report × Session :=
  session.generate session.componentTasks

/-- Generates what the operations of the root document ask for. -/
def generateOperations (session : Session) : Report × Session :=
  session.generate session.operationTasks

/-- Generates the components, then what the operations ask for. -/
def generateAll (session : Session) : Report × Session :=
  session.generate (session.componentTasks ++ session.operationTasks)

end Session

end SchemaTypes
