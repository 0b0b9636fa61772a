import SchemaTypes.Proofs.Operation.Tasks
import SchemaTypes.Proofs.Session.Documents

set_option autoImplicit false

/-!
# What generation reports

A task that is carried out is reported once: as an artifact if its reference is resolved, as a
failure if it is not or if there was nothing to resolve.  Whichever it is, the next task is carried
out in the session that this one leaves behind.  Since the tasks enumerate what the document asks
for, nothing that is asked for is missing from the report, nothing is in it twice, and artifacts and
failures stand in the order of the document.
-/

namespace SchemaTypes

namespace Session

/-- The report on tasks that are carried out one after the other, and the session in the end. -/
inductive Reported : Session → List Task → Report → Session → Prop
  | nil (session : Session) : Reported session [] ⟨[], []⟩ session
  /-- The reference of the first task is resolved. -/
  | artifact {session between final : Session} {task : Task} {rest : List Task}
      {policy : NamingPolicy} {type : TypeExpr} {report : Report}
      (naming : task.naming = .ok policy)
      (resolves : resolveReference task.location (some policy) session = .ok type between)
      (others : Reported between rest report final) :
      Reported session (task :: rest)
        ⟨⟨task.location, task.purpose, type⟩ :: report.artifacts, report.failures⟩ final
  /-- The reference of the first task is not resolved. -/
  | failure {session between final : Session} {task : Task} {rest : List Task}
      {policy : NamingPolicy} {fault : Fault} {report : Report}
      (naming : task.naming = .ok policy)
      (fails : resolveReference task.location (some policy) session = .error fault between)
      (others : Reported between rest report final) :
      Reported session (task :: rest)
        ⟨report.artifacts, ⟨task.location, fault⟩ :: report.failures⟩ final
  /-- The first task has nothing to resolve. -/
  | unlocated {session final : Session} {task : Task} {rest : List Task} {fault : Fault}
      {report : Report} (naming : task.naming = .error fault)
      (others : Reported session rest report final) :
      Reported session (task :: rest)
        ⟨report.artifacts, ⟨task.location, fault⟩ :: report.failures⟩ final

/-- In one go tasks are reported as one part after the other is. -/
theorem generate_append (first second : List Task) (session : Session) :
    session.generate (first ++ second) =
      let reported := session.generate first
      let others := reported.2.generate second
      (⟨reported.1.artifacts ++ others.1.artifacts, reported.1.failures ++ others.1.failures⟩,
        others.2) := by
  unfold generate
  rw [Task.performAll_append]
  simp [Report.ofOutcomes]

/-- The outcome of the first task comes before what the other ones are reported with. -/
theorem generate_cons {task : Task} {session between : Session} {outcome : Outcome}
    (h : task.perform session = (outcome, between)) (rest : List Task) :
    session.generate (task :: rest) =
      (⟨outcome.artifact?.toList ++ (between.generate rest).1.artifacts,
          outcome.failure?.toList ++ (between.generate rest).1.failures⟩,
        (between.generate rest).2) := by
  have hall : Task.performAll (task :: rest) session =
      (outcome :: (Task.performAll rest between).1, (Task.performAll rest between).2) := by
    rw [Task.performAll, h]
  simp only [generate, hall, Report.ofOutcomes, List.filterMap_cons]
  cases outcome.artifact? <;> cases outcome.failure? <;> rfl

/-- However tasks come out, all of them are reported. -/
theorem reported_generate (tasks : List Task) (session : Session) :
    Reported session tasks (session.generate tasks).1 (session.generate tasks).2 := by
  induction tasks generalizing session with
  | nil => exact .nil session
  | cons task rest ih =>
    cases hnaming : task.naming with
    | error fault =>
      have hperform : task.perform session =
          (⟨task.purpose, task.location, .error fault⟩, session) := by
        simp only [Task.perform, hnaming]
      rw [generate_cons hperform]
      exact .unlocated hnaming (ih session)
    | ok policy =>
      cases hresolve : resolveReference task.location (some policy) session with
      | ok type between =>
        have hperform : task.perform session =
            (⟨task.purpose, task.location, .ok type⟩, between) := by
          simp only [Task.perform, hnaming, hresolve]
        rw [generate_cons hperform]
        exact .artifact hnaming hresolve (ih between)
      | error fault between =>
        have hperform : task.perform session =
            (⟨task.purpose, task.location, .error fault⟩, between) := by
          simp only [Task.perform, hnaming, hresolve]
        rw [generate_cons hperform]
        exact .failure hnaming hresolve (ih between)

/-- In every session the components and the operations are reported on without loss or repetition,
in order, and whatever fails: each entry of `components/schemas` once, at its place; each part of
each operation that has a schema, or whose schema was looked for and not found, once, at the schema
or at the operation.  The report on everything is the one on the components, followed by the one on
the operations in the session that the components leave behind; of that only the registry is
another. -/
theorem generation_reports_everything_once (session : Session) :
    (∃ tasks, Enumerates (Task.IsComponent session.store session.root) tasks ∧
      Reported session tasks session.generateComponents.1 session.generateComponents.2) ∧
    (∃ tasks, Enumerates (Task.IsOperational session.store session.config session.root) tasks ∧
      Reported session tasks session.generateOperations.1 session.generateOperations.2) ∧
    let components := session.generateComponents
    let operations := components.2.generateOperations
    session.generateAll =
      (⟨components.1.artifacts ++ operations.1.artifacts,
        components.1.failures ++ operations.1.failures⟩, operations.2) ∧
    components.2 = { session with registry := components.2.registry } := by
  refine ⟨?_, ?_, ?_⟩
  · exact ⟨session.componentTasks, Task.enumerates_components session.store session.root,
      reported_generate _ session⟩
  · exact ⟨session.operationTasks,
      Task.enumerates_operations session.store session.config session.root,
      reported_generate _ session⟩
  · intro components operations
    obtain ⟨report, registry, hgenerate, -⟩ :=
      generate_alike session.componentTasks session session.current
    have hbetween : components.2 = { session with registry := registry } :=
      congrArg Prod.snd hgenerate
    have hsame : components.2 = { session with registry := components.2.registry } := by
      rw [hbetween]
    have htasks : components.2.operationTasks = session.operationTasks := by
      rw [hsame]
      rfl
    refine ⟨?_, hsame⟩
    change session.generate (session.componentTasks ++ session.operationTasks) = _
    rw [generate_append, ← htasks]
    rfl

/-- An operation with a parameter that leads nowhere, a response with a schema and one without. -/
def halfLocated : Session :=
  let responses := Json.object
    [("200", .object [("schema", .object [("type", .string "string")])]), ("204", .object [])]
  let operation := Json.object
    [("parameters", .array [.object [("$ref", .string "#/components/parameters/Missing")]]),
      ("responses", responses)]
  let paths := Json.object [("/pets", .object [("get", operation)])]
  ⟨"api.json", ⟨[("api.json", .object [("paths", paths)])]⟩, .standard, "api.json",
    Registry.empty⟩

/-- The parameter is reported at the operation, and the response after it at its schema. -/
example :
    let place : Reference := ⟨"api.json", ["paths", "/pets", "get"]⟩
    let report := halfLocated.generateAll.1
    report.failures.map Failure.location = [place] ∧
      report.artifacts.map Artifact.location =
        [((place.child "responses").child "200").child "schema"] := by
  decide +kernel

end Session

end SchemaTypes
