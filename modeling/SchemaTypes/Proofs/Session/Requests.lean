import SchemaTypes.Generate
import SchemaTypes.Proofs.Resolve.Growth

set_option autoImplicit false

/-!
# Requests to a session

What can be asked of a session, one request after the other.  A request gives types and leaves a
session behind, also if it fails or if some of its tasks fail.  What resolutions, strings of a
format and changes of the document obey, whole runs of requests obey; and what holds of the types
that resolutions and elaborations give holds of all types that such a run gives.
-/

namespace SchemaTypes

namespace Run

/-- The value of a step, if it gives one. -/
def given {α : Type} (step : Run α) (session : Session) : List α :=
  match step session with
  | .ok value _ => [value]
  | .error _ _ => []

theorem mem_given {α : Type} {step : Run α} {session : Session} {value : α} :
    value ∈ step.given session ↔ step session = .ok value (step.after session) := by
  unfold given after
  cases step session with
  | ok other final => simp [eq_comm]
  | error fault final => simp

/-- A step that gives nothing fails. -/
theorem error_of_given_isEmpty {α : Type} {step : Run α} {session : Session}
    (h : (step.given session).isEmpty = true) :
    ∃ fault final, step session = .error fault final := by
  unfold given at h
  cases hstep : step session with
  | ok value final =>
    rw [hstep] at h
    cases h
  | error fault final => exact ⟨fault, final, rfl⟩

/-- The fault of a step, if it fails. -/
def fault? {α : Type} (step : Run α) (session : Session) : Option Fault :=
  match step session with
  | .ok _ _ => none
  | .error fault _ => some fault

theorem error_of_fault? {α : Type} {step : Run α} {session : Session} {fault : Fault}
    (h : step.fault? session = some fault) : ∃ final, step session = .error fault final := by
  unfold fault? at h
  cases hstep : step session with
  | ok value final =>
    rw [hstep] at h
    cases h
  | error other final =>
    rw [hstep] at h
    cases h
    exact ⟨final, rfl⟩

/-- A step that gives something succeeds. -/
theorem ok_of_given_isEmpty {α : Type} {step : Run α} {session : Session}
    (h : (step.given session).isEmpty = false) :
    ∃ value final, step session = .ok value final := by
  unfold given at h
  cases hstep : step session with
  | ok value final => exact ⟨value, final, rfl⟩
  | error fault final =>
    rw [hstep] at h
    cases h

end Run

/-- A task gives a type only if the reference that it asks for is resolved to it. -/
theorem Task.perform_ok (task : Task) {session : Session} {type : TypeExpr}
    (h : (task.perform session).1.result = .ok type) : ∃ policy,
      Session.resolveReference task.location policy session =
        .ok type (task.perform session).2 := by
  unfold Task.perform at h ⊢
  split at h
  · cases h
  · rename_i policy _
    split at h
    · rename_i hresolve
      cases h
      exact ⟨some policy, hresolve⟩
    · cases h

/-- A task whose schema was found fails only if the reference that it asks for does. -/
theorem Task.perform_error (task : Task) {session : Session} {policy : NamingPolicy}
    {fault : Fault} (hnaming : task.naming = .ok policy)
    (h : (task.perform session).1.result = .error fault) :
    Session.resolveReference (task.perform session).1.location (some policy) session =
      .error fault (task.perform session).2 := by
  unfold Task.perform at h ⊢
  simp only [hnaming] at h ⊢
  cases hresolve : Session.resolveReference task.location (some policy) session with
  | ok type after =>
    simp only [hresolve] at h
    cases h
  | error other after =>
    simp only [hresolve] at h ⊢
    cases h
    rfl

/-- What can be asked of a session. -/
inductive Request where
  /-- The type of a reference, with or without a naming policy. -/
  | resolve (r : Reference) (policy : Option NamingPolicy)
  /-- The type of a written reference, relative to the root document. -/
  | resolveWritten (raw : String) (policy : NamingPolicy)
  /-- The type of a node, which need not be part of any document. -/
  | parse (node : Json) (location : Reference)
  | components
  | operations
  | everything
  /-- Another document becomes the current one: it is entered, or it is gone back to when one that
  was entered is left. -/
  | move (document : String)

namespace Request

/-- The types that a report hands over, and the session after it. -/
def reported (generated : Report × Session) : List TypeExpr × Session :=
  (generated.1.artifacts.map Artifact.type, generated.2)

/-- Answers a request: the types that it gives, and the session after it. -/
def perform : Request → Session → List TypeExpr × Session
  | resolve r policy, session =>
    let step := Session.resolveReference r policy
    (step.given session, step.after session)
  | resolveWritten raw policy, session =>
    let step := Session.resolveSchema raw policy
    (step.given session, step.after session)
  | parse node location, session =>
    let step := Session.parseNode node location
    (step.given session, step.after session)
  | components, session => reported session.generateComponents
  | operations, session => reported session.generateOperations
  | everything, session => reported session.generateAll
  | move document, session => ([], { session with current := document })

/-- Answers requests in order: all types that they give, and the session in the end. -/
def performAll : List Request → Session → List TypeExpr × Session
  | [], session => ([], session)
  | request :: rest, session =>
    let (types, between) := request.perform session
    let (more, after) := performAll rest between
    (types ++ more, after)

/-! ## Sessions after requests -/

/-- What has to be shown of a relation between sessions in order to know that requests obey it. -/
structure Obeys (R : Session → Session → Prop) : Prop where
  refl : ∀ session, R session session
  trans : ∀ ⦃a b c⦄, R a b → R b c → R a c
  text : ∀ format, (Schema.textType format).Obeys R
  resolved : ∀ bound policy r, (Session.resolveWithin bound policy r).Obeys R
  moved : ∀ session document, R session { session with current := document }

namespace Obeys

variable {R : Session → Session → Prop}

theorem elaborate (rules : Obeys R) (bound : Nat) (schema : Schema) :
    (schema.elaborate (Session.resolveWithin bound none)).Obeys R :=
  Schema.Obeys.elaborate ⟨rules.refl, rules.trans, rules.text, rules.resolved bound none⟩ schema

theorem resolveReference (rules : Obeys R) (r : Reference) (policy : Option NamingPolicy) :
    (Session.resolveReference r policy).Obeys R := fun session =>
  rules.resolved session.nestingBound policy r session

theorem resolveSchema (rules : Obeys R) (raw : String) (policy : NamingPolicy) :
    (Session.resolveSchema raw policy).Obeys R := by
  intro session
  unfold Run.after Session.resolveSchema
  cases hparse : Reference.parse raw session.root with
  | error fault => exact rules.refl session
  | ok r => exact rules.resolveReference r (some policy) session

theorem parseNode (rules : Obeys R) (node : Json) (location : Reference) :
    (Session.parseNode node location).Obeys R := fun session =>
  rules.elaborate session.nestingBound (Schema.ofJson location node) session

theorem performTask (rules : Obeys R) (task : Task) (session : Session) :
    R session (task.perform session).2 := by
  unfold Task.perform
  split
  · exact rules.refl session
  · rename_i policy _
    have hafter := rules.resolveReference task.location (some policy) session
    split
    · rename_i hresolve
      rw [Run.after_of_ok hresolve] at hafter
      exact hafter
    · rename_i hresolve
      rw [Run.after_of_error hresolve] at hafter
      exact hafter

theorem performTasks (rules : Obeys R) (tasks : List Task) (session : Session) :
    R session (Task.performAll tasks session).2 := by
  induction tasks generalizing session with
  | nil => exact rules.refl session
  | cons task rest ih => exact rules.trans (rules.performTask task session) (ih _)

theorem perform (rules : Obeys R) (request : Request) (session : Session) :
    R session (request.perform session).2 := by
  cases request with
  | resolve r policy => exact rules.resolveReference r policy session
  | resolveWritten raw policy => exact rules.resolveSchema raw policy session
  | parse node location => exact rules.parseNode node location session
  | components => exact rules.performTasks _ session
  | operations => exact rules.performTasks _ session
  | everything => exact rules.performTasks _ session
  | move document => exact rules.moved session document

/-- The session after a run of requests. -/
theorem performAll (rules : Obeys R) (requests : List Request) (session : Session) :
    R session (Request.performAll requests session).2 := by
  induction requests generalizing session with
  | nil => exact rules.refl session
  | cons request rest ih => exact rules.trans (rules.perform request session) (ih _)

end Obeys

/-- However requests come out, the registry grows. -/
theorem obeys_grows : Obeys fun before after => before.registry.Grows after.registry where
  refl _ := .refl _
  trans _ _ _ first second := first.trans second
  text format session := (Session.textType_obeys format session).registry
  resolved bound policy r session := (Session.resolveWithin_obeys bound policy r session).registry
  moved _ _ := .refl _

/-! ## Types that requests give -/

/-- What has to be shown of resolutions in order to know a property of all types that references are
resolved to: sessions keep an invariant, and the property is not lost as the registry grows. -/
structure Answers (Inv : Session → Prop) (Has : Session → TypeExpr → Prop) : Prop where
  obeys : Obeys fun before after => Inv before → Inv after
  mono : ∀ {before after type}, before.registry.Grows after.registry → Has before type →
    Has after type
  resolved : ∀ {bound policy r session type final},
    Session.resolveWithin bound policy r session = .ok type final → Inv session → Has final type

namespace Answers

variable {Inv : Session → Prop} {Has : Session → TypeExpr → Prop}

theorem resolveSchema (rules : Answers Inv Has) {raw : String} {policy : NamingPolicy}
    {session final : Session} {type : TypeExpr}
    (h : Session.resolveSchema raw policy session = .ok type final) (hinv : Inv session) :
    Has final type := by
  unfold Session.resolveSchema at h
  split at h
  · cases h
  · exact rules.resolved h hinv

/-- The type that a task gives has the property after all tasks. -/
theorem performTasks (rules : Answers Inv Has) (tasks : List Task) {session : Session}
    (hinv : Inv session) :
    ∀ outcome ∈ (Task.performAll tasks session).1, ∀ type, outcome.result = .ok type →
      Has (Task.performAll tasks session).2 type := by
  induction tasks generalizing session with
  | nil => exact fun outcome hmem => absurd hmem List.not_mem_nil
  | cons task rest ih =>
    intro outcome hmem type htype
    have hinv' := rules.obeys.performTask task session hinv
    rcases List.mem_cons.mp hmem with rfl | hrest
    · have hgrows := obeys_grows.performTasks rest (task.perform session).2
      obtain ⟨policy, hresolve⟩ := task.perform_ok htype
      exact rules.mono hgrows (rules.resolved hresolve hinv)
    · exact ih hinv' outcome hrest type htype

theorem generate (rules : Answers Inv Has) (tasks : List Task) {session : Session}
    (hinv : Inv session) : ∀ type ∈ (reported (session.generate tasks)).1,
      Has (reported (session.generate tasks)).2 type := by
  intro type hmem
  obtain ⟨artifact, hartifact, rfl⟩ := List.mem_map.mp hmem
  obtain ⟨outcome, houtcome, hsome⟩ := List.mem_filterMap.mp hartifact
  unfold Outcome.artifact? at hsome
  split at hsome
  · rename_i hresult
    cases hsome
    exact rules.performTasks tasks hinv outcome houtcome _ hresult
  · cases hsome

/-- All types that a request gives are such types, unless it is one to parse a node. -/
theorem perform (rules : Answers Inv Has) {request : Request} {session : Session}
    (hrequest : ∀ node location, request ≠ .parse node location) (hinv : Inv session) :
    ∀ type ∈ (request.perform session).1, Has (request.perform session).2 type := by
  intro type hmem
  cases request with
  | resolve r policy => exact rules.resolved (Run.mem_given.mp hmem) hinv
  | resolveWritten raw policy => exact rules.resolveSchema (Run.mem_given.mp hmem) hinv
  | parse node location => exact absurd rfl (hrequest node location)
  | components => exact rules.generate _ hinv type hmem
  | operations => exact rules.generate _ hinv type hmem
  | everything => exact rules.generate _ hinv type hmem
  | move document => exact absurd hmem List.not_mem_nil

end Answers

/-- What has to be shown besides in order to know the property of all types that requests give. -/
structure Gives (Inv : Session → Prop) (Has : Session → TypeExpr → Prop) : Prop
    extends Answers Inv Has where
  elaborated : ∀ {bound session type final} {schema : Schema}, schema.Plain →
    schema.elaborate (Session.resolveWithin bound none) session = .ok type final → Inv session →
      Has final type

namespace Gives

variable {Inv : Session → Prop} {Has : Session → TypeExpr → Prop}

theorem perform (rules : Gives Inv Has) (request : Request) {session : Session}
    (hinv : Inv session) : ∀ type ∈ (request.perform session).1,
      Has (request.perform session).2 type := by
  cases request with
  | parse node location =>
    intro type hmem
    exact rules.elaborated (Schema.ofJson_plain location node) (Run.mem_given.mp hmem) hinv
  | _ => exact rules.toAnswers.perform (fun _ _ h => by cases h) hinv

/-- All types that a run of requests gives have the property in the end. -/
theorem performAll (rules : Gives Inv Has) (requests : List Request) {session : Session}
    (hinv : Inv session) : ∀ type ∈ (Request.performAll requests session).1,
      Has (Request.performAll requests session).2 type := by
  induction requests generalizing session with
  | nil => exact fun type hmem => absurd hmem List.not_mem_nil
  | cons request rest ih =>
    intro type hmem
    rcases List.mem_append.mp hmem with hfirst | hrest
    · have hgrows := obeys_grows.performAll rest (request.perform session).2
      exact rules.mono hgrows (rules.perform request hinv type hfirst)
    · exact ih (rules.obeys.perform request session hinv) type hrest

end Gives

end Request

namespace Session

/-- A session starts with nothing generated. -/
theorem registry_of_start {store : Store} {root : String} {config : Config} {session : Session}
    (h : start store root config = .ok session) : session.registry = Registry.empty := by
  unfold start at h
  split at h
  · cases h
  · split at h
    · cases h
      rfl
    · cases h

/-- A session starts at a document of the store that is given by its canonical identifier. -/
theorem start_of_canonical {store : Store} {root : String} {config : Config}
    (hroot : DocumentId.canonical? root = some root) (hcontains : store.contains root = true) :
    start store root config = .ok ⟨root, store, config, root, Registry.empty⟩ := by
  unfold start
  rw [hroot]
  simp only [hcontains, if_true]

/-! ## Between requests -/

/-- Nothing is open. -/
def Quiet (session : Session) : Prop := session.registry.pending = []

theorem Quiet.of_empty {session : Session} (h : session.registry = Registry.empty) :
    session.Quiet := by
  unfold Quiet
  rw [h]
  rfl

/-- What is opened in between is closed again. -/
theorem Quiet.of_grows {before after : Session} (h : before.Quiet)
    (hgrows : before.registry.Grows after.registry) : after.Quiet := by
  have hopen := hgrows.pending
  rw [h] at hopen
  exact hopen.eq_nil

theorem Quiet.of_resolved {bound : Nat} {policy : Option NamingPolicy} {r : Reference}
    {session final : Session} {answer : TypeExpr} (h : session.Quiet)
    (hresolve : resolveWithin bound policy r session = .ok answer final) : final.Quiet := by
  have hgrows := (resolveWithin_obeys bound policy r session).registry
  rw [Run.after_of_ok hresolve] at hgrows
  exact h.of_grows hgrows

/-- A property that resolutions keep if they succeed, and that does not mind the helpers that a
fault leaves behind, is kept by all requests. -/
theorem obeys_of_invariant {P : Session → Prop}
    (restores : ∀ {before after}, before.Restores after → P before → P after)
    (resolved : ∀ {bound policy r session answer final},
      resolveWithin bound policy r session = .ok answer final → P session → P final)
    (moved : ∀ session document, P session → P { session with current := document }) :
    Request.Obeys fun before after => P before → P after where
  refl _ h := h
  trans _ _ _ first second h := second (first h)
  text format session h := restores (textType_restores format session) h
  resolved bound policy r session h := by
    cases hresolve : resolveWithin bound policy r session with
    | ok answer final =>
      rw [Run.after_of_ok hresolve]
      exact resolved hresolve h
    | error fault final =>
      rw [Run.after_of_error hresolve]
      exact restores (resolveWithin_error hresolve) h
  moved := moved

/-- A property that only has to survive faults as long as nothing is open is kept together with
that. -/
theorem obeys_of_kept {P : Session → Prop}
    (restores : ∀ {before after}, before.Quiet → before.Restores after → P before → P after)
    (resolved : ∀ {bound policy r session answer final},
      resolveWithin bound policy r session = .ok answer final → P session → P final)
    (moved : ∀ session document, P session → P { session with current := document }) :
    Request.Obeys fun before after => before.Quiet ∧ P before → after.Quiet ∧ P after :=
  obeys_of_invariant
    (fun hrestores h =>
      ⟨h.1.of_grows hrestores.registry.grows, restores h.1 hrestores h.2⟩)
    (fun hresolve h => ⟨h.1.of_resolved hresolve, resolved hresolve h.2⟩)
    fun session document h => ⟨h.1, moved session document h.2⟩

/-! ## A small session -/

/-- The place of a component of the sample document. -/
def sampleReference (name : String) : Reference := ⟨"api.json", ["components", "schemas", name]⟩

/-- A written reference to a component of the sample document, as a schema. -/
def sampleLink (name : String) : Json :=
  .object [("$ref", .string ("#/components/schemas/" ++ name))]

/-- A chain of nodes that carry labels, a pair of chains, and a schema one part of which is
missing. -/
def sampleComponents : Json :=
  .object
    [("Pair", .object [("properties",
        .object [("left", sampleLink "Node"), ("right", sampleLink "Node")])]),
      ("Node", .object [("properties",
        .object [("next", sampleLink "Node"), ("label", sampleLink "Label")])]),
      ("Label", .object [("type", .string "string")]),
      ("Broken", .object [("allOf", .array [sampleLink "Pair", sampleLink "Missing"])])]

/-- The store of the sample document. -/
def sampleStore : Store :=
  ⟨[("api.json", .object [("components", .object [("schemas", sampleComponents)])])]⟩

/-- A fresh session at the sample document. -/
def sample : Session := ⟨"api.json", sampleStore, .standard, "api.json", Registry.empty⟩

/-- The sample session after everything has been generated. -/
def generatedSample : Session := (Request.performAll [.everything] sample).2

theorem start_sample : start sampleStore "api.json" .standard = .ok sample :=
  start_of_canonical (by decide +kernel) rfl

end Session

end SchemaTypes
