import SchemaTypes.Proofs.Resolve.Bookkeeping
import SchemaTypes.Proofs.Resolve.Trace
import SchemaTypes.Proofs.Session.Stability

set_option autoImplicit false

/-!
# The current document

The current document is only looked at where a written reference is read, and that is always below a
reference, whose document has been entered by then.  So it makes no difference to a request for a
reference which document is the current one, and the request leaves it as it is.
-/

namespace SchemaTypes

namespace Run

variable {α β : Type}

/-- An outcome with another current document. -/
def moved (document : String) : EStateM.Result Fault Session α → EStateM.Result Fault Session α
  | .ok value after => .ok value { after with current := document }
  | .error fault after => .error fault { after with current := document }

/-- A step for which the current document does not matter: in another document it comes out the
same, and it stays in that document. -/
def IgnoresDocument (step : Run α) : Prop :=
  ∀ session document,
    step { session with current := document } = moved document (step session)

namespace IgnoresDocument

theorem pure (value : α) : (pure value : Run α).IgnoresDocument := fun _ _ => rfl

theorem throw (fault : Fault) : (throw fault : Run α).IgnoresDocument := fun _ _ => rfl

theorem modifyRegistry (f : Registry → Registry) : (modifyRegistry f).IgnoresDocument :=
  fun _ _ => rfl

theorem bind {step : Run α} {next : α → Run β} (hstep : step.IgnoresDocument)
    (hnext : ∀ value, (next value).IgnoresDocument) : (step >>= next).IgnoresDocument := by
  intro session document
  have hmoved := hstep session document
  cases h : step session with
  | ok value middle =>
    rw [h] at hmoved
    rw [bind_of_ok hmoved, bind_of_ok h]
    exact hnext value middle document
  | error fault middle =>
    rw [h] at hmoved
    rw [bind_of_error hmoved, bind_of_error h]
    rfl

theorem undoOnFault {step : Run α} (h : step.IgnoresDocument) :
    (undoOnFault step).IgnoresDocument := by
  intro session document
  unfold Run.undoOnFault
  simp only [h session document]
  cases step session <;> rfl

/-- What is done in a document of its own does not depend on the one that is left for it. -/
theorem inDocument (document : String) (step : Run α) :
    (inDocument document step).IgnoresDocument := by
  intro session other
  unfold Run.inDocument
  simp only
  cases step { session with current := document } <;> rfl

end IgnoresDocument

/-- A step to which documents do not matter at all is one of these. -/
theorem IsBookkeeping.ignoresDocument {step : Run α} (h : step.IsBookkeeping) :
    step.IgnoresDocument := by
  intro session document
  have hstore := (h.stays session).1
  refine (h session session.store document).trans ?_
  cases hstep : step session with
  | ok value final =>
    rw [after_of_ok hstep] at hstore
    rw [← hstore]
    rfl
  | error fault final =>
    rw [after_of_error hstep] at hstore
    rw [← hstore]
    rfl

/-- Two sessions come to the same: to one value or one fault, and to one registry.  Nothing else of
either of them changes. -/
inductive Alike (session other : Session) :
    EStateM.Result Fault Session α → EStateM.Result Fault Session α → Prop
  | ok (value : α) (registry : Registry) :
      Alike session other (.ok value { session with registry := registry })
        (.ok value { other with registry := registry })
  | error (fault : Fault) (registry : Registry) :
      Alike session other (.error fault { session with registry := registry })
        (.error fault { other with registry := registry })

/-- A step for which the current document does not matter comes to the same in all documents. -/
theorem IgnoresDocument.alike {step : Run α} (h : step.IgnoresDocument)
    (hgrows : step.Obeys Session.Grows) (session : Session) (document : String) :
    Alike session { session with current := document } (step session)
      (step { session with current := document }) := by
  rw [h session document]
  have hafter := (hgrows session).same
  cases hstep : step session with
  | ok value after =>
    rw [after_of_ok hstep] at hafter
    rw [hafter]
    exact .ok value after.registry
  | error fault after =>
    rw [after_of_error hstep] at hafter
    rw [hafter]
    exact .error fault after.registry

end Run

namespace Session

theorem ignoresDocument_readTarget (resolve : Reference → Run TypeExpr) (r : Reference) :
    (readTarget resolve r).IgnoresDocument := by
  intro session document
  unfold readTarget
  simp only
  cases session.store.resolve r with
  | error fault => rfl
  | ok node => exact Run.IgnoresDocument.inDocument r.document _ session document

theorem ignoresDocument_resolveTarget (resolve : Reference → Run TypeExpr)
    (policy : Option NamingPolicy) (r : Reference) :
    (resolveTarget resolve policy r).IgnoresDocument := by
  -- The policy that a new reference is opened with does not depend on the document either.
  have hopened : ∀ chosen, (Run.undoOnFault do
      Run.modifyRegistry (Registry.begin · r.canonical chosen)
      let type ← readTarget resolve r
      materialize r type).IgnoresDocument := fun chosen =>
    .undoOnFault (.bind (.modifyRegistry _) fun _ =>
      .bind (ignoresDocument_readTarget resolve r) fun type =>
        (isBookkeeping_materialize r type).ignoresDocument)
  intro session document
  exact hopened (policy.getD (session.defaultPolicy r)) session document

theorem ignoresDocument_knownOr {step : Run TypeExpr} (r : Reference)
    (h : step.IgnoresDocument) : (knownOr r step).IgnoresDocument := by
  refine (isBookkeeping_known r).ignoresDocument.bind fun found => ?_
  cases found with
  | some type => exact .pure type
  | none => exact h

theorem ignoresDocument_resolveWithin (bound : Nat) (policy : Option NamingPolicy)
    (r : Reference) : (resolveWithin bound policy r).IgnoresDocument := by
  cases bound with
  | zero => exact ignoresDocument_knownOr r (.throw .nestingExhausted)
  | succ bound => exact ignoresDocument_knownOr r (ignoresDocument_resolveTarget _ policy r)

theorem ignoresDocument_resolveReference (r : Reference) (policy : Option NamingPolicy) :
    (resolveReference r policy).IgnoresDocument := fun session document =>
  ignoresDocument_resolveWithin session.nestingBound policy r session document

theorem ignoresDocument_resolveSchema (raw : String) (policy : NamingPolicy) :
    (resolveSchema raw policy).IgnoresDocument := by
  intro session document
  unfold resolveSchema
  simp only
  cases Reference.parse raw session.root with
  | error fault => rfl
  | ok r => exact ignoresDocument_resolveReference r (some policy) session document

theorem performTasks_moved (tasks : List Task) (session : Session) (document : String) :
    Task.performAll tasks { session with current := document } =
      ((Task.performAll tasks session).1,
        { (Task.performAll tasks session).2 with current := document }) := by
  induction tasks generalizing session with
  | nil => rfl
  | cons task rest ih =>
    have htask : task.perform { session with current := document } =
        ((task.perform session).1, { (task.perform session).2 with current := document }) := by
      unfold Task.perform
      cases task.naming with
      | error fault => rfl
      | ok policy =>
        simp only [ignoresDocument_resolveReference task.location (some policy) session document]
        cases resolveReference task.location (some policy) session <;> rfl
    unfold Task.performAll
    rw [htask]
    simp only [ih]

/-- Tasks leave the current document as it is, and come out the same in all documents. -/
theorem generate_alike (tasks : List Task) (session : Session) (document : String) :
    ∃ report registry,
      session.generate tasks = (report, { session with registry := registry }) ∧
        { session with current := document }.generate tasks =
          (report, { session with current := document, registry := registry }) := by
  have hsame := Request.obeys_same.performTasks tasks session
  have hstays : (Task.performAll tasks session).2.current = session.current :=
    congrArg (fun outcome => outcome.2.current) (performTasks_moved tasks session session.current)
  rw [hstays] at hsame
  refine ⟨(session.generate tasks).1, (Task.performAll tasks session).2.registry, ?_, ?_⟩
  · exact congrArg (Prod.mk _) hsame
  · unfold generate
    rw [performTasks_moved]
    exact congrArg (Prod.mk _) (congrArg (fun after => { after with current := document }) hsame)

/-- Two sessions that differ in nothing but the current document come to the same whatever
references are asked for, and each keeps its document, after a fault too.  For below a reference
every node is parsed while its own document is the current one, and every reference that is written
there is read relative to it. -/
theorem references_ignore_the_current_document (session : Session) (document : String) :
    let moved := { session with current := document }
    (∀ (r : Reference) (policy : Option NamingPolicy),
      Run.Alike session moved (resolveReference r policy session)
        (resolveReference r policy moved)) ∧
    (∀ (raw : String) (policy : NamingPolicy),
      Run.Alike session moved (resolveSchema raw policy session)
        (resolveSchema raw policy moved)) ∧
    (∀ generate ∈ [generateComponents, generateOperations, generateAll],
      ∃ report registry, generate session = (report, { session with registry := registry }) ∧
        generate moved = (report, { moved with registry := registry })) ∧
    ∀ (r : Reference) (policy : Option NamingPolicy),
      ∃ log, Traced.resolveReference r policy (session, []) =
          Traced.withLog log (resolveReference r policy session) ∧
        ∀ event ∈ log, event.InPlace := by
  intro moved
  refine ⟨fun r policy => ?_, fun raw policy => ?_, fun generate hgenerate => ?_,
    fun r policy => ?_⟩
  · exact (ignoresDocument_resolveReference r policy).alike
      (fun session => resolveWithin_obeys session.nestingBound policy r session) session document
  · refine (ignoresDocument_resolveSchema raw policy).alike (fun session => ?_) session document
    unfold Run.after resolveSchema
    cases Reference.parse raw session.root with
    | error fault => exact .refl session
    | ok r => exact resolveWithin_obeys session.nestingBound (some policy) r session
  · simp only [List.mem_cons, List.not_mem_nil, or_false] at hgenerate
    rcases hgenerate with rfl | rfl | rfl
    · exact generate_alike session.componentTasks session document
    · exact generate_alike session.operationTasks session document
    · exact generate_alike (session.componentTasks ++ session.operationTasks) session document
  · obtain ⟨log, hlog, hplaces, -⟩ := resolveReference_traced r policy session
    exact ⟨log, hlog, hplaces⟩

/-- A schema with a part in another document, where it leads on, and then a part in its own. -/
def abroad : Session :=
  let parts := Json.object
    [("far", .object [("$ref", .string "other.json#/Far")]), ("near", sampleLink "Near")]
  let schemas := Json.object
    [("Whole", .object [("properties", parts)]), ("Near", .object [("type", .string "string")])]
  let other := Json.object
    [("Far", .object [("$ref", .string "#/Farther")]),
      ("Farther", .object [("type", .string "null")])]
  ⟨"api.json", ⟨[("api.json", .object [("components", .object [("schemas", schemas)])]),
    ("other.json", other)]⟩, .standard, "api.json", Registry.empty⟩

/-- From either document the parts are found where they are written, and each node is parsed with its
own document as the current one. -/
theorem references_ignore_the_current_document_abroad :
    let moved := { abroad with current := "other.json" }
    let whole := sampleReference "Whole"
    Run.Alike abroad moved (resolveReference whole none abroad)
      (resolveReference whole none moved) ∧
    ∃ log,
      Traced.resolveReference whole none (moved, []) =
        Traced.withLog log (resolveReference whole none moved) ∧
      visits log = [(whole, "api.json"), ((whole.child "properties").child "far", "api.json"),
        (⟨"other.json", ["Far"]⟩, "other.json"), (⟨"other.json", ["Farther"]⟩, "other.json"),
        ((whole.child "properties").child "near", "api.json"),
        (sampleReference "Near", "api.json")] ∧
      ∀ event ∈ log, event.InPlace := by
  intro moved whole
  obtain ⟨halike, -, -, -⟩ := references_ignore_the_current_document abroad "other.json"
  obtain ⟨-, -, -, htraced⟩ := references_ignore_the_current_document moved moved.current
  obtain ⟨log, hlog, hplaces⟩ := htraced whole none
  have hlogged := congrArg Traced.logOf hlog
  rw [Traced.logOf_withLog] at hlogged
  refine ⟨halike whole none, log, hlog, ?_, hplaces⟩
  rw [← hlogged]
  decide +kernel

end Session

end SchemaTypes
