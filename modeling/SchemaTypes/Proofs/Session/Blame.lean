import SchemaTypes.Proofs.Resolve.Blame
import SchemaTypes.Proofs.Resolve.Founded

set_option autoImplicit false

/-!
# Faults name the right place

The place that a fault names is put together anew wherever parsing goes down into a node, across any
number of references and documents.  As long as the names in every object differ, as they do in
documents that were read from a text, the store has at each of these places just the node that is
parsed there.  So what a fault says of a place is true of the node that is found at it.
-/

namespace SchemaTypes.Session

open Schema (Violates)

/-- If resolving a reference fails because another one has no target, its document is in the store
and its path leads nowhere in it.  If it fails because a schema is malformed, and not because a
fragment is not supported, the place that is named has a node in the store, and this node violates
one of the rules on the shape of schemas or else is the target of a reference that comes to nothing
but itself.  For at each place where a node is parsed below the resolution the store has this very
node, and the schemas that its schema is put together of are read in the same way. -/
theorem faults_name_their_places (session : Session) (hdistinct : session.store.Distinct)
    (r : Reference) (policy : Option NamingPolicy) :
    (∀ text failed, resolveReference r policy session = .error (.unresolvedReference text) failed →
      ∃ missing, text = missing.canonical ∧ session.store.Lacks missing ∧
        session.store.Meets r missing) ∧
    (∀ text reason failed,
      resolveReference r policy session = .error (.malformedSchema text reason) failed →
        (∃ call raw fragment, session.store.Reaches r call ∧
          call.2.stringMember? "$ref" = some raw ∧
          Reference.parse raw call.1.document = .error (.malformedSchema text reason) ∧
          .malformedSchema text reason = Reference.unsupportedFragment raw fragment) ∨
        ∃ blamed node, text = blamed.canonical ∧ session.store.resolve blamed = .ok node ∧
          session.store.Reaches r (blamed, node) ∧
          (Violates node reason ∨
            reason = "reference cycle without a concrete type" ∧
              Unproductive session.surroundings blamed ∧
              ∀ store root config start requests, Session.start store root config = .ok start →
                session = (Request.performAll requests start).2 →
                  session.surroundings.Endless blamed)) ∧
    (∀ location node, session.store.Reaches r (location, node) →
      session.store.resolve location = .ok node ∧
        ∀ members, node = .object members → session.store.ReadsParts location members) ∧
    ∃ log, Traced.resolveReference r policy (session, []) =
        Traced.withLog log (resolveReference r policy session) ∧
      ∀ place node current, .node place node current ∈ log → current = place.document ∧
        session.store.resolve place = .ok node ∧ session.store.Reaches r (place, node) := by
  have hmeets : session.store.Meets r r := Or.inl rfl
  obtain ⟨outcome, ⟨log, htraced, hnoted, hblames⟩, -⟩ :=
    Blaming.resolveWithin session.nestingBound policy r session.current hmeets session [] rfl rfl
      (id : session.Kept → session.Kept)
  obtain ⟨steps, hsteps, -⟩ := resolveReference_traced r policy session
  obtain rfl : resolveReference r policy session = outcome :=
    Traced.withLog_inj (hsteps.symm.trans htraced)
  refine ⟨fun text failed h => ?_, fun text reason failed h => ?_, fun location node hreaches => ?_,
    log, htraced, fun place node current hmem => ?_⟩
  · cases hblames _ failed h with
    | missing meets lacks => exact ⟨_, rfl, lacks, meets⟩
  · generalize hfault : Fault.malformedSchema text reason = fault at h
    cases hblames fault failed h with
    | unsupported reaches written unread =>
      exact Or.inl ⟨_, _, _, reaches, written, unread, rfl⟩
    | malformed reaches violates =>
      cases hfault
      exact Or.inr ⟨_, _, rfl, reaches.located hdistinct, reaches, Or.inl violates⟩
    | endless reaches unproductive endless =>
      cases hfault
      refine Or.inr ⟨_, _, rfl, reaches.located hdistinct, reaches,
        Or.inr ⟨rfl, unproductive, ?_⟩⟩
      rintro store root config start requests hstart rfl
      have hidle := (obeys_idle _).performAll requests start (.of_start hstart)
      exact endless hidle.founded.kept
    | _ => cases hfault
  · have hnode := hreaches.located hdistinct
    refine ⟨hnode, ?_⟩
    rintro members rfl
    exact hdistinct.readsParts hnode
  · obtain ⟨hcurrent, hreaches⟩ := hnoted _ hmem
    exact ⟨hcurrent, hreaches.located hdistinct, hreaches⟩

/-- A schema with a part in another document, where the second of the schemas that all items obey
has properties that are no object. -/
def mislaid : Session :=
  let items := Json.object
    [("allOf", .array [.bool true, .object [("properties", .number (.integer 3))]])]
  let whole := Json.object
    [("properties", .object [("part", .object [("$ref", .string "parts.json#/a~1b")])])]
  ⟨"api.json", ⟨[("api.json", .object [("components", .object [("schemas", .object
      [("Whole", whole)])])]),
    ("parts.json", .object [("a/b", .object [("items", items)])])]⟩, .standard, "api.json",
    Registry.empty⟩

/-- The fault names this schema, and not the one that was asked for. -/
theorem faults_name_their_places_mislaid :
    mislaid.store.Distinct ∧ ∃ failed,
      resolveReference (sampleReference "Whole") none mislaid =
        .error (.malformedSchema "parts.json#/a~1b/items/allOf/1" "`properties` must be an object")
          failed ∧
      ∃ blamed node, "parts.json#/a~1b/items/allOf/1" = blamed.canonical ∧
        mislaid.store.resolve blamed = .ok node ∧
        Violates node "`properties` must be an object" := by
  have hdistinct : mislaid.store.Distinct := by unfold Store.Distinct; decide
  obtain ⟨failed, hfails⟩ : ∃ failed, resolveReference (sampleReference "Whole") none mislaid =
      .error (.malformedSchema "parts.json#/a~1b/items/allOf/1" "`properties` must be an object")
        failed := by
    refine Run.error_of_fault? ?_
    decide +kernel
  refine ⟨hdistinct, failed, hfails, ?_⟩
  obtain ⟨-, hmalformed, -, -⟩ :=
    faults_name_their_places mislaid hdistinct (sampleReference "Whole") none
  rcases hmalformed _ _ failed hfails with ⟨_, raw, fragment, -, -, -, hfragment⟩ |
    ⟨blamed, node, htext, hnode, -, hviolates | ⟨hreason, -⟩⟩
  · have hreason := (Fault.malformedSchema.inj hfragment).2
    have hfirst := congrArg (fun text => text.toList.head?) hreason
    simp [String.toList_append] at hfirst
  · exact ⟨blamed, node, htext, hnode, hviolates⟩
  · exact absurd hreason (by decide)

end SchemaTypes.Session
