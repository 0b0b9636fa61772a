import SchemaTypes.Proofs.Registry.Memory
import SchemaTypes.Proofs.Schema.Parsing
import SchemaTypes.Proofs.Session.Requests

set_option autoImplicit false

/-!
# What happens while references are resolved

`Traced` steps do what steps of a session do and note, in a log, what cannot be seen from outside:
which targets are read, which nodes are parsed and in which current document, and what written
references are read as.  A node is parsed here as soon as it is come to.  `Follows` says that a
traced step gives what a step of the session gives, and what its log then looks like: nodes are
parsed in their own document, and a step that succeeds has read every target just once that is
remembered afterwards and was not before.
-/

namespace SchemaTypes

/-! ## Steps that keep a log -/

/-- What is noted. -/
inductive Event where
  /-- The target of a reference is read. -/
  | target (r : Reference)
  /-- A node that stands at a location is parsed, in a current document. -/
  | node (location : Reference) (node : Json) (current : String)
  /-- The reference that is written at a node is read. -/
  | link (location : Reference) (written : String) (read : Except Fault Reference)

/-- A step of a session that keeps a log. -/
abbrev Traced (α : Type) := EStateM Fault (Session × List Event) α

namespace Traced

variable {α β : Type}

/-- The outcome of a step, with a log. -/
def withLog (log : List Event) :
    EStateM.Result Fault Session α → EStateM.Result Fault (Session × List Event) α
  | .ok value after => .ok value (after, log)
  | .error fault after => .error fault (after, log)

/-- The log of an outcome. -/
def logOf : EStateM.Result Fault (Session × List Event) α → List Event
  | .ok _ (_, log) => log
  | .error _ (_, log) => log

theorem logOf_withLog (log : List Event) (outcome : EStateM.Result Fault Session α) :
    logOf (withLog log outcome) = log := by
  cases outcome <;> rfl

/-- A step of which nothing is noted. -/
def silently (step : Run α) : Traced α := fun (session, log) => withLog log (step session)

section Silently

variable {step : Run α} {session final : Session} {value : α} {fault : Fault}

theorem silently_of_ok (h : step session = .ok value final) (log : List Event) :
    silently step (session, log) = .ok value (final, log) := by
  simp only [silently, h, withLog]

theorem silently_of_error (h : step session = .error fault final) (log : List Event) :
    silently step (session, log) = .error fault (final, log) := by
  simp only [silently, h, withLog]

end Silently

/-- Notes what happens. -/
def note (event : Session → Event) : Traced Unit := fun (session, log) =>
  .ok () (session, log ++ [event session])

/-- Runs a step with another current document, and restores the document afterwards. -/
def inDocument (document : String) (step : Traced α) : Traced α := fun (session, log) =>
  match step ({ session with current := document }, log) with
  | .ok value (after, log) => .ok value ({ after with current := session.current }, log)
  | .error fault (after, log) => .error fault ({ after with current := session.current }, log)

/-- Runs a step and, after a fault, rolls the registry back to where it was before. -/
def undoOnFault (step : Traced α) : Traced α := fun (session, log) =>
  match step (session, log) with
  | .ok value after => .ok value after
  | .error fault (after, log) =>
    .error fault ({ after with registry := after.registry.rollback session.registry.mark }, log)

/-- The answer to a question of a node. -/
def answer (resolve : Reference → Traced TypeExpr) (location : Reference) :
    Schema.Question → Traced TypeExpr
  | .malformed place reason => throw (.malformedSchema place.canonical reason)
  | .reference written => do
    note fun session => .link location written (session.reference written)
    let r ← silently (Schema.readReference written)
    resolve r
  | .text format => silently (Schema.textType format)

/-- Parses the node at a location; all nodes in it are noted. -/
def parse (resolve : Reference → Traced TypeExpr) (location : Reference) (node : Json) :
    Traced TypeExpr :=
  Schema.parse (fun place node => note fun session => .node place node session.current)
    (answer resolve) location node

/-- Parses the node that a reference names, in the reference's document. -/
def readTarget (resolve : Reference → Traced TypeExpr) (r : Reference) : Traced TypeExpr :=
  fun (session, log) =>
    let noted := log ++ [.target r]
    match session.store.resolve r with
    | .error fault => .error fault (session, noted)
    | .ok node => inDocument r.document (parse resolve r node) (session, noted)

/-- Opens a reference, reads its target and closes it; undone if that fails. -/
def resolveTarget (resolve : Reference → Traced TypeExpr) (policy : Option NamingPolicy)
    (r : Reference) : Traced TypeExpr :=
  undoOnFault do
    let session ← silently get
    silently
      (Run.modifyRegistry (Registry.begin · r.canonical (policy.getD (session.defaultPolicy r))))
    let type ← readTarget resolve r
    silently (Session.materialize r type)

/-- What is already known of a reference, or else what a step finds out. -/
def knownOr (r : Reference) (step : Traced TypeExpr) : Traced TypeExpr := do
  match ← silently (Session.known r) with
  | some type => return type
  | none => step

/-- Resolves a reference; references may nest `bound` deep. -/
def resolveWithin : Nat → Option NamingPolicy → Reference → Traced TypeExpr
  | 0, _, r => knownOr r (throw .nestingExhausted)
  | bound + 1, policy, r => knownOr r (resolveTarget (resolveWithin bound none) policy r)

/-- Resolves a reference. -/
def resolveReference (r : Reference) (policy : Option NamingPolicy) : Traced TypeExpr :=
  fun (session, log) => resolveWithin session.nestingBound policy r (session, log)

/-- The type of a node that stands at a location. -/
def parseNode (node : Json) (location : Reference) : Traced TypeExpr := fun (session, log) =>
  parse (resolveWithin session.nestingBound none) location node (session, log)

end Traced

/-! ## What a log says -/

/-- The references of which the targets are read, in order. -/
def targets (log : List Event) : List Reference :=
  log.filterMap fun
    | .target r => some r
    | _ => none

/-- Where nodes are parsed, and in which current document, in order. -/
def visits (log : List Event) : List (Reference × String) :=
  log.filterMap fun
    | .node location _ current => some (location, current)
    | _ => none

theorem targets_append (log more : List Event) :
    targets (log ++ more) = targets log ++ targets more :=
  List.filterMap_append

/-- Nodes are parsed in their own document, and written references are relative to it. -/
def Event.InPlace : Event → Prop
  | target _ => True
  | node location _ current => current = location.document
  | link location written read => read = Reference.parse written location.document

/-- What the log of a step says if the step is taken in a document. -/
structure Explains (document : String) {α : Type} (session : Session) (log : List Event)
    (step : Run α) : Prop where
  grows : session.Grows (step.after session)
  inPlace : session.current = document → ∀ event ∈ log, event.InPlace
  readOnce : ∀ value final, step session = .ok value final →
    session.registry.ReadOnce (targets log) final.registry

/-- Nothing has to be noted where neither a declaration nor an inlined type is added. -/
theorem Explains.nothing {document : String} {α : Type} {session : Session} {step : Run α}
    (grows : session.Grows (step.after session))
    (same : ∀ value final, step session = .ok value final →
      final.registry.models = session.registry.models ∧
        final.registry.inlined = session.registry.inlined) :
    Explains document session [] step where
  grows := grows
  inPlace _ _ hmem := absurd hmem List.not_mem_nil
  readOnce value final hstep := by
    obtain ⟨hmodels, hinlined⟩ := same value final hstep
    exact .nil hmodels hinlined

/-- A traced step gives what a step of a session gives, and its log explains that. -/
def Follows (document : String) (α : Type) (traced : Traced α) (step : Run α) : Prop :=
  ∀ session log, ∃ more,
    traced (session, log) = Traced.withLog (log ++ more) (step session) ∧
      Explains document session more step

namespace Follows

variable {document : String} {α β : Type}

/-- Steps that leave declarations and inlined types as they are need not be noted. -/
theorem silently {step : Run α} (h : step.Obeys Session.Restores) :
    Follows document α (Traced.silently step) step := by
  intro session log
  have hafter := h session
  refine ⟨[], by rw [List.append_nil]; rfl, .nothing hafter.grows fun value final hstep => ?_⟩
  rw [Run.after_of_ok hstep] at hafter
  exact ⟨hafter.registry.models, hafter.registry.inlined⟩

theorem pure (value : α) : Follows document α (Pure.pure value) (Pure.pure value) :=
  silently (Run.Obeys.pure Session.Restores.refl value)

theorem throw (fault : Fault) :
    Follows document α (throw fault) (throw fault) :=
  silently (Run.Obeys.throw Session.Restores.refl fault)

theorem bind {traced : Traced α} {step : Run α} {tracedNext : α → Traced β} {next : α → Run β}
    (hstep : Follows document α traced step)
    (hnext : ∀ value, Follows document β (tracedNext value) (next value)) :
    Follows document β (traced >>= tracedNext) (step >>= next) := by
  intro session log
  obtain ⟨first, hfirst, hexplains⟩ := hstep session log
  cases h : step session with
  | error fault middle =>
    rw [h] at hfirst
    refine ⟨first, ?_, ?_, hexplains.inPlace, ?_⟩
    · rw [Run.bind_of_error hfirst, Run.bind_of_error h]
      rfl
    · rw [Run.after_bind_of_error h, ← Run.after_of_error h]
      exact hexplains.grows
    · intro value final hok
      rw [Run.bind_of_error h] at hok
      cases hok
  | ok value middle =>
    rw [h] at hfirst
    obtain ⟨second, hsecond, hexplainsNext⟩ := hnext value middle (log ++ first)
    have hgrows := hexplains.grows
    rw [Run.after_of_ok h] at hgrows
    refine ⟨first ++ second, ?_, ?_, ?_, ?_⟩
    · rw [Run.bind_of_ok hfirst, Run.bind_of_ok h, hsecond, List.append_assoc]
    · rw [Run.after_bind_of_ok h]
      exact hgrows.trans hexplainsNext.grows
    · intro hcurrent event hmem
      have hmiddle : middle.current = document := by
        rw [hgrows.same]
        exact hcurrent
      rcases List.mem_append.mp hmem with hbefore | hafter
      · exact hexplains.inPlace hcurrent event hbefore
      · exact hexplainsNext.inPlace hmiddle event hafter
    · intro result final hok
      rw [Run.bind_of_ok h] at hok
      have hlast := hexplainsNext.grows
      rw [Run.after_of_ok hok] at hlast
      rw [targets_append]
      exact (hexplains.readOnce value middle h).trans
        (hexplainsNext.readOnce result final hok) hgrows.registry hlast.registry

/-- An event that is in place, and is no target, may be noted before a step. -/
theorem note {event : Session → Event} {traced : Traced α} {step : Run α}
    (htarget : ∀ session, targets [event session] = [])
    (hplace : ∀ session, session.current = document → (event session).InPlace)
    (h : Follows document α traced step) :
    Follows document α (Traced.note event >>= fun _ => traced) step := by
  intro session log
  obtain ⟨more, hmore, hexplains⟩ := h session (log ++ [event session])
  refine ⟨event session :: more, ?_, hexplains.grows, fun hcurrent => ?_, fun value final hok => ?_⟩
  · rw [List.append_cons]
    exact hmore
  · exact List.forall_mem_cons.mpr ⟨hplace session hcurrent, hexplains.inPlace hcurrent⟩
  · rw [← List.singleton_append, targets_append, htarget]
    exact hexplains.readOnce value final hok

end Follows

theorem relates_follows (document : String) : Schema.Relates (Follows document) :=
  ⟨Follows.pure, Follows.bind⟩

/-! ## Traces of resolutions -/

section Resolving

variable {traced : Reference → Traced TypeExpr} {resolve : Reference → Run TypeExpr}

theorem Schema.readReference_restores (written : String) :
    (Schema.readReference written).Obeys Session.Restores := by
  intro session
  unfold Run.after Schema.readReference
  cases session.reference written <;> exact .refl session

theorem follows_answer (h : ∀ document r, Follows document _ (traced r) (resolve r))
    {document : String} {location : Reference} (hlocation : location.document = document)
    (q : Schema.Question) :
    Follows document _ (Traced.answer traced location q) (q.answer resolve) := by
  cases q with
  | malformed place reason => exact .throw _
  | reference written =>
    refine .note (fun _ => rfl) (fun session hcurrent => ?_)
      (.bind (.silently (Schema.readReference_restores written)) fun r => h document r)
    change session.reference written = Reference.parse written location.document
    rw [hlocation, ← hcurrent]
    rfl
  | text format => exact .silently (Session.textType_restores format)

theorem parsesAlike_follows (h : ∀ document r, Follows document _ (traced r) (resolve r))
    (document : String) :
    Schema.ParsesAlike (Follows document)
      (fun place node => Traced.note fun session => .node place node session.current)
      (Traced.answer traced) (Schema.Question.answer resolve) document where
  relates := relates_follows document
  ask hplace q := follows_answer h hplace q
  enter hplace hstep :=
    .note (fun _ => rfl) (fun _ hcurrent => hcurrent.trans hplace.symm) hstep

/-- Parsing a node follows the elaboration of its schema. -/
theorem follows_parse (h : ∀ document r, Follows document _ (traced r) (resolve r))
    (location : Reference) (node : Json) :
    Follows location.document _ (Traced.parse traced location node)
      ((Schema.ofJson location node).elaborate resolve) := by
  rw [Schema.elaborate_eq_typeBy]
  exact (parsesAlike_follows h location.document).parse rfl node

/-- A target is parsed with its document as the current one. -/
theorem readTarget_traced (hgrows : ∀ r, (resolve r).Obeys Session.Grows)
    (h : ∀ document r, Follows document _ (traced r) (resolve r)) (r : Reference)
    (session : Session) (log : List Event) : ∃ more,
      Traced.readTarget traced r (session, log) =
        Traced.withLog (log ++ .target r :: more) (Session.readTarget resolve r session) ∧
      Explains session.current session more (Session.readTarget resolve r) := by
  have hafter := Session.readTarget_obeys hgrows r session
  cases hnode : session.store.resolve r with
  | error fault =>
    have hread : Session.readTarget resolve r session = .error fault session := by
      unfold Session.readTarget
      rw [hnode]
    refine ⟨[], ?_, hafter, fun _ event hmem => ?_, fun value final hok => ?_⟩
    · unfold Traced.readTarget
      simp only [hnode, hread]
      rfl
    · cases hmem
    · rw [hread] at hok
      cases hok
  | ok node =>
    obtain ⟨more, hmore, hexplains⟩ :=
      follows_parse h r node { session with current := r.document } (log ++ [.target r])
    refine ⟨more, ?_, hafter, fun _ => hexplains.inPlace rfl, fun value final hok => ?_⟩
    · unfold Traced.readTarget Traced.inDocument Session.readTarget Run.inDocument
      simp only [hnode, hmore, List.append_assoc]
      cases (Schema.ofJson r node).elaborate resolve { session with current := r.document } <;> rfl
    · obtain ⟨found, read, hfound, helaborated, -, rfl⟩ := Session.readTarget_ok hgrows hok
      obtain rfl : found = node := by
        rw [hnode] at hfound
        cases hfound
        rfl
      exact hexplains.readOnce value { session with current := r.document, registry := read }
        helaborated

theorem resolveTarget_traced_eq (policy : Option NamingPolicy) (r : Reference) (session : Session)
    (log : List Event) : Traced.resolveTarget traced policy r (session, log) =
      match (Traced.readTarget traced r >>= fun type =>
          Traced.silently (Session.materialize r type))
        ({ session with
          registry := session.registry.begin r.canonical
            (policy.getD (session.defaultPolicy r)) }, log) with
      | .ok answer after => .ok answer after
      | .error fault (after, log) =>
        .error fault
          ({ after with registry := after.registry.rollback session.registry.mark }, log) := by
  have hget : Traced.silently get (session, log) = .ok session (session, log) := rfl
  have hopen : Traced.silently (Run.modifyRegistry (Registry.begin · r.canonical
      (policy.getD (session.defaultPolicy r)))) (session, log) = .ok ()
        ({ session with
          registry := session.registry.begin r.canonical
            (policy.getD (session.defaultPolicy r)) }, log) := rfl
  unfold Traced.resolveTarget Traced.undoOnFault
  simp only [Run.bind_of_ok hget, Run.bind_of_ok hopen]
  cases (Traced.readTarget traced r >>= fun type => Traced.silently (Session.materialize r type))
    ({ session with
      registry := session.registry.begin r.canonical
        (policy.getD (session.defaultPolicy r)) }, log) <;> rfl

/-- A new reference is opened, its target is parsed, and it is closed. -/
theorem resolveTarget_traced (hgrows : ∀ r, (resolve r).Obeys Session.Grows)
    (h : ∀ document r, Follows document _ (traced r) (resolve r)) (policy : Option NamingPolicy)
    (r : Reference) (session : Session) (hnew : session.registry.New r.canonical)
    (log : List Event) : ∃ more,
      Traced.resolveTarget traced policy r (session, log) =
        Traced.withLog (log ++ more) (Session.resolveTarget resolve policy r session) ∧
      (∀ event ∈ more, event.InPlace) ∧
      ∀ answer final, Session.resolveTarget resolve policy r session = .ok answer final →
        session.registry.ReadOnce (targets more) final.registry := by
  rw [resolveTarget_traced_eq]
  obtain ⟨more, hmore, hexplains⟩ := readTarget_traced hgrows h r
    { session with
      registry := session.registry.begin r.canonical (policy.getD (session.defaultPolicy r)) } log
  refine ⟨.target r :: more, ?_, List.forall_mem_cons.mpr ⟨trivial, hexplains.inPlace rfl⟩, ?_⟩
  · -- The same outcome: of reading, and then of closing.
    cases hread : Session.readTarget resolve r
        { session with
          registry := session.registry.begin r.canonical
            (policy.getD (session.defaultPolicy r)) } with
    | error fault middle =>
      rw [hread] at hmore
      rw [Run.bind_of_error hmore, Session.resolveTarget_of_unread hread]
      rfl
    | ok type middle =>
      rw [hread] at hmore
      rw [Run.bind_of_ok hmore, Session.resolveTarget_of_read hread]
      simp only [Traced.silently]
      cases Session.materialize r type middle <;> rfl
  · intro answer final hok
    obtain ⟨type, read, closed, hread, hmodels, hinlined, hcloses, rfl⟩ :=
      Session.resolveTarget_closes hgrows hnew hok
    exact (hexplains.readOnce type _ hread).closes hnew hmodels hinlined hcloses

/-- What is known is given without reading anything; otherwise the step is followed. -/
theorem follows_knownOr {r : Reference} {tracedStep : Traced TypeExpr} {step : Run TypeExpr}
    (hgrows : (Session.knownOr r step).Obeys Session.Grows)
    (h : ∀ session, session.registry.New r.canonical → ∀ log, ∃ more,
      tracedStep (session, log) = Traced.withLog (log ++ more) (step session) ∧
      (∀ event ∈ more, event.InPlace) ∧
      ∀ answer final, step session = .ok answer final →
        session.registry.ReadOnce (targets more) final.registry) (document : String) :
    Follows document _ (Traced.knownOr r tracedStep) (Session.knownOr r step) := by
  intro session log
  have hafter := hgrows session
  have hgiven : ∀ {type : TypeExpr} {after : Session},
      Session.known r session = .ok (some type) after →
      after.registry.models = session.registry.models →
      after.registry.inlined = session.registry.inlined → ∃ more,
        Traced.knownOr r tracedStep (session, log) =
          Traced.withLog (log ++ more) (Session.knownOr r step session) ∧
        Explains document session more (Session.knownOr r step) := by
    intro type after hknown hmodels hinlined
    have hok := Session.knownOr_of_known hknown step
    refine ⟨[], ?_, .nothing hafter fun value final hfinal => ?_⟩
    · rw [Traced.knownOr, Run.bind_of_ok (Traced.silently_of_ok hknown log), hok, List.append_nil]
      rfl
    · rw [hok] at hfinal
      cases hfinal
      exact ⟨hmodels, hinlined⟩
  rcases Session.answered_or_new_or_open session.registry r.canonical with
    ⟨type, hanswer⟩ | hnew | ⟨policy, hmodels, hinlined, hopen⟩
  · exact hgiven (Session.known_of_answer hanswer) rfl rfl
  · have hunknown := Session.known_of_new hnew
    have hstep := Session.knownOr_of_unknown hunknown step
    obtain ⟨more, hmore, hplaces, hreads⟩ := h session hnew log
    refine ⟨more, ?_, hafter, fun _ => hplaces, fun value final hok => ?_⟩
    · rw [Traced.knownOr, Run.bind_of_ok (Traced.silently_of_ok hunknown log), hstep]
      exact hmore
    · rw [hstep] at hok
      exact hreads value final hok
  · rcases Session.known_of_open hmodels hinlined hopen with ⟨name, -, hname⟩ | ⟨fault, hfault⟩
    · exact hgiven hname rfl rfl
    · have hfails : Session.knownOr r step session = .error fault session := by
        unfold Session.knownOr
        rw [Run.bind_of_error hfault]
      refine ⟨[], ?_, .nothing hafter fun value final hok => ?_⟩
      · rw [Traced.knownOr, Run.bind_of_error (Traced.silently_of_error hfault log), hfails,
          List.append_nil]
        rfl
      · rw [hfails] at hok
        cases hok

/-- However deep references may nest, a traced resolution follows the resolution. -/
theorem follows_resolveWithin (bound : Nat) (policy : Option NamingPolicy) (document : String)
    (r : Reference) :
    Follows document _ (Traced.resolveWithin bound policy r)
      (Session.resolveWithin bound policy r) := by
  induction bound generalizing policy document r with
  | zero =>
    refine follows_knownOr (Session.resolveWithin_obeys 0 policy r) (fun session _ log => ?_)
      document
    exact ⟨[], by rw [List.append_nil]; rfl, by simp, fun answer final h => by cases h⟩
  | succ bound ih =>
    refine follows_knownOr (Session.resolveWithin_obeys (bound + 1) policy r)
      (fun session hnew log => ?_) document
    exact resolveTarget_traced (Session.resolveWithin_obeys bound none) (ih none) policy r session
      hnew log

end Resolving

/-! ## Requests -/

/-- A traced resolution comes out as the resolution does; every node that is parsed below it is
parsed in its own document, and every reference that is written there is relative to it. -/
theorem resolveReference_traced (r : Reference) (policy : Option NamingPolicy) (session : Session) :
    ∃ log, Traced.resolveReference r policy (session, []) =
        Traced.withLog log (Session.resolveReference r policy session) ∧
      (∀ event ∈ log, event.InPlace) ∧
      ∀ answer final, Session.resolveReference r policy session = .ok answer final →
        session.registry.ReadOnce (targets log) final.registry := by
  obtain ⟨log, hlog, hexplains⟩ :=
    follows_resolveWithin session.nestingBound policy session.current r session []
  exact ⟨log, hlog, hexplains.inPlace rfl, hexplains.readOnce⟩

/-- Parsing a node comes out as it does without a log. -/
theorem parseNode_traced (node : Json) (location : Reference) (session : Session) :
    ∃ log, Traced.parseNode node location (session, []) =
        Traced.withLog log (Session.parseNode node location session) ∧
      (session.current = location.document → ∀ event ∈ log, event.InPlace) ∧
      ∀ type final, Session.parseNode node location session = .ok type final →
        session.registry.ReadOnce (targets log) final.registry := by
  obtain ⟨log, hlog, hexplains⟩ :=
    follows_parse (fun document r => follows_resolveWithin session.nestingBound none document r)
      location node session []
  exact ⟨log, hlog, hexplains.inPlace, hexplains.readOnce⟩

namespace Session

/-- In any session, whatever is open or remembered: if a reference is resolved or a node parsed
successfully, then no target is parsed twice, none that was remembered before is parsed, and the
references the targets of which are parsed are all that are remembered besides. -/
theorem targets_are_parsed_once (session : Session) :
    (∀ (r : Reference) (policy : Option NamingPolicy) (answer : TypeExpr) (final : Session),
      resolveReference r policy session = .ok answer final →
        ∃ log, Traced.resolveReference r policy (session, []) = .ok answer (final, log) ∧
          session.registry.ReadOnce (targets log) final.registry) ∧
    ∀ (node : Json) (location : Reference) (type : TypeExpr) (final : Session),
      parseNode node location session = .ok type final →
        ∃ log, Traced.parseNode node location (session, []) = .ok type (final, log) ∧
          session.registry.ReadOnce (targets log) final.registry := by
  constructor
  · intro r policy answer final h
    obtain ⟨log, hlog, -, hreads⟩ := resolveReference_traced r policy session
    rw [h] at hlog
    exact ⟨log, hlog, hreads answer final h⟩
  · intro node location type final h
    obtain ⟨log, hlog, -, hreads⟩ := parseNode_traced node location session
    rw [h] at hlog
    exact ⟨log, hlog, hreads type final h⟩

/-- A pair of chains asks for the node of a chain twice, and the node for itself; and once the node
is remembered, neither it nor its label is parsed again. -/
theorem targets_are_parsed_once_sample :
    (∃ answer final log,
      resolveReference (sampleReference "Pair") none sample = .ok answer final ∧
      Traced.resolveReference (sampleReference "Pair") none (sample, []) =
        .ok answer (final, log) ∧
      targets log = [sampleReference "Pair", sampleReference "Node", sampleReference "Label"] ∧
      sample.registry.ReadOnce (targets log) final.registry) ∧
    ∃ type final log,
      let remembering := (Request.perform (.resolve (sampleReference "Node") none) sample).2
      Traced.parseNode (sampleLink "Pair") (Reference.root "api.json") (remembering, []) =
        .ok type (final, log) ∧
      targets log = [sampleReference "Pair"] ∧
      remembering.registry.ReadOnce (targets log) final.registry := by
  constructor
  · have hlength : ((resolveReference (sampleReference "Pair") none).given sample).length = 1 := by
      decide +kernel
    have hread : targets (Traced.logOf
        (Traced.resolveReference (sampleReference "Pair") none (sample, []))) =
        [sampleReference "Pair", sampleReference "Node", sampleReference "Label"] := by
      decide +kernel
    obtain ⟨answer, hgiven⟩ := List.length_eq_one_iff.mp hlength
    have hok := Run.mem_given.mp (hgiven ▸ List.mem_singleton_self answer)
    obtain ⟨log, hlog, honce⟩ := (targets_are_parsed_once sample).1 _ none _ _ hok
    rw [hlog] at hread
    exact ⟨answer, _, log, hok, hlog, hread, honce⟩
  · let remembering := (Request.perform (.resolve (sampleReference "Node") none) sample).2
    let place := Reference.root "api.json"
    have hlength : ((parseNode (sampleLink "Pair") place).given remembering).length = 1 := by
      decide +kernel
    have hread : targets (Traced.logOf
        (Traced.parseNode (sampleLink "Pair") place (remembering, []))) =
        [sampleReference "Pair"] := by
      decide +kernel
    obtain ⟨type, hgiven⟩ := List.length_eq_one_iff.mp hlength
    have hok := Run.mem_given.mp (hgiven ▸ List.mem_singleton_self type)
    obtain ⟨log, hlog, honce⟩ := (targets_are_parsed_once remembering).2 _ place _ _ hok
    rw [hlog] at hread
    exact ⟨type, _, log, hlog, hread, honce⟩

end Session

end SchemaTypes
