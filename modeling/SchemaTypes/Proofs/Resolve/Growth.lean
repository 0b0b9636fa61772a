import SchemaTypes.Proofs.Registry.Growth
import SchemaTypes.Proofs.Schema.Elaboration

set_option autoImplicit false

/-!
# What resolving a reference does

A reference that has an answer is given it and nothing changes.  One that is open without a name
gets its name.  A new one is opened, its target is elaborated, and it is closed.  `Resolves` states
these three outcomes, `resolveWithin_induct` is the induction over everything that is resolved in
between.  Whatever happens the registry grows, and after a fault it is what it was, names of
references that were open before apart.
-/

namespace SchemaTypes

namespace Session

/-! ## Growing sessions -/

/-- A session of which nothing but the registry has changed, and that has grown. -/
structure Grows (before after : Session) : Prop where
  same : after = { before with registry := after.registry }
  registry : before.registry.Grows after.registry

theorem Grows.refl (session : Session) : session.Grows session := ⟨rfl, .refl _⟩

theorem Grows.trans ⦃before middle after : Session⦄ (first : before.Grows middle)
    (second : middle.Grows after) : before.Grows after := by
  refine ⟨?_, first.registry.trans second.registry⟩
  rw [second.same, first.same]

theorem Grows.store_eq {before after : Session} (h : before.Grows after) :
    after.store = before.store := by rw [h.same]

theorem Grows.nestingBound_eq {before after : Session} (h : before.Grows after) :
    after.nestingBound = before.nestingBound := by
  unfold nestingBound
  rw [h.store_eq]

/-- A session of which nothing but the registry has changed, and that was rolled back. -/
structure Restores (before after : Session) : Prop where
  same : after = { before with registry := after.registry }
  registry : before.registry.Restores after.registry

theorem Restores.refl (session : Session) : session.Restores session := ⟨rfl, .refl _⟩

theorem Restores.grows {before after : Session} (h : before.Restores after) :
    before.Grows after := ⟨h.same, h.registry.grows⟩

/-- Strings of a format only note a helper. -/
theorem textType_restores (format : Option String) :
    (Schema.textType format).Obeys Restores := by
  intro session
  unfold Run.after Schema.textType
  cases format with
  | none => exact .refl session
  | some format =>
    by_cases htemporal : session.config.isTemporal format = true
    · simp only [htemporal, if_true]
      exact ⟨rfl, Registry.restores_recordHelper _ _ _⟩
    · simp only [htemporal, Bool.false_eq_true, if_false]
      exact .refl session

theorem textType_obeys (format : Option String) : (Schema.textType format).Obeys Grows :=
  fun session => (textType_restores format session).grows

/-- Elaborations grow the registry if the resolutions in them do. -/
theorem elaborate_obeys {resolve : Reference → Run TypeExpr}
    (h : ∀ r, (resolve r).Obeys Grows) (schema : Schema) :
    (schema.elaborate resolve).Obeys Grows :=
  Schema.Obeys.elaborate ⟨Grows.refl, Grows.trans, textType_obeys, h⟩ schema

/-! ## Invariants and types -/

/-- What has to be shown of resolutions and of strings of a format in order to know that
elaborations keep an invariant, and that the types that come out have a property which growth does
not take away. -/
structure Conveys (resolve : Reference → Run TypeExpr) (Inv : Session → Prop)
    (Has : Session → TypeExpr → Prop) : Prop where
  grows : ∀ r, (resolve r).Obeys Grows
  mono : ∀ {before after type}, before.Grows after → Has before type → Has after type
  constant : ∀ session {type}, type.Constant → Has session type
  combines : ∀ {session type types}, (∀ part ∈ types, Has session part) →
    TypeExpr.Combines types type → Has session type
  text : ∀ {format session type final}, Schema.textType format session = .ok type final →
    Inv session → Inv final ∧ Has final type
  resolved : ∀ {r session type final}, resolve r session = .ok type final → Inv session →
    Inv final ∧ Has final type

/-- An elaboration keeps the invariant, and its type has the property. -/
theorem Conveys.elaborate {resolve : Reference → Run TypeExpr} {Inv : Session → Prop}
    {Has : Session → TypeExpr → Prop} (rules : Conveys resolve Inv Has) {schema : Schema}
    (hplain : schema.Plain) {session final : Session} {type : TypeExpr}
    (h : schema.elaborate resolve session = .ok type final) (hinv : Inv session) :
    Inv final ∧ Has final type := by
  have hyields : Schema.Yields resolve
      (fun before type after => before.Grows after ∧ (Inv before → Inv after ∧ Has after type))
      (fun before types after => before.Grows after ∧
        (Inv before → Inv after ∧ ∀ type ∈ types, Has after type)) := {
    nil := fun _ => ⟨.refl _, fun hbefore => ⟨hbefore, fun _ hmem => absurd hmem List.not_mem_nil⟩⟩
    cons := by
      rintro before middle after type types ⟨hfirst, htype⟩ ⟨hrest, htypes⟩
      refine ⟨hfirst.trans hrest, fun hbefore => ?_⟩
      obtain ⟨hmiddle, hhas⟩ := htype hbefore
      obtain ⟨hafter, hall⟩ := htypes hmiddle
      refine ⟨hafter, fun t ht => ?_⟩
      rcases List.mem_cons.mp ht with rfl | hmem
      · exact rules.mono hrest hhas
      · exact hall t hmem
    combines := by
      rintro before after type types ⟨hgrows, htypes⟩ hcombines
      refine ⟨hgrows, fun hbefore => ?_⟩
      obtain ⟨hafter, hall⟩ := htypes hbefore
      exact ⟨hafter, rules.combines hall hcombines⟩
    constant := fun hconstant => ⟨.refl _, fun hbefore => ⟨hbefore, rules.constant _ hconstant⟩⟩
    text := by
      intro format before type after htext
      have hgrows := textType_obeys format before
      rw [Run.after_of_ok htext] at hgrows
      exact ⟨hgrows, rules.text htext⟩
    resolved := by
      intro r before type after hresolve
      have hgrows := rules.grows r before
      rw [Run.after_of_ok hresolve] at hgrows
      exact ⟨hgrows, rules.resolved hresolve⟩ }
  exact (hyields.elaborate schema hplain session type final h).2 hinv

/-- What has to be shown if all provided types have the property, and helpers do not matter to the
invariant. -/
structure Carries (resolve : Reference → Run TypeExpr) (Inv : Session → Prop)
    (Has : Session → TypeExpr → Prop) : Prop where
  grows : ∀ r, (resolve r).Obeys Grows
  mono : ∀ {before after type}, before.Grows after → Has before type → Has after type
  constant : ∀ session {type}, type.Constant → Has session type
  string : ∀ session, Has session .string
  provided : ∀ session display backing, Has session (.provided display backing)
  combines : ∀ {session type types}, (∀ part ∈ types, Has session part) →
    TypeExpr.Combines types type → Has session type
  noted : ∀ {session} path name, Inv session →
    Inv { session with registry := session.registry.recordHelper path name }
  resolved : ∀ {r session type final}, resolve r session = .ok type final → Inv session →
    Inv final ∧ Has final type

/-- Such an elaboration keeps the invariant, and its type has the property. -/
theorem Carries.elaborate {resolve : Reference → Run TypeExpr} {Inv : Session → Prop}
    {Has : Session → TypeExpr → Prop} (rules : Carries resolve Inv Has) {schema : Schema}
    (hplain : schema.Plain) {session final : Session} {type : TypeExpr}
    (h : schema.elaborate resolve session = .ok type final) (hinv : Inv session) :
    Inv final ∧ Has final type := by
  have hconveys : Conveys resolve Inv Has := {
    grows := rules.grows
    mono := rules.mono
    constant := rules.constant
    combines := rules.combines
    text := by
      intro format before type after htext hbefore
      rcases Schema.textType_ok htext with ⟨rfl, rfl⟩ | ⟨display, backing, path, rfl, rfl⟩
      · exact ⟨hbefore, rules.string _⟩
      · exact ⟨rules.noted path backing hbefore, rules.provided _ display backing⟩
    resolved := rules.resolved }
  exact hconveys.elaborate hplain h hinv

/-- A property that types inherit is carried along with any invariant to which helpers do not
matter. -/
theorem Carries.of_inherited {P : TypeExpr → Prop} (hP : TypeExpr.Inherited P)
    {resolve : Reference → Run TypeExpr} {Inv : Session → Prop}
    (grows : ∀ r, (resolve r).Obeys Grows)
    (noted : ∀ {session} path name, Inv session →
      Inv { session with registry := session.registry.recordHelper path name })
    (resolved : ∀ {r session type final}, resolve r session = .ok type final → Inv session →
      Inv final ∧ P type) : Carries resolve Inv fun _ type => P type where
  grows := grows
  mono _ h := h
  constant _ _ h := hP.constant h
  string _ := hP.string
  provided _ := hP.provided
  combines h hcombines := hP.combines hcombines h
  noted := noted
  resolved := resolved

/-! ## What is known -/

section Known

variable {session : Session} {r : Reference}

theorem known_of_answer {type : TypeExpr}
    (h : session.registry.answer? r.canonical = some type) :
    known r session = .ok (some type) session := by
  unfold known Registry.lookup
  unfold Registry.answer? at h
  cases hmodels : session.registry.models.get? r.canonical with
  | some model =>
    rw [hmodels] at h
    cases h
    rfl
  | none =>
    rw [hmodels] at h
    cases hinlined : session.registry.inlined.get? r.canonical with
    | some inlined =>
      rw [hinlined] at h
      cases h
      rfl
    | none =>
      rw [hinlined] at h
      obtain ⟨name, hname, rfl⟩ := Option.map_eq_some_iff.mp h
      obtain ⟨entry, hopen, hreserved⟩ := Option.bind_eq_some_iff.mp hname
      obtain ⟨policy, reserved⟩ := entry
      obtain rfl : reserved = some name := hreserved
      simp only [Registry.reserve, hopen]

theorem known_of_new (h : session.registry.New r.canonical) :
    known r session = .ok none session := by
  unfold known Registry.lookup Registry.reserve
  simp only [h.models, h.inlined, h.pending]

/-- An open reference without a name gets the first name that is free. -/
theorem known_of_open {policy : NamingPolicy}
    (hmodels : session.registry.models.get? r.canonical = none)
    (hinlined : session.registry.inlined.get? r.canonical = none)
    (hopen : session.registry.pending.get? r.canonical = some ⟨policy, none⟩) :
    (∃ name, session.registry.freeName? policy r = some name ∧
      known r session = .ok (some name.identifier)
        { session with registry := session.registry.fixName r.canonical policy name }) ∨
    ∃ fault, known r session = .error fault session := by
  unfold known Registry.lookup Registry.reserve
  simp only [hmodels, hinlined, hopen, Registry.assignName_eq]
  cases session.registry.freeName? policy r with
  | none => exact Or.inr ⟨_, rfl⟩
  | some name => exact Or.inl ⟨name, rfl, rfl⟩

/-- Every reference has an answer, is new, or is open without a name. -/
theorem answered_or_new_or_open (registry : Registry) (key : String) :
    (∃ type, registry.answer? key = some type) ∨ registry.New key ∨
      ∃ policy, registry.models.get? key = none ∧ registry.inlined.get? key = none ∧
        registry.pending.get? key = some ⟨policy, none⟩ := by
  cases hanswer : registry.answer? key with
  | some type => exact Or.inl ⟨type, rfl⟩
  | none =>
    obtain ⟨hmodels, hinlined, hpending⟩ := Registry.answer?_eq_none_iff.mp hanswer
    cases hopen : registry.pending.get? key with
    | none => exact Or.inr (Or.inl ⟨hmodels, hinlined, hopen⟩)
    | some entry =>
      obtain ⟨policy, reserved⟩ := entry
      rw [hopen] at hpending
      obtain rfl : reserved = none := hpending
      exact Or.inr (Or.inr ⟨policy, hmodels, hinlined, rfl⟩)

end Known

/-! ## Closing a reference -/

section Materialize

variable {r : Reference} {entry : Pending}

theorem finish_of_open {registry : Registry} {key : String}
    (hopen : registry.pending.get? key = some entry) :
    registry.finish key = (some entry, registry.closing key) := by
  unfold Registry.finish
  rw [hopen]
  rfl

theorem addModel_of_undeclared (registry : Registry)
    (h : registry.models.get? r.canonical = none) (name : ModelName) (declaration : TypeExpr) :
    registry.addModel r name declaration = registry.declaring r name declaration := by
  unfold Registry.addModel OrderedMap.contains Registry.declaring
  rw [h, OrderedMap.insert_eq_append _ _ _ h]
  rfl

/-- An open reference that has neither a declaration nor an inlined type is closed.  If it has no
name yet, this fails only for want of one. -/
theorem materialize_spec (session : Session)
    (hmodels : session.registry.models.get? r.canonical = none)
    (hinlined : session.registry.inlined.get? r.canonical = none)
    (hopen : session.registry.pending.get? r.canonical = some entry) (type : TypeExpr) :
    (∃ answer after, materialize r type session = .ok answer { session with registry := after } ∧
      session.registry.Closes r type answer after) ∨
    ∃ fault, materialize r type session =
        .error fault { session with registry := session.registry.closing r.canonical } ∧
      (entry.reserved = none →
        (session.registry.closing r.canonical).freeName? entry.policy r = none) := by
  unfold materialize Registry.lookup
  simp only [hmodels, finish_of_open hopen]
  obtain ⟨policy, reserved⟩ := entry
  cases reserved with
  | some name =>
    cases hproductive : isUnproductive name.identifier type with
    | true =>
      right
      simp only [declareRecursive, hproductive, if_true]
      exact ⟨_, rfl, fun hunnamed => by cases hunnamed⟩
    | false =>
      left
      simp only [declareRecursive, hproductive, Bool.false_eq_true, if_false]
      rw [addModel_of_undeclared (session.registry.closing r.canonical) hmodels]
      exact ⟨_, _, rfl, .recursive hopen hproductive⟩
  | none =>
    cases hqualifies : type.qualifies with
    | true =>
      simp only [declare, hqualifies, if_true, Registry.assignName_eq]
      cases hfree : (session.registry.closing r.canonical).freeName? policy r with
      | none => exact Or.inr ⟨_, rfl, fun _ => rfl⟩
      | some name =>
        left
        simp only [addModel_of_undeclared
          ((session.registry.closing r.canonical).takeName r.canonical name) hmodels]
        exact ⟨_, _, rfl, .declared hopen hqualifies hfree⟩
    | false =>
      left
      simp only [declare, hqualifies, Bool.false_eq_true, if_false, Registry.recordInlined]
      rw [OrderedMap.insert_eq_append (session.registry.closing r.canonical).inlined _ _ hinlined]
      exact ⟨_, _, rfl, .inlined hopen hqualifies⟩

end Materialize

/-! ## Reading a target -/

section Target

variable {resolve : Reference → Run TypeExpr} {session : Session} {r : Reference}

/-- A target is read by elaborating its schema in the document of the reference. -/
theorem readTarget_ok (hresolve : ∀ r, (resolve r).Obeys Grows) {type : TypeExpr} {final : Session}
    (h : readTarget resolve r session = .ok type final) :
    ∃ node read, session.store.resolve r = .ok node ∧
      (Schema.ofJson r node).elaborate resolve { session with current := r.document } =
        .ok type { session with current := r.document, registry := read } ∧
      session.registry.Grows read ∧ final = { session with registry := read } := by
  unfold readTarget at h
  cases hnode : session.store.resolve r with
  | error fault =>
    rw [hnode] at h
    cases h
  | ok node =>
    simp only [hnode, Run.inDocument] at h
    have hobeys := elaborate_obeys hresolve (Schema.ofJson r node)
      { session with current := r.document }
    cases hread : (Schema.ofJson r node).elaborate resolve
        { session with current := r.document } with
    | error fault after =>
      rw [hread] at h
      cases h
    | ok value after =>
      rw [Run.after_of_ok hread] at hobeys
      obtain ⟨read, rfl⟩ :
          ∃ read, after = { session with current := r.document, registry := read } :=
        ⟨_, hobeys.same⟩
      rw [hread] at h
      cases h
      exact ⟨node, read, rfl, hread, hobeys.registry, rfl⟩

theorem readTarget_obeys (hresolve : ∀ r, (resolve r).Obeys Grows) (r : Reference) :
    (readTarget resolve r).Obeys Grows := by
  intro session
  unfold Run.after readTarget
  cases hnode : session.store.resolve r with
  | error fault => exact .refl session
  | ok node =>
    have hobeys := elaborate_obeys hresolve (Schema.ofJson r node)
      { session with current := r.document }
    simp only [Run.inDocument]
    cases hread : (Schema.ofJson r node).elaborate resolve
        { session with current := r.document } with
    | error fault after =>
      rw [Run.after_of_error hread] at hobeys
      refine ⟨?_, hobeys.registry⟩
      rw [hobeys.same]
    | ok value after =>
      rw [Run.after_of_ok hread] at hobeys
      refine ⟨?_, hobeys.registry⟩
      rw [hobeys.same]

theorem resolveTarget_eq (resolve : Reference → Run TypeExpr) (policy : Option NamingPolicy)
    (r : Reference) (session : Session) : resolveTarget resolve policy r session =
      match (readTarget resolve r >>= materialize r)
        { session with
          registry := session.registry.begin r.canonical
            (policy.getD (session.defaultPolicy r)) } with
      | .ok answer after => .ok answer after
      | .error fault after =>
        .error fault
          { after with registry := after.registry.rollback session.registry.mark } := by
  have hget : (get : Run Session) session = .ok session session := rfl
  have hopen : Run.modifyRegistry (Registry.begin · r.canonical
      (policy.getD (session.defaultPolicy r))) session = .ok ()
        { session with
          registry := session.registry.begin r.canonical
            (policy.getD (session.defaultPolicy r)) } := rfl
  unfold resolveTarget Run.undoOnFault
  rw [Run.bind_of_ok hget, Run.bind_of_ok hopen]
  cases (readTarget resolve r >>= materialize r)
    { session with
      registry := session.registry.begin r.canonical
        (policy.getD (session.defaultPolicy r)) } <;> rfl

/-- A reference whose target cannot be read is taken back. -/
theorem resolveTarget_of_unread {policy : Option NamingPolicy} {fault : Fault} {middle : Session}
    (h : readTarget resolve r
      { session with
        registry := session.registry.begin r.canonical
          (policy.getD (session.defaultPolicy r)) } = .error fault middle) :
    resolveTarget resolve policy r session =
      .error fault
        { middle with registry := middle.registry.rollback session.registry.mark } := by
  rw [resolveTarget_eq, Run.bind_of_error h]

/-- A reference whose target has been read is closed. -/
theorem resolveTarget_of_read {policy : Option NamingPolicy} {type : TypeExpr} {middle : Session}
    (h : readTarget resolve r
      { session with
        registry := session.registry.begin r.canonical
          (policy.getD (session.defaultPolicy r)) } = .ok type middle) :
    resolveTarget resolve policy r session =
      match materialize r type middle with
      | .ok answer after => .ok answer after
      | .error fault after =>
        .error fault
          { after with registry := after.registry.rollback session.registry.mark } := by
  rw [resolveTarget_eq, Run.bind_of_ok h]

/-- A reference fails if its target cannot be read, or else if it cannot be closed; either way it is
taken back. -/
theorem resolveTarget_fails {policy : Option NamingPolicy} {fault : Fault} {final : Session}
    (h : resolveTarget resolve policy r session = .error fault final) :
    let opened := { session with
      registry := session.registry.begin r.canonical (policy.getD (session.defaultPolicy r)) }
    ∃ after, final = { after with registry := after.registry.rollback session.registry.mark } ∧
      (readTarget resolve r opened = .error fault after ∨
        ∃ type middle, readTarget resolve r opened = .ok type middle ∧
          materialize r type middle = .error fault after) := by
  intro opened
  rw [resolveTarget_eq] at h
  cases hbody : (readTarget resolve r >>= materialize r) opened with
  | ok answer after =>
    rw [hbody] at h
    cases h
  | error other after =>
    rw [hbody] at h
    cases h
    exact ⟨after, rfl, Run.bind_error hbody⟩

/-- Where a new reference has been opened, nothing that is done before it is closed gives it a
declaration or an inlined type. -/
theorem open_of_grows {before after : Registry} {key : String} {policy : NamingPolicy}
    (hnew : before.New key) (h : (before.begin key policy).Grows after) :
    after.models.get? key = none ∧ after.inlined.get? key = none ∧
      ∃ entry, after.pending.get? key = some entry := by
  have hopen := Registry.get?_pending_begin hnew policy
  obtain ⟨entry, hentry, -⟩ := h.pending.get?_some hopen
  refine ⟨?_, ?_, entry, hentry⟩
  · rw [h.undeclared key (Or.inl ⟨_, hopen⟩)]
    exact hnew.models
  · rw [h.uninlined key ⟨_, hopen⟩]
    exact hnew.inlined

/-- A new reference is opened, its target read, and it is closed. -/
theorem resolveTarget_closes (hresolve : ∀ r, (resolve r).Obeys Grows)
    (hnew : session.registry.New r.canonical) {policy : Option NamingPolicy} {answer : TypeExpr}
    {final : Session} (h : resolveTarget resolve policy r session = .ok answer final) :
    ∃ type read after,
      readTarget resolve r
          { session with
            registry := session.registry.begin r.canonical
              (policy.getD (session.defaultPolicy r)) } =
        .ok type { session with registry := read } ∧
      read.models.get? r.canonical = none ∧ read.inlined.get? r.canonical = none ∧
      read.Closes r type answer after ∧ final = { session with registry := after } := by
  rw [resolveTarget_eq] at h
  cases hbody : (readTarget resolve r >>= materialize r)
      { session with
        registry := session.registry.begin r.canonical
          (policy.getD (session.defaultPolicy r)) } with
  | error fault after =>
    rw [hbody] at h
    cases h
  | ok value after =>
    rw [hbody] at h
    cases h
    obtain ⟨type, middle, hread, hclose⟩ := Run.bind_ok hbody
    obtain ⟨-, read, -, -, hgrows, rfl⟩ := readTarget_ok hresolve hread
    obtain ⟨hmodels, hinlined, entry, hopen⟩ := open_of_grows hnew hgrows
    rcases materialize_spec { session with registry := read } hmodels hinlined hopen type with
      ⟨given, closed, hgiven, hcloses⟩ | ⟨fault, hfault, -⟩
    · rw [hgiven] at hclose
      cases hclose
      exact ⟨type, read, closed, hread, hmodels, hinlined, hcloses, rfl⟩
    · rw [hfault] at hclose
      cases hclose

/-- What is read of its target is what the schema there is elaborated to. -/
theorem resolveTarget_ok (hresolve : ∀ r, (resolve r).Obeys Grows)
    (hnew : session.registry.New r.canonical) {policy : Option NamingPolicy} {answer : TypeExpr}
    {final : Session} (h : resolveTarget resolve policy r session = .ok answer final) :
    ∃ policy node type read after, session.store.resolve r = .ok node ∧
      (Schema.ofJson r node).elaborate resolve
          { session with
            current := r.document
            registry := session.registry.begin r.canonical policy } =
        .ok type { session with current := r.document, registry := read } ∧
      (session.registry.begin r.canonical policy).Grows read ∧
      read.Closes r type answer after ∧ final = { session with registry := after } := by
  obtain ⟨type, read, after, hread, -, -, hcloses, rfl⟩ := resolveTarget_closes hresolve hnew h
  obtain ⟨node, found, hnode, helaborated, hgrows, hsame⟩ := readTarget_ok hresolve hread
  obtain rfl : read = found := congrArg Session.registry hsame
  exact ⟨_, node, type, read, after, hnode, helaborated, hgrows, hcloses, rfl⟩

/-- A new reference that fails leaves behind only what does not matter: names of references that
are still open, and helpers. -/
theorem resolveTarget_error (hresolve : ∀ r, (resolve r).Obeys Grows)
    (hnew : session.registry.New r.canonical) {policy : Option NamingPolicy} {fault : Fault}
    {final : Session} (h : resolveTarget resolve policy r session = .error fault final) :
    session.Restores final := by
  obtain ⟨after, rfl, hfails⟩ := resolveTarget_fails h
  generalize policy.getD (session.defaultPolicy r) = chosen at hfails
  have hbegin := Registry.begin_of_new hnew chosen
  rcases hfails with hread | ⟨type, middle, hread, hclose⟩
  · -- The fault arose while the target was read: the reference is still open.
    have hgrows := readTarget_obeys hresolve r
      { session with registry := session.registry.begin r.canonical chosen }
    rw [Run.after_of_error hread] at hgrows
    obtain ⟨read, rfl⟩ : ∃ read, after = { session with registry := read } :=
      ⟨_, hgrows.same⟩
    have hregistry := hgrows.registry
    rw [hbegin] at hregistry
    exact ⟨rfl, Registry.restores_rollback hregistry.models hregistry.inlined hregistry.names
      hregistry.pending hregistry.helpers⟩
  · -- The fault arose when the reference was closed, and so it is no longer open.
    obtain ⟨node, read, -, -, hgrows, rfl⟩ := readTarget_ok hresolve hread
    obtain ⟨hmodels, hinlined, entry, hopen⟩ := open_of_grows hnew hgrows
    rcases materialize_spec { session with registry := read } hmodels hinlined hopen type with
      ⟨given, closed, hgiven, -⟩ | ⟨cause, hfault, -⟩
    · rw [hgiven] at hclose
      cases hclose
    · rw [hfault] at hclose
      cases hclose
      rw [hbegin] at hgrows
      have hpending : StillOpen (session.registry.pending ++ [])
          (read.closing r.canonical).pending := by
        rw [List.append_nil]
        exact hgrows.pending.erase_last hnew.pending
      exact ⟨rfl, Registry.restores_rollback hgrows.models hgrows.inlined hgrows.names hpending
        hgrows.helpers⟩

end Target

/-! ## Resolving -/

/-- What becomes of a reference that is resolved, if references in its target are resolved by
`resolve`. -/
inductive Resolves (resolve : Reference → Run TypeExpr) (r : Reference) (session : Session) :
    TypeExpr → Session → Prop
  /-- It has an answer already. -/
  | answered {type : TypeExpr} (answer : session.registry.answer? r.canonical = some type) :
      Resolves resolve r session type session
  /-- It is open, and its name is fixed now. -/
  | named {policy : NamingPolicy} {name : ModelName}
      (undeclared : session.registry.models.get? r.canonical = none)
      (uninlined : session.registry.inlined.get? r.canonical = none)
      (opened : session.registry.pending.get? r.canonical = some ⟨policy, none⟩)
      (free : session.registry.freeName? policy r = some name) :
      Resolves resolve r session name.identifier
        { session with registry := session.registry.fixName r.canonical policy name }
  /-- Its target is read for the first time. -/
  | read {policy : NamingPolicy} {node : Json} {type answer : TypeExpr} {read after : Registry}
      (new : session.registry.New r.canonical)
      (found : session.store.resolve r = .ok node)
      (elaborated : (Schema.ofJson r node).elaborate resolve
          { session with
            current := r.document
            registry := session.registry.begin r.canonical policy } =
        .ok type { session with current := r.document, registry := read })
      (grows : (session.registry.begin r.canonical policy).Grows read)
      (closes : read.Closes r type answer after) :
      Resolves resolve r session answer { session with registry := after }

variable {resolve : Reference → Run TypeExpr} {session final : Session} {r : Reference}

theorem Resolves.grows {answer : TypeExpr} (h : Resolves resolve r session answer final) :
    session.Grows final := by
  cases h with
  | answered => exact .refl session
  | named _ _ opened free => exact ⟨rfl, Registry.grows_fixName opened free⟩
  | read new _ _ grows closes => exact ⟨rfl, Registry.Grows.closes new grows closes⟩

/-- Whatever becomes of a reference that is resolved, it is answered from then on. -/
theorem Resolves.answered_after {answer : TypeExpr}
    (h : Resolves resolve r session answer final) :
    final.registry.answer? r.canonical = some answer := by
  cases h with
  | answered hanswer => exact hanswer
  | named undeclared uninlined =>
    exact Registry.answer?_fixName undeclared uninlined _ _
  | read new _ _ grows closes =>
    obtain ⟨hmodels, hinlined, -⟩ := open_of_grows new grows
    exact closes.answer?_eq hmodels hinlined

/-- What is known is not found out again. -/
theorem knownOr_of_known {type : TypeExpr} (h : known r session = .ok (some type) final)
    (step : Run TypeExpr) : knownOr r step session = .ok type final := by
  unfold knownOr
  rw [Run.bind_of_ok h]
  rfl

/-- What is not known is found out. -/
theorem knownOr_of_unknown (h : known r session = .ok none final) (step : Run TypeExpr) :
    knownOr r step session = step final := by
  unfold knownOr
  rw [Run.bind_of_ok h]

/-- What is known, or else what a step finds out. -/
theorem knownOr_spec {step : Run TypeExpr}
    (hok : ∀ {answer final}, session.registry.New r.canonical → step session = .ok answer final →
      Resolves resolve r session answer final)
    (herror : ∀ {fault final}, session.registry.New r.canonical →
      step session = .error fault final → session.Restores final) :
    (∀ answer final, knownOr r step session = .ok answer final →
      Resolves resolve r session answer final) ∧
    ∀ fault final, knownOr r step session = .error fault final → session.Restores final := by
  rcases answered_or_new_or_open session.registry r.canonical with
    ⟨type, hanswer⟩ | hnew | ⟨policy, hmodels, hinlined, hopen⟩
  · rw [knownOr_of_known (known_of_answer hanswer)]
    refine ⟨fun answer final h => ?_, fun fault final h => by cases h⟩
    cases h
    exact .answered hanswer
  · rw [knownOr_of_unknown (known_of_new hnew)]
    exact ⟨fun answer final h => hok hnew h, fun fault final h => herror hnew h⟩
  · rcases known_of_open hmodels hinlined hopen with ⟨name, hfree, hname⟩ | ⟨cause, hfault⟩
    · rw [knownOr_of_known hname]
      refine ⟨fun answer final h => ?_, fun fault final h => by cases h⟩
      cases h
      exact .named hmodels hinlined hopen hfree
    · unfold knownOr
      rw [Run.bind_of_error hfault]
      refine ⟨fun answer final h => (by cases h), fun fault final h => ?_⟩
      cases h
      exact .refl session

/-- How the references in a target are resolved. -/
def nested : Nat → Reference → Run TypeExpr
  | 0 => fun _ => throw .nestingExhausted
  | bound + 1 => resolveWithin bound none

/-- However deep references nest, resolving one grows the registry, and restores it after a
fault. -/
theorem resolveWithin_outcome (bound : Nat) (policy : Option NamingPolicy) (r : Reference)
    (session : Session) :
    (∀ answer final, resolveWithin bound policy r session = .ok answer final →
      Resolves (nested bound) r session answer final) ∧
    ∀ fault final, resolveWithin bound policy r session = .error fault final →
      session.Restores final := by
  induction bound generalizing policy r session with
  | zero =>
    refine knownOr_spec (fun _ h => by cases h) fun _ h => ?_
    cases h
    exact .refl session
  | succ bound ih =>
    have hinner : ∀ r, (resolveWithin bound none r).Obeys Grows := by
      intro r session
      cases h : resolveWithin bound none r session with
      | ok answer final =>
        rw [Run.after_of_ok h]
        exact ((ih none r session).1 answer final h).grows
      | error fault final =>
        rw [Run.after_of_error h]
        exact ((ih none r session).2 fault final h).grows
    refine knownOr_spec (fun hnew h => ?_) fun hnew h => resolveTarget_error hinner hnew h
    obtain ⟨chosen, node, type, read, after, hnode, helaborated, hgrows, hcloses, rfl⟩ :=
      resolveTarget_ok hinner hnew h
    exact .read hnew hnode helaborated hgrows hcloses

/-- After a fault the registry is what it was. -/
theorem resolveWithin_error {bound : Nat} {policy : Option NamingPolicy} {fault : Fault}
    (h : resolveWithin bound policy r session = .error fault final) : session.Restores final :=
  (resolveWithin_outcome bound policy r session).2 fault final h

theorem resolveWithin_obeys (bound : Nat) (policy : Option NamingPolicy) (r : Reference) :
    (resolveWithin bound policy r).Obeys Grows := by
  intro session
  cases h : resolveWithin bound policy r session with
  | ok answer final =>
    rw [Run.after_of_ok h]
    exact ((resolveWithin_outcome bound policy r session).1 answer final h).grows
  | error fault final =>
    rw [Run.after_of_error h]
    exact (resolveWithin_error h).grows

/-- How the references in a target are resolved: as references are, only not as deep. -/
structure Nested (resolve : Reference → Run TypeExpr) : Prop where
  grows : ∀ r, (resolve r).Obeys Grows
  resolved : ∀ {r session answer final}, resolve r session = .ok answer final →
    ∃ bound, resolveWithin bound none r session = .ok answer final

/-- What holds of all resolutions holds of those in a target. -/
theorem Nested.holds (hnested : Nested resolve)
    {P : Reference → Session → TypeExpr → Session → Prop}
    (h : ∀ bound r session answer final,
      resolveWithin bound none r session = .ok answer final → P r session answer final) :
    ∀ r session answer final, resolve r session = .ok answer final →
      P r session answer final := by
  intro r session answer final hresolve
  obtain ⟨bound, hbound⟩ := hnested.resolved hresolve
  exact h bound r session answer final hbound

/-- Induction over what is resolved: a property of resolutions holds if it holds of one as soon as
it does of those in its target. -/
theorem resolveWithin_induct {P : Reference → Session → TypeExpr → Session → Prop}
    (step : ∀ resolve : Reference → Run TypeExpr, Nested resolve →
      (∀ r session answer final, resolve r session = .ok answer final → P r session answer final) →
      ∀ r session answer final, Resolves resolve r session answer final →
        P r session answer final)
    (bound : Nat) (policy : Option NamingPolicy) {answer : TypeExpr}
    (h : resolveWithin bound policy r session = .ok answer final) :
    P r session answer final := by
  have houtcome := (resolveWithin_outcome bound policy r session).1 answer final h
  induction bound generalizing policy r session answer final with
  | zero =>
    have hnested : Nested (nested 0) :=
      ⟨fun _ => Run.Obeys.throw Grows.refl _, fun h => by cases h⟩
    exact step (nested 0) hnested (fun _ _ _ _ h => by cases h) r session answer final houtcome
  | succ bound ih =>
    have hnested : Nested (nested (bound + 1)) :=
      ⟨fun r => resolveWithin_obeys bound none r, fun h => ⟨bound, h⟩⟩
    refine step (nested (bound + 1)) hnested ?_ r session answer final houtcome
    intro r session answer final h
    exact ih none h ((resolveWithin_outcome bound none r session).1 answer final h)

end Session

end SchemaTypes
