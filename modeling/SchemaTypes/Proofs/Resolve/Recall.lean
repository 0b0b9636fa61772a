import SchemaTypes.Proofs.Registry.Memory
import SchemaTypes.Proofs.Resolve.Coherence
import SchemaTypes.Proofs.Session.Agreement

set_option autoImplicit false

/-!
# Recalling answers

What an elaboration has given can be put together again without a session, out of the answers of any
registry that keeps those which the elaboration left behind.  So whatever is remembered of a
reference is the type that its target has by the answers for the references written in it: the
target can be read, and all of these references have answers.
-/

namespace SchemaTypes

/-- The answer of a registry, if it has one. -/
def Registry.recalled (registry : Registry) (r : Reference) : Except Fault TypeExpr :=
  match registry.answer? r.canonical with
  | some type => .ok type
  | none => .error (.unresolvedReference r.canonical)

theorem Registry.recalled_eq_ok {registry : Registry} {r : Reference} {type : TypeExpr} :
    registry.recalled r = .ok type ↔ registry.answer? r.canonical = some type := by
  unfold recalled
  cases registry.answer? r.canonical <;> simp

/-! ## All questions are answered -/

namespace Schema

theorem bind_eq_ok {α β : Type} {first : Except Fault α} {next : α → Except Fault β} {value : β}
    (h : first >>= next = .ok value) : ∃ middle, first = .ok middle ∧ next middle = .ok value := by
  cases first with
  | error fault => cases h
  | ok middle => exact ⟨middle, rfl, h⟩

theorem bind_pure_eq_ok {α β : Type} {first : Except Fault α} {f : α → β} {value : β}
    (h : (first >>= fun middle => pure (f middle)) = .ok value) :
    ∃ middle, first = .ok middle ∧ f middle = value := by
  obtain ⟨middle, hfirst, hpure⟩ := bind_eq_ok h
  exact ⟨middle, hfirst, Except.ok.inj hpure⟩

section Answered

variable {ask : Question → Except Fault TypeExpr}

mutual

/-- If a schema has a type, all its questions have been answered. -/
theorem answered_of_typeBy : ∀ (schema : Schema) {type : TypeExpr},
    schema.typeBy ask = .ok type → ∀ q ∈ schema.questions, ∃ answer, ask q = .ok answer
  | malformed _ _, type, h, q, hq => by
    rw [List.mem_singleton.mp hq]
    exact ⟨type, h⟩
  | reference _, type, h, q, hq => by
    rw [List.mem_singleton.mp hq]
    exact ⟨type, h⟩
  | allOf members, _, h, q, hq => by
    obtain ⟨types, htypes, -⟩ := bind_eq_ok h
    exact answered_of_typesBy members htypes q hq
  | anyOf members, _, h, q, hq => by
    obtain ⟨types, htypes, -⟩ := bind_eq_ok h
    exact answered_of_typesBy members htypes q hq
  | nullable schema, _, h, q, hq => by
    obtain ⟨inner, hinner, -⟩ := bind_eq_ok h
    exact answered_of_typeBy schema hinner q hq
  | exactly _, _, _, q, hq => absurd hq List.not_mem_nil
  | text _, type, h, q, hq => by
    rw [List.mem_singleton.mp hq]
    exact ⟨type, h⟩
  | array items, _, h, q, hq => by
    obtain ⟨inner, hinner, -⟩ := bind_eq_ok h
    exact answered_of_typeBy items hinner q hq
  | tuple items, _, h, q, hq => by
    obtain ⟨types, htypes, -⟩ := bind_eq_ok h
    exact answered_of_typesBy items htypes q hq
  | dictionary values, _, h, q, hq => by
    obtain ⟨inner, hinner, -⟩ := bind_eq_ok h
    exact answered_of_typeBy values hinner q hq
  | record fields, _, h, q, hq => by
    rw [typeBy] at h
    obtain ⟨types, htypes, -⟩ := bind_eq_ok h
    exact answered_of_fieldTypesBy fields htypes q hq

theorem answered_of_typesBy : ∀ (schemas : List Schema) {types : List TypeExpr},
    typesBy ask schemas = .ok types → ∀ q ∈ listQuestions schemas, ∃ answer, ask q = .ok answer
  | [], _, _, q, hq => absurd hq List.not_mem_nil
  | schema :: rest, _, h, q, hq => by
    obtain ⟨type, htype, h⟩ := bind_eq_ok h
    obtain ⟨types, htypes, -⟩ := bind_eq_ok h
    rcases List.mem_append.mp hq with hfirst | hrest
    · exact answered_of_typeBy schema htype q hfirst
    · exact answered_of_typesBy rest htypes q hrest

theorem answered_of_fieldTypesBy : ∀ (fields : List (FieldLabel × Schema))
    {types : List (FieldLabel × TypeExpr)}, fieldTypesBy ask fields = .ok types →
      ∀ q ∈ fieldQuestions fields, ∃ answer, ask q = .ok answer
  | [], _, _, q, hq => absurd hq List.not_mem_nil
  | (label, schema) :: rest, _, h, q, hq => by
    obtain ⟨type, htype, h⟩ := bind_eq_ok h
    obtain ⟨types, htypes, -⟩ := bind_eq_ok h
    rcases List.mem_append.mp hq with hfirst | hrest
    · exact answered_of_typeBy schema htype q hfirst
    · exact answered_of_fieldTypesBy rest htypes q hrest

end

end Answered

end Schema

/-- Whether a question that is asked in a document makes sense: nothing is malformed, and a written
reference denotes one. -/
def Schema.Question.Answerable (document : String) : Schema.Question → Prop
  | malformed _ _ => False
  | reference target => ∃ r, Reference.parse target document = .ok r
  | text _ => True

namespace Surroundings

variable {s : Surroundings} {r inner : Reference}

theorem mem_links : inner ∈ s.links r ↔ ∃ node, s.store.resolve r = .ok node ∧
    ∃ q ∈ (Schema.ofJson r node).questions, inner ∈ q.references r.document := by
  unfold links
  cases s.store.resolve r with
  | error fault => simp
  | ok node => simp

/-- The target of a reference is found and can be read, and so can all references written in it. -/
def Readable (s : Surroundings) (r : Reference) : Prop :=
  ∃ node, s.store.resolve r = .ok node ∧
    ∀ q ∈ (Schema.ofJson r node).questions, q.Answerable r.document

/-- A reference that is written in the target of another one leads to whatever that one leads to. -/
def LeadsTo (s : Surroundings) : Reference → Reference → Prop :=
  Relation.ReflTransGen fun r inner => inner ∈ s.links r

/-- If a target has a type, it can be read, and the references written in it have results. -/
theorem readable_of_targetType {resolve : Reference → Except Fault TypeExpr} {type : TypeExpr}
    (h : s.targetType resolve r = .ok type) :
    s.Readable r ∧ ∀ inner ∈ s.links r, ∃ answer, resolve inner = .ok answer := by
  obtain ⟨node, hnode, htype⟩ := Schema.bind_eq_ok h
  have hanswered := Schema.answered_of_typeBy _ htype
  refine ⟨⟨node, hnode, fun q hq => ?_⟩, fun inner hinner => ?_⟩
  · obtain ⟨answer, hanswer⟩ := hanswered q hq
    cases q with
    | malformed location reason => cases hanswer
    | text format => trivial
    | reference target =>
      obtain ⟨inner, hparse, -⟩ := Schema.bind_eq_ok hanswer
      exact ⟨inner, hparse⟩
  · obtain ⟨found, hfound, q, hq, hreferences⟩ := mem_links.mp hinner
    obtain rfl : found = node := by
      rw [hnode] at hfound
      cases hfound
      rfl
    obtain ⟨target, rfl, hparse⟩ := Schema.Question.mem_references hreferences
    obtain ⟨answer, hanswer⟩ := hanswered _ hq
    simp only [Surroundings.answer, hparse] at hanswer
    exact ⟨answer, hanswer⟩

end Surroundings

/-! ## Elaborations -/

namespace Session

theorem Grows.surroundings_eq {before after : Session} (h : before.Grows after) :
    after.surroundings = before.surroundings := by
  rw [h.same]
  rfl

/-- What a step gives is a value that is computed from the answers of any later registry. -/
def Recalls (s : Surroundings) (document : String) (later : Registry) (α : Type) (step : Run α)
    (value : Except Fault α) : Prop :=
  ∀ session result final, session.surroundings = s → session.current = document →
    step session = .ok result final →
      session.Grows final ∧ (final.registry.Keeps later → value = .ok result)

section Recalls

variable {s : Surroundings} {document : String} {later : Registry}
  {resolve : Reference → Run TypeExpr}

theorem relates_recalls : Schema.Relates (Recalls s document later) where
  pure value session result final _ _ h := by
    obtain ⟨rfl, rfl⟩ := Run.pure_ok h
    exact ⟨.refl _, fun _ => rfl⟩
  bind := by
    intro α β x y f g hfirst hsecond session result final hs hcurrent h
    obtain ⟨value, middle, hx, hf⟩ := Run.bind_ok h
    obtain ⟨hgrows, hvalue⟩ := hfirst session value middle hs hcurrent hx
    have hmiddle : middle.current = document := by
      rw [hgrows.same]
      exact hcurrent
    obtain ⟨hlater, hresult⟩ :=
      hsecond value middle result final (hgrows.surroundings_eq.trans hs) hmiddle hf
    refine ⟨hgrows.trans hlater, fun hkeeps => ?_⟩
    rw [hvalue (hlater.registry.keeps.trans hkeeps)]
    exact hresult hkeeps

theorem recalls_answer (hgrows : ∀ r, (resolve r).Obeys Grows)
    (hanswered : ∀ r session answer final, resolve r session = .ok answer final →
      final.registry.answer? r.canonical = some answer) (q : Schema.Question) :
    Recalls s document later TypeExpr (q.answer resolve) (s.answer later.recalled document q) := by
  intro session result final hs hcurrent h
  cases q with
  | malformed location reason => cases h
  | reference target =>
    obtain ⟨r, middle, hread, hresolve⟩ := Run.bind_ok h
    obtain ⟨hparse, rfl⟩ := Schema.readReference_ok hread
    have hafter := hgrows r middle
    rw [Run.after_of_ok hresolve] at hafter
    refine ⟨hafter, fun hkeeps => ?_⟩
    have hrecall : later.recalled r = .ok result :=
      Registry.recalled_eq_ok.mpr (hkeeps.answers _ _ (hanswered r middle result final hresolve))
    have hparse : Reference.parse target document = .ok r := hcurrent ▸ hparse
    simp only [Surroundings.answer, hparse]
    exact hrecall
  | text format =>
    change Schema.textType format session = .ok result final at h
    have hafter := textType_obeys format session
    have houtcome := outcome_textType format session
    rw [Run.after_of_ok h] at hafter
    rw [h, hs] at houtcome
    exact ⟨hafter, fun _ => houtcome.symm⟩

/-- What an elaboration has given, later answers give again. -/
theorem typeBy_of_elaborate (hgrows : ∀ r, (resolve r).Obeys Grows)
    (hanswered : ∀ r session answer final, resolve r session = .ok answer final →
      final.registry.answer? r.canonical = some answer)
    {schema : Schema} {session final : Session} {type : TypeExpr}
    (h : schema.elaborate resolve session = .ok type final)
    (hkeeps : final.registry.Keeps later) :
    schema.typeBy (session.surroundings.answer later.recalled session.current) = .ok type := by
  rw [Schema.elaborate_eq_typeBy] at h
  obtain ⟨-, hvalue⟩ := relates_recalls.typeBy schema
    (fun q _ => recalls_answer hgrows hanswered q) session type final rfl rfl h
  exact hvalue hkeeps

/-- What is read again is put together from the present answers. -/
theorem Rereads.targetType {session : Session} {r : Reference} {type : TypeExpr}
    (h : session.Rereads r type) :
    session.surroundings.targetType session.registry.recalled r = .ok type := by
  obtain ⟨node, hnode, hread⟩ := h
  have htype := typeBy_of_elaborate (resolveWithin_obeys 0 none)
    (fun r session answer final h => (resolveWithin_found h).answered)
    (hread session.registry 0 (.refl _)) (.refl _)
  have hstore : session.surroundings.store.resolve r = .ok node := hnode
  unfold Surroundings.targetType
  rw [hstore]
  exact htype

/-- What is remembered of a reference is put together from the present answers. -/
theorem Coherent.targetType {session : Session} (h : session.Coherent) {r : Reference}
    (hremembers : session.registry.Remembers r) :
    ∃ type, session.surroundings.targetType session.registry.recalled r = .ok type := by
  rcases hremembers with ⟨model, hmodel⟩ | ⟨type, htype⟩
  · exact ⟨model.body, (h.declared r model hmodel).targetType⟩
  · exact ⟨type, (h.inlined r type htype).targetType⟩

end Recalls

end Session

end SchemaTypes
