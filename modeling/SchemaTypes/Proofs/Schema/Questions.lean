import SchemaTypes.Proofs.Run
import SchemaTypes.Proofs.Schema.Plain
import SchemaTypes.Resolve

set_option autoImplicit false

/-!
# Questions

What the type of a schema depends on is asked for in order: the references in it, the formats of its
strings, and the nodes that cannot be read, which have no answer.  `typeBy` puts the type together
in any kind of computation, from answers of that kind; elaborating a schema in a session is one
instance.  Two computations that do so are related by every relation that relates their answers and
that steps one after the other keep.
-/

namespace SchemaTypes.Schema

/-- What is asked for in order to put the type of a schema together. -/
inductive Question where
  /-- The type of a node that no rule can read. -/
  | malformed (location : Reference) (reason : String)
  /-- The type of a written reference. -/
  | reference (target : String)
  /-- The type of strings of a format. -/
  | text (format : Option String)

mutual

/-- The questions of a schema, in the order in which they are asked. -/
def questions : Schema → List Question
  | malformed location reason => [.malformed location reason]
  | reference target => [.reference target]
  | allOf members => listQuestions members
  | anyOf members => listQuestions members
  | nullable schema => questions schema
  | exactly _ => []
  | text format => [.text format]
  | array items => questions items
  | tuple items => listQuestions items
  | dictionary values => questions values
  | record fields => fieldQuestions fields

/-- The questions of a list of schemas. -/
def listQuestions : List Schema → List Question
  | [] => []
  | schema :: rest => questions schema ++ listQuestions rest

/-- The questions of the schemas of fields. -/
def fieldQuestions : List (FieldLabel × Schema) → List Question
  | [] => []
  | (_, schema) :: rest => questions schema ++ fieldQuestions rest

end

theorem mem_listQuestions {q : Question} {schemas : List Schema} :
    q ∈ listQuestions schemas ↔ ∃ s ∈ schemas, q ∈ s.questions := by
  induction schemas with
  | nil => simp [listQuestions]
  | cons schema rest ih => simp [listQuestions, ih]

theorem mem_fieldQuestions {q : Question} {fields : List (FieldLabel × Schema)} :
    q ∈ fieldQuestions fields ↔ ∃ f ∈ fields, q ∈ f.2.questions := by
  induction fields with
  | nil => simp [fieldQuestions]
  | cons field rest ih => simp [fieldQuestions, ih]

/-- To ask only for references with a property is itself a property that schemas which are read
have. -/
theorem closed_references (P : String → Prop) :
    Closed fun s => ∀ target, Question.reference target ∈ s.questions → P target where
  malformed _ _ _ h := by simp [questions] at h
  exactly _ _ h := by simp [questions] at h
  text _ _ h := by simp [questions] at h
  allOf h target hmem := by
    obtain ⟨s, hs, hq⟩ := mem_listQuestions.mp hmem
    exact h s hs target hq
  anyOf h target hmem := by
    obtain ⟨s, hs, hq⟩ := mem_listQuestions.mp hmem
    exact h s hs target hq
  nullable h := h
  array h := h
  tuple h target hmem := by
    obtain ⟨s, hs, hq⟩ := mem_listQuestions.mp hmem
    exact h s hs target hq
  dictionary h := h
  record h target hmem := by
    rw [questions] at hmem
    obtain ⟨f, hf, hq⟩ := mem_fieldQuestions.mp hmem
    exact h f hf target hq

/-- A reference that the schema of a node asks for is the `$ref` of a part of the node. -/
theorem exists_part_of_mem_questions {location : Reference} {node : Json} {target : String}
    (h : Question.reference target ∈ (ofJson location node).questions) :
    ∃ part, node.Descends part ∧ part.stringMember? "$ref" = some target := by
  let Written (target : String) : Prop :=
    ∃ part, node.Descends part ∧ part.stringMember? "$ref" = some target
  refine (closed_references Written).ofJson location node (fun part target hpart htarget => ?_)
    target h
  intro other hother
  obtain rfl : other = target := by simpa [questions] using hother
  exact ⟨part, hpart, htarget⟩

/-- The reference that a question which is asked in a document denotes, if it denotes one. -/
def Question.references (document : String) : Question → List Reference
  | reference target =>
    match Reference.parse target document with
    | .ok r => [r]
    | .error _ => []
  | _ => []

theorem Question.mem_references {document : String} {q : Question} {r : Reference}
    (h : r ∈ q.references document) :
    ∃ target, q = reference target ∧ Reference.parse target document = .ok r := by
  cases q with
  | malformed location reason => exact absurd h List.not_mem_nil
  | text format => exact absurd h List.not_mem_nil
  | reference target =>
    simp only [Question.references] at h
    split at h
    · rename_i hparse
      rw [List.mem_singleton.mp h]
      exact ⟨target, rfl, hparse⟩
    · exact absurd h List.not_mem_nil

/-! ## Types from answers -/

section TypeBy

variable {m : Type → Type} [Monad m]

mutual

/-- The type of a schema from the answers to its questions. -/
def typeBy (ask : Question → m TypeExpr) : Schema → m TypeExpr
  | malformed location reason => ask (.malformed location reason)
  | reference target => ask (.reference target)
  | allOf members => do
    let types ← typesBy ask members
    return TypeExpr.intersectionOf types
  | anyOf members => do
    let types ← typesBy ask members
    return TypeExpr.unionOf types
  | nullable schema => do
    let type ← typeBy ask schema
    return type.nullable
  | exactly type => return type
  | text format => ask (.text format)
  | array items => do
    let type ← typeBy ask items
    return TypeExpr.array type
  | tuple items => do
    let types ← typesBy ask items
    return TypeExpr.tuple types
  | dictionary values => do
    let type ← typeBy ask values
    return TypeExpr.dictionary type
  | record fields => do
    let types ← fieldTypesBy ask fields
    return TypeExpr.record types

/-- The types of schemas, in order. -/
def typesBy (ask : Question → m TypeExpr) : List Schema → m (List TypeExpr)
  | [] => return []
  | schema :: rest => do
    let type ← typeBy ask schema
    let types ← typesBy ask rest
    return type :: types

/-- The types of fields, in order. -/
def fieldTypesBy (ask : Question → m TypeExpr) :
    List (FieldLabel × Schema) → m (List (FieldLabel × TypeExpr))
  | [] => return []
  | (label, schema) :: rest => do
    let type ← typeBy ask schema
    let types ← fieldTypesBy ask rest
    return (label, type) :: types

end

end TypeBy

/-- The answer to a question in a session. -/
def Question.answer (resolve : Reference → Run TypeExpr) : Question → Run TypeExpr
  | malformed location reason => throw (.malformedSchema location.canonical reason)
  | reference target => do
    let r ← readReference target
    resolve r
  | text format => textType format

mutual

/-- Elaborating a schema asks its questions in the session. -/
theorem elaborate_eq_typeBy (resolve : Reference → Run TypeExpr) : ∀ schema : Schema,
    schema.elaborate resolve = schema.typeBy (Question.answer resolve)
  | malformed _ _ => rfl
  | reference _ => rfl
  | allOf members => by rw [elaborate, typeBy, elaborateAll_eq_typesBy resolve members]
  | anyOf members => by rw [elaborate, typeBy, elaborateAll_eq_typesBy resolve members]
  | nullable schema => by rw [elaborate, typeBy, elaborate_eq_typeBy resolve schema]
  | exactly _ => rfl
  | text _ => rfl
  | array items => by rw [elaborate, typeBy, elaborate_eq_typeBy resolve items]
  | tuple items => by rw [elaborate, typeBy, elaborateAll_eq_typesBy resolve items]
  | dictionary values => by rw [elaborate, typeBy, elaborate_eq_typeBy resolve values]
  | record fields => by rw [elaborate, typeBy, elaborateFields_eq_fieldTypesBy resolve fields]

theorem elaborateAll_eq_typesBy (resolve : Reference → Run TypeExpr) : ∀ schemas : List Schema,
    elaborateAll resolve schemas = typesBy (Question.answer resolve) schemas
  | [] => rfl
  | schema :: rest => by
    rw [elaborateAll, typesBy, elaborate_eq_typeBy resolve schema,
      elaborateAll_eq_typesBy resolve rest]

theorem elaborateFields_eq_fieldTypesBy (resolve : Reference → Run TypeExpr) :
    ∀ fields : List (FieldLabel × Schema),
      elaborateFields resolve fields = fieldTypesBy (Question.answer resolve) fields
  | [] => rfl
  | (label, schema) :: rest => by
    rw [elaborateFields, fieldTypesBy, elaborate_eq_typeBy resolve schema,
      elaborateFields_eq_fieldTypesBy resolve rest]

end

/-! ## Related computations -/

section Relates

variable {m n : Type → Type} [Monad m] [Monad n] {R : (α : Type) → m α → n α → Prop}

/-- A relation between two kinds of computations that steps one after the other keep. -/
structure Relates (R : (α : Type) → m α → n α → Prop) : Prop where
  pure : ∀ {α : Type} (value : α), R α (Pure.pure value) (Pure.pure value)
  bind : ∀ {α β : Type} {x : m α} {y : n α} {f : α → m β} {g : α → n β},
    R α x y → (∀ value, R β (f value) (g value)) → R β (x >>= f) (y >>= g)

mutual

/-- Types put together from related answers are related. -/
theorem Relates.typeBy (rules : Relates R) {ask : Question → m TypeExpr}
    {other : Question → n TypeExpr} : ∀ schema : Schema,
      (∀ q ∈ schema.questions, R _ (ask q) (other q)) →
        R _ (schema.typeBy ask) (schema.typeBy other)
  | malformed _ _, h => h _ (List.mem_singleton_self _)
  | reference _, h => h _ (List.mem_singleton_self _)
  | allOf members, h => rules.bind (rules.typesBy members h) fun _ => rules.pure _
  | anyOf members, h => rules.bind (rules.typesBy members h) fun _ => rules.pure _
  | nullable schema, h => rules.bind (rules.typeBy schema h) fun _ => rules.pure _
  | exactly _, _ => rules.pure _
  | text _, h => h _ (List.mem_singleton_self _)
  | array items, h => rules.bind (rules.typeBy items h) fun _ => rules.pure _
  | tuple items, h => rules.bind (rules.typesBy items h) fun _ => rules.pure _
  | dictionary values, h => rules.bind (rules.typeBy values h) fun _ => rules.pure _
  | record fields, h => by
    rw [questions] at h
    rw [Schema.typeBy, Schema.typeBy]
    exact rules.bind (rules.fieldTypesBy fields h) fun _ => rules.pure _

theorem Relates.typesBy (rules : Relates R) {ask : Question → m TypeExpr}
    {other : Question → n TypeExpr} : ∀ schemas : List Schema,
      (∀ q ∈ listQuestions schemas, R _ (ask q) (other q)) →
        R _ (Schema.typesBy ask schemas) (Schema.typesBy other schemas)
  | [], _ => rules.pure _
  | schema :: rest, h => by
    obtain ⟨hfirst, hrest⟩ := List.forall_mem_append.mp h
    exact rules.bind (rules.typeBy schema hfirst) fun _ =>
      rules.bind (rules.typesBy rest hrest) fun _ => rules.pure _

theorem Relates.fieldTypesBy (rules : Relates R) {ask : Question → m TypeExpr}
    {other : Question → n TypeExpr} : ∀ fields : List (FieldLabel × Schema),
      (∀ q ∈ fieldQuestions fields, R _ (ask q) (other q)) →
        R _ (Schema.fieldTypesBy ask fields) (Schema.fieldTypesBy other fields)
  | [], _ => rules.pure _
  | (label, schema) :: rest, h => by
    obtain ⟨hfirst, hrest⟩ := List.forall_mem_append.mp h
    exact rules.bind (rules.typeBy schema hfirst) fun _ =>
      rules.bind (rules.fieldTypesBy rest hrest) fun _ => rules.pure _

end

end Relates

end SchemaTypes.Schema
