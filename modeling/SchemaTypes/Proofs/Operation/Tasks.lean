import SchemaTypes.Generate
import SchemaTypes.Proofs.Enumeration

set_option autoImplicit false

/-!
# What a document asks for

The schemas to generate, said by where they stand: the entries of `components/schemas`, and for each
path, each method and each part of the operation there the schema of that part.  A part whose schema
is looked for and not found is asked for as well, at the operation, and only a part that has no
schema is not.  The tasks enumerate all this, in the order of the document and of the methods.
-/

namespace SchemaTypes

/-! ## Components -/

/-- A task for the entry of `components/schemas` at a position. -/
inductive Task.IsComponent (store : Store) (document : String) : Address → Task → Prop
  | entry {members : OrderedMap String Json} {place : Nat} {name : String} {node : Json}
      (schemas : store.resolve (((Reference.root document).child "components").child "schemas") =
        .ok (.object members))
      (stands : members[place]? = some (name, node)) :
      IsComponent store document [place]
        ⟨.component name,
          (((Reference.root document).child "components").child "schemas").child name,
          .ok .component⟩

/-- The tasks of the components are those of the entries, in order. -/
theorem Task.enumerates_components (store : Store) (document : String) :
    Enumerates (Task.IsComponent store document) (Task.components store document) := by
  unfold Task.components
  simp only
  split
  · rename_i members hschemas
    apply ((Enumerates.self members).map _).congr
    intro address task
    constructor
    · rintro ⟨entry, ⟨place, rfl, hstands⟩, rfl⟩
      exact .entry hschemas hstands
    · rintro ⟨schemas, stands⟩
      rw [hschemas] at schemas
      cases schemas
      exact ⟨_, ⟨_, rfl, stands⟩, rfl⟩
  · rename_i hother
    apply Enumerates.nil
    rintro address task ⟨schemas, -⟩
    exact hother _ schemas

/-! ## Operations -/

/-- An operation stands at a path that is an object, by the position of the path, and under one of
the eight methods that is an object, by the position of the method among them.  It is named by its
id, or after method and path. -/
inductive Operation.StandsAt (store : Store) (document : String) : Address → Operation → Prop
  | method {members item node : OrderedMap String Json} {place turn : Nat} {path method : String}
      (paths : store.resolve ((Reference.root document).child "paths") = .ok (.object members))
      (stands : members[place]? = some (path, .object item))
      (turns : ["get", "put", "post", "delete", "options", "head", "patch", "trace"][turn]? =
        some method)
      (found : OrderedMap.get? item method = some (.object node)) :
      StandsAt store document [place, turn]
        ⟨((Reference.root document).child "paths").child path, .object item,
          (((Reference.root document).child "paths").child path).child method, .object node,
          ((Json.object node).stringMember? "operationId").getD
            (NamingPolicy.derivedOperationName method path)⟩

namespace Operation

theorem ofMethod?_eq_some_iff {path method : String} {itemPlace : Reference} {value : Json}
    {operation : Operation} : ofMethod? path itemPlace value method = some operation ↔
      ∃ item node, value = .object item ∧ OrderedMap.get? item method = some (.object node) ∧
        operation = ⟨itemPlace, .object item, itemPlace.child method, .object node,
          ((Json.object node).stringMember? "operationId").getD
            (NamingPolicy.derivedOperationName method path)⟩ := by
  unfold ofMethod? Json.member?
  constructor
  · intro h
    cases value with
    | object item =>
      dsimp only at h
      split at h
      · rename_i node hnode
        cases h
        exact ⟨item, node, rfl, hnode, rfl⟩
      · cases h
    | _ => cases h
  · rintro ⟨item, node, rfl, hnode, rfl⟩
    simp [hnode]

/-- The operations of a document are those that stand somewhere in it, in order. -/
theorem enumerates_ofDocument (store : Store) (document : String) :
    Enumerates (StandsAt store document) (ofDocument store document) := by
  unfold ofDocument
  simp only
  split
  · rename_i members hpaths
    have hdepth : ∀ {address : Address} {entry : String × Json},
        (∃ place, address = [place] ∧ members[place]? = some entry) → address.length = 1 := by
      rintro address entry ⟨place, rfl, -⟩
      rfl
    refine ((Enumerates.self members).flatMap hdepth fun entry =>
      (Enumerates.self methods).filterMap _).congr fun address operation => ?_
    constructor
    · rintro ⟨outer, ⟨path, value⟩, below, ⟨place, rfl, hstands⟩,
        ⟨method, ⟨turn, rfl, hturn⟩, hmethod⟩, rfl⟩
      obtain ⟨item, node, rfl, hnode, rfl⟩ := ofMethod?_eq_some_iff.mp hmethod
      exact .method hpaths hstands hturn hnode
    · rintro ⟨paths, stands, turns, found⟩
      rw [hpaths] at paths
      cases paths
      exact ⟨[_], _, [_], ⟨_, rfl, stands⟩,
        ⟨_, ⟨_, rfl, turns⟩, ofMethod?_eq_some_iff.mpr ⟨_, _, rfl, found, rfl⟩⟩, rfl⟩
  · rename_i hother
    apply Enumerates.nil
    rintro address operation ⟨paths, -, -, -⟩
    exact hother _ paths

end Operation

/-! ## Parts of an operation -/

/-- The task for a part of an operation: at its schema, or, if the schema was looked for and not
found, at the operation.  There is none for a part without a schema. -/
inductive Task.IsFor (config : Config) (operation : Operation) (part : OperationPart) :
    Except Fault (Option Reference) → Task → Prop
  | located (place : Reference) :
      IsFor config operation part (.ok (some place))
        ⟨.operation operation.name part, place,
          .ok (Task.policyOf operation part config.schemaSuffix place)⟩
  | unlocated (fault : Fault) :
      IsFor config operation part (.error fault)
        ⟨.operation operation.name part, operation.place, .error fault⟩

namespace Operation

variable {store : Store} {config : Config} {operation : Operation}

/-- A task for a part of an operation: the parameters that apply come first, then the body if there
is one, then the responses. -/
inductive Asks (store : Store) (config : Config) (operation : Operation) : Address → Task → Prop
  | parameter {index : Nat} {entry : ParameterEntry} {task : Task}
      (applies : (operation.parameters store)[index]? = some entry)
      (asked : Task.IsFor config operation (.parameter index)
        (entry.place.bind (Media.schemaAt store config)) task) :
      Asks store config operation [0, index] task
  | requestBody {node : Json} {task : Task}
      (present : operation.node.member? "requestBody" = some node)
      (asked : Task.IsFor config operation .requestBody
        (Media.locate store config (operation.place.child "requestBody")) task) :
      Asks store config operation [1] task
  | response {members : OrderedMap String Json} {place : Nat} {code : String} {node : Json}
      {task : Task}
      (responses : operation.node.member? "responses" = some (.object members))
      (stands : members[place]? = some (code, node))
      (asked : Task.IsFor config operation (.response code)
        (Media.locate store config ((operation.place.child "responses").child code)) task) :
      Asks store config operation [2, place] task

/-- The task that is made for a part is the one for it. -/
theorem isFor_iff {part : OperationPart} {place : Except Fault (Option Reference)} {task : Task} :
    (request? part place).map (Task.ofRequest config operation) = some task ↔
      Task.IsFor config operation part place task := by
  constructor
  · intro h
    match place, h with
    | .ok (some place), h =>
      cases h
      exact .located place
    | .ok none, h => cases h
    | .error fault, h =>
      cases h
      exact .unlocated fault
  · rintro (place | fault)
    · rfl
    · rfl

/-- The tasks for parts of one kind stand where the parts do. -/
theorem enumerates_parts {α : Type} {Stands : Address → α → Prop} {items : List α}
    (h : Enumerates Stands items) (part : α → OperationPart)
    (place : α → Except Fault (Option Reference)) :
    Enumerates
      (fun address task => ∃ item, Stands address item ∧
        Task.IsFor config operation (part item) (place item) task)
      ((items.filterMap fun item => request? (part item) (place item)).map
        (Task.ofRequest config operation)) := by
  rw [List.map_filterMap]
  apply (h.filterMap _).congr
  intro address task
  simp only [isFor_iff]

theorem enumerates_parameters (store : Store) (config : Config) (operation : Operation) :
    Enumerates
      (fun address task => ∃ entry : ParameterEntry × Nat,
        (∃ place, address = [place] ∧ (operation.parameters store).zipIdx[place]? = some entry) ∧
        Task.IsFor config operation (.parameter entry.2)
          (entry.1.place.bind (Media.schemaAt store config)) task)
      ((operation.parameterRequests store config).map (Task.ofRequest config operation)) :=
  enumerates_parts (.self _) _ _

theorem enumerates_body (store : Store) (config : Config) (operation : Operation) :
    Enumerates
      (fun address task => ∃ node,
        (address = [] ∧ operation.node.member? "requestBody" = some node) ∧
        Task.IsFor config operation .requestBody
          (Media.locate store config (operation.place.child "requestBody")) task)
      ((operation.bodyRequests store config).map (Task.ofRequest config operation)) := by
  have hbody : operation.bodyRequests store config =
      (operation.node.member? "requestBody").toList.filterMap fun _ =>
        request? .requestBody
          (Media.locate store config (operation.place.child "requestBody")) := by
    unfold bodyRequests
    cases operation.node.member? "requestBody" with
    | none => rfl
    | some node =>
      simp only [Option.toList_some, List.filterMap_cons, List.filterMap_nil]
      cases request? .requestBody
        (Media.locate store config (operation.place.child "requestBody")) <;> rfl
  rw [hbody]
  exact enumerates_parts (.option _) (fun _ => .requestBody) _

theorem enumerates_responses (store : Store) (config : Config) (operation : Operation) :
    Enumerates
      (fun address task => ∃ members, operation.node.member? "responses" = some (.object members) ∧
        ∃ entry : String × Json, (∃ place, address = [place] ∧ members[place]? = some entry) ∧
          Task.IsFor config operation (.response entry.1)
            (Media.locate store config ((operation.place.child "responses").child entry.1)) task)
      ((operation.responseRequests store config).map (Task.ofRequest config operation)) := by
  unfold responseRequests
  split
  · rename_i members hresponses
    have hmembers := Json.bind_members?_eq_some_iff.mp hresponses
    refine (enumerates_parts (.self members) (fun entry => .response entry.1) _).congr ?_
    intro address task
    constructor
    · intro hasked
      exact ⟨members, hmembers, hasked⟩
    · rintro ⟨others, hothers, hasked⟩
      rw [hmembers] at hothers
      cases hothers
      exact hasked
  · rename_i hnone
    apply Enumerates.nil
    rintro address task ⟨members, hmembers, -⟩
    rw [hmembers] at hnone
    cases hnone

/-- The tasks of an operation are those that it asks for, in order. -/
theorem enumerates_tasks (store : Store) (config : Config) (operation : Operation) :
    Enumerates (Asks store config operation)
      ((operation.requests store config).map (Task.ofRequest config operation)) := by
  have hfirst := (enumerates_parameters store config operation).under 0
  have hsecond := (enumerates_body store config operation).under 1
  have hthird := (enumerates_responses store config operation).under 2
  unfold requests
  rw [List.map_append, List.map_append]
  refine ((hfirst.append hsecond ?_).append hthird ?_).congr fun address task => ?_
  · rintro address other task task' ⟨below, rfl, -⟩ ⟨below', rfl, -⟩
    exact .rel (by decide)
  · rintro address other task task' (⟨below, rfl, -⟩ | ⟨below, rfl, -⟩) ⟨below', rfl, -⟩
    · exact .rel (by decide)
    · exact .rel (by decide)
  · constructor
    · rintro ((⟨below, rfl, ⟨entry, index⟩, ⟨place, rfl, hentry⟩, hasked⟩ |
        ⟨below, rfl, node, ⟨rfl, hpresent⟩, hasked⟩) |
        ⟨below, rfl, members, hresponses, ⟨code, node⟩, ⟨place, rfl, hstands⟩, hasked⟩)
      · rw [List.getElem?_zipIdx] at hentry
        obtain ⟨found, hfound, heq⟩ := Option.map_eq_some_iff.mp hentry
        cases heq
        rw [Nat.zero_add] at hasked
        exact .parameter hfound hasked
      · exact .requestBody hpresent hasked
      · exact .response hresponses hstands hasked
    · rintro (⟨applies, hasked⟩ | ⟨present, hasked⟩ | ⟨responses, stands, hasked⟩)
      · rename_i index entry
        refine Or.inl (Or.inl ⟨[index], rfl, (entry, index), ⟨index, rfl, ?_⟩, hasked⟩)
        rw [List.getElem?_zipIdx, applies, Nat.zero_add]
        rfl
      · exact Or.inl (Or.inr ⟨[], rfl, _, ⟨rfl, present⟩, hasked⟩)
      · exact Or.inr ⟨[_], rfl, _, responses, _, ⟨_, rfl, stands⟩, hasked⟩

end Operation

/-- A task for a part of an operation of a document, at the address of the operation and below that
of the part. -/
inductive Task.IsOperational (store : Store) (config : Config) (document : String) :
    Address → Task → Prop
  | part {outer below : Address} {operation : Operation} {task : Task}
      (stands : Operation.StandsAt store document outer operation)
      (asks : operation.Asks store config below task) :
      IsOperational store config document (outer ++ below) task

/-- The tasks of the operations are those that they ask for, in order. -/
theorem Task.enumerates_operations (store : Store) (config : Config) (document : String) :
    Enumerates (Task.IsOperational store config document)
      (Task.operations store config document) := by
  have hdepth : ∀ {address operation},
      Operation.StandsAt store document address operation → address.length = 2 := by
    rintro address operation ⟨-, -, -, -⟩
    rfl
  refine ((Operation.enumerates_ofDocument store document).flatMap hdepth fun operation =>
    operation.enumerates_tasks store config).congr fun address task => ?_
  constructor
  · rintro ⟨outer, operation, below, hstands, hasks, rfl⟩
    exact .part hstands hasks
  · rintro ⟨hstands, hasks⟩
    exact ⟨_, _, _, hstands, hasks, rfl⟩

end SchemaTypes
