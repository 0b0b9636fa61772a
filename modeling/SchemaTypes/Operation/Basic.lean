import SchemaTypes.Naming.Policy
import SchemaTypes.Operation.Media
import SchemaTypes.Operation.Parameter

set_option autoImplicit false

/-!
# Operations

The operations of a document: one for every path item and every method in it, the paths in the order
of the document and the methods in a fixed order.  An operation asks for the schemas of its
parameters, of its request body and of its responses.
-/

namespace SchemaTypes

/-- An operation of a document. -/
structure Operation where
  /-- The place of its path item. -/
  itemPlace : Reference
  /-- Its path item, an object. -/
  item : Json
  /-- Its own place. -/
  place : Reference
  /-- The operation, an object. -/
  node : Json
  /-- Its id, or a name made of its method and path. -/
  name : String
  deriving Repr, Inhabited

/-- A schema that an operation asks for. -/
structure OperationRequest where
  part : OperationPart
  /-- Where the schema stands, or why it was not found. -/
  place : Except Fault Reference

namespace Operation

/-- The methods of a path item, in the order in which they are looked at. -/
def methods : List String :=
  ["get", "put", "post", "delete", "options", "head", "patch", "trace"]

/-- The operation of a path item under a method; only an object is one. -/
def ofMethod? (path : String) (itemPlace : Reference) (item : Json) (method : String) :
    Option Operation :=
  match item.member? method with
  | some (.object members) =>
    let node := Json.object members
    let name :=
      (node.stringMember? "operationId").getD (NamingPolicy.derivedOperationName method path)
    some ⟨itemPlace, item, itemPlace.child method, node, name⟩
  | _ => none

/-- The operations of a path. -/
def ofPath (paths : Reference) (path : String) (item : Json) : List Operation :=
  methods.filterMap (ofMethod? path (paths.child path) item)

/-- The operations of a document. -/
def ofDocument (store : Store) (document : String) : List Operation :=
  let paths := (Reference.root document).child "paths"
  match store.resolve paths with
  | .ok (.object members) => members.flatMap fun entry => ofPath paths entry.1 entry.2
  | _ => []

/-- The parameters that apply to an operation: those of its path item, overridden and followed by
its own. -/
def parameters (store : Store) (operation : Operation) : List ParameterEntry :=
  ParameterEntry.merge
    (ParameterEntry.ofOwner store operation.itemPlace operation.item ++
      ParameterEntry.ofOwner store operation.place operation.node)

/-- The request for a part, unless it has no schema. -/
def request? (part : OperationPart) (place : Except Fault (Option Reference)) :
    Option OperationRequest :=
  match place with
  | .ok (some place) => some ⟨part, .ok place⟩
  | .ok none => none
  | .error fault => some ⟨part, .error fault⟩

/-- The request for a parameter, by its index among the parameters that apply. -/
def parameterRequest? (store : Store) (config : Config) (entry : ParameterEntry × Nat) :
    Option OperationRequest :=
  request? (.parameter entry.2) (entry.1.place.bind (Media.schemaAt store config))

/-- The requests for the parameters. -/
def parameterRequests (store : Store) (config : Config) (operation : Operation) :
    List OperationRequest :=
  (operation.parameters store).zipIdx.filterMap (parameterRequest? store config)

/-- The request for the body. -/
def bodyRequests (store : Store) (config : Config) (operation : Operation) :
    List OperationRequest :=
  match operation.node.member? "requestBody" with
  | some _ =>
    (request? .requestBody
      (Media.locate store config (operation.place.child "requestBody"))).toList
  | none => []

/-- The requests for the responses, in the order of the document. -/
def responseRequests (store : Store) (config : Config) (operation : Operation) :
    List OperationRequest :=
  match (operation.node.member? "responses").bind Json.members? with
  | some members =>
    members.filterMap fun entry =>
      request? (.response entry.1)
        (Media.locate store config ((operation.place.child "responses").child entry.1))
  | none => []

/-- Everything that an operation asks for. -/
def requests (store : Store) (config : Config) (operation : Operation) :
    List OperationRequest :=
  operation.parameterRequests store config ++ operation.bodyRequests store config ++
    operation.responseRequests store config

end Operation

end SchemaTypes
