import SchemaTypes.Json.Reader
import SchemaTypes.Reference
import SchemaTypes.Yaml.Value

set_option autoImplicit false

/-!
# Document stores

The documents that references may name, by their canonical ids, in the order of the ids.  A document
is registered once; a store only ever grows.
-/

namespace SchemaTypes

/-- The node that a path leads to.  A token names a member of an object or the place of an item. -/
def Json.walk? : Json → List String → Option Json
  | node, [] => some node
  | node, token :: rest =>
    match step? node token with
    | some next => walk? next rest
    | none => none
where
  /-- The node one step below. -/
  step? : Json → String → Option Json
    | .object members, token => OrderedMap.get? members token
    | .array items, token =>
      match Pointer.index? token with
      | some place => items[place]?
      | none => none
    | _, _ => none

/-- Documents by canonical id. -/
structure Store where
  /-- The documents, by rising id. -/
  documents : List (String × Json)
  deriving Repr, Inhabited

namespace Store

/-- The store without documents. -/
def empty : Store := ⟨[]⟩

/-- The document registered under `id`. -/
def get? (store : Store) (id : String) : Option Json := OrderedMap.get? store.documents id

/-- Whether a document is registered under `id`. -/
def contains (store : Store) (id : String) : Bool := (store.get? id).isSome

/-- The registered ids, rising. -/
def ids (store : Store) : List String := store.documents.map Prod.fst

/-- The number of documents. -/
def size (store : Store) : Nat := store.documents.length

/-- The number of nodes in all documents. -/
def nodeCount (store : Store) : Nat :=
  store.documents.foldr (fun entry count => entry.2.nodeCount + count) 0

/-- Puts an entry with a new id before the first greater id. -/
def place (id : String) (document : Json) : List (String × Json) → List (String × Json)
  | [] => [(id, document)]
  | (key, value) :: rest =>
    if id < key then (id, document) :: (key, value) :: rest
    else (key, value) :: place id document rest

/-- Registers a document.  Gives the canonical id it is registered under and the new store. -/
def insert (store : Store) (id : String) (document : Json) : Except Fault (String × Store) :=
  match DocumentId.canonical? id with
  | none => .error (.general ("Invalid document id '" ++ id ++ "'"))
  | some key =>
    if store.contains key then .error (.duplicateDocument key)
    else .ok (key, ⟨place key document store.documents⟩)

/-- Registers a document given as JSON text. -/
def insertJson (store : Store) (id text : String) : Except Fault (String × Store) :=
  match Json.readDocument? text with
  | none => .error (.general ("Failed to parse JSON document '" ++ id ++ "'"))
  | some document => store.insert id document

/-- Registers a document given as YAML text. -/
def insertYaml (store : Store) (id text : String) : Except Fault (String × Store) :=
  match Json.ofYaml? text with
  | none => .error (.general ("Failed to parse YAML document '" ++ id ++ "'"))
  | some document => store.insert id document

/-- The node that a reference names. -/
def resolve (store : Store) (r : Reference) : Except Fault Json :=
  match store.get? r.document with
  | none => .error (.unknownDocument r.document)
  | some document =>
    match document.walk? r.path with
    | none => .error (.unresolvedReference r.canonical)
    | some node => .ok node

end Store

end SchemaTypes
