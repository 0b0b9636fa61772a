import SchemaTypes.Schema
import SchemaTypes.Session

set_option autoImplicit false

/-!
# Resolving references

A reference is resolved to a type.  Its target is read once in a session: if the type that comes out
contains a record, it becomes a declaration and the reference an identifier of it; any other type
stands for the reference itself.  Both are remembered.

A reference that is met again while its target is still being read gets its name at once and is
answered with that identifier; its declaration is then recursive.  A target that comes to nothing
but its own identifier and `null` is refused.  Whatever a failing reference has left behind in the
registry is taken back.
-/

namespace SchemaTypes

/-! ## From schemas to types -/

namespace Schema

/-- Strings of a format: those of a configured format are dates. -/
def textType (format : Option String) : Run TypeExpr := fun session =>
  match format with
  | none => .ok .string session
  | some format =>
    if session.config.isTemporal format then
      let date := session.config.dateType
      .ok (.provided date.displayName date.backingName)
        { session with
          registry := session.registry.recordHelper date.importPath date.backingName }
    else .ok .string session

/-- The reference that a written one means in the current document. -/
def readReference (target : String) : Run Reference := fun session =>
  match session.reference target with
  | .ok r => .ok r session
  | .error fault => .error fault session

mutual

/-- The type of a schema; `resolve` gives the types of the references in it. -/
def elaborate (resolve : Reference → Run TypeExpr) : Schema → Run TypeExpr
  | malformed location reason => throw (.malformedSchema location.canonical reason)
  | reference target => do
    let r ← readReference target
    resolve r
  | allOf members => do
    let types ← elaborateAll resolve members
    return TypeExpr.intersectionOf types
  | anyOf members => do
    let types ← elaborateAll resolve members
    return TypeExpr.unionOf types
  | nullable schema => do
    let type ← elaborate resolve schema
    return type.nullable
  | exactly type => return type
  | text format => textType format
  | array items => do
    let type ← elaborate resolve items
    return TypeExpr.array type
  | tuple items => do
    let types ← elaborateAll resolve items
    return TypeExpr.tuple types
  | dictionary values => do
    let type ← elaborate resolve values
    return TypeExpr.dictionary type
  | record fields => do
    let types ← elaborateFields resolve fields
    return TypeExpr.record types

/-- The types of schemas, in order, up to the first fault. -/
def elaborateAll (resolve : Reference → Run TypeExpr) : List Schema → Run (List TypeExpr)
  | [] => return []
  | schema :: rest => do
    let type ← elaborate resolve schema
    let types ← elaborateAll resolve rest
    return type :: types

/-- The types of fields, in order, up to the first fault. -/
def elaborateFields (resolve : Reference → Run TypeExpr) :
    List (FieldLabel × Schema) → Run (List (FieldLabel × TypeExpr))
  | [] => return []
  | (label, schema) :: rest => do
    let type ← elaborate resolve schema
    let types ← elaborateFields resolve rest
    return (label, type) :: types

end

end Schema

namespace Session

/-! ## From types to declarations -/

/-- Whether a body says nothing but the identifier being defined and `null`. -/
def isUnproductive (own : TypeExpr) : TypeExpr → Bool
  | .union members => members.all fun m => m.same own || m.same .null
  | .intersection members => members.all fun m => m.same own || m.same .null
  | body => body.same own

/-- Closes a reference whose name was fixed while it was open. -/
def declareRecursive (r : Reference) (name : ModelName) (body : TypeExpr) : Run TypeExpr :=
  fun session =>
    if isUnproductive name.identifier body then
      .error (.malformedSchema r.canonical "reference cycle without a concrete type") session
    else
      .ok name.identifier
        { session with
          registry := session.registry.addModel r name (.recursive name.name body) }

/-- Names the type of a reference if it is complex enough, and remembers it in either case. -/
def declare (r : Reference) (policy : NamingPolicy) (type : TypeExpr) : Run TypeExpr :=
  fun session =>
    if type.qualifies then
      match session.registry.assignName policy r r.canonical with
      | .error fault => .error fault session
      | .ok (name, registry) =>
        .ok name.identifier { session with registry := registry.addModel r name type }
    else
      .ok type
        { session with registry := session.registry.recordInlined r.canonical type }

/-- Closes a reference with the type of its target: gives the identifier of its declaration, or the
type if it gets none. -/
def materialize (r : Reference) (type : TypeExpr) : Run TypeExpr := fun session =>
  match session.registry.lookup r with
  | some model => .ok model.identifier session
  | none =>
    let (entry, registry) := session.registry.finish r.canonical
    let session := { session with registry := registry }
    match entry with
    | none => declare r (session.defaultPolicy r) type session
    | some ⟨policy, none⟩ => declare r policy type session
    | some ⟨_, some name⟩ => declareRecursive r name type session

/-! ## References -/

/-- What is already known of a reference: its identifier, its inlined type, or the name it gets
because it is open. -/
def known (r : Reference) : Run (Option TypeExpr) := fun session =>
  match session.registry.lookup r with
  | some model => .ok (some model.identifier) session
  | none =>
    match session.registry.inlined.get? r.canonical with
    | some type => .ok (some type) session
    | none =>
      match session.registry.reserve r with
      | .error fault => .error fault session
      | .ok none => .ok none session
      | .ok (some (name, registry)) =>
        .ok (some name.identifier) { session with registry := registry }

/-- The type of the node that a reference names, read in the reference's document. -/
def readTarget (resolve : Reference → Run TypeExpr) (r : Reference) : Run TypeExpr :=
  fun session =>
    match session.store.resolve r with
    | .error fault => .error fault session
    | .ok node =>
      Run.inDocument r.document ((Schema.ofJson r node).elaborate resolve) session

/-- Opens a reference, reads its target and closes it; undone if that fails. -/
def resolveTarget (resolve : Reference → Run TypeExpr) (policy : Option NamingPolicy)
    (r : Reference) : Run TypeExpr :=
  Run.undoOnFault do
    let session ← get
    Run.modifyRegistry (Registry.begin · r.canonical (policy.getD (session.defaultPolicy r)))
    let type ← readTarget resolve r
    materialize r type

/-- What is already known of a reference, or else what a step finds out. -/
def knownOr (r : Reference) (step : Run TypeExpr) : Run TypeExpr := do
  match ← known r with
  | some type => return type
  | none => step

/-- Resolves a reference; references may nest `bound` deep. -/
def resolveWithin : Nat → Option NamingPolicy → Reference → Run TypeExpr
  | 0, _, r => knownOr r (throw .nestingExhausted)
  | bound + 1, policy, r => knownOr r (resolveTarget (resolveWithin bound none) policy r)

/-- Resolves a reference to a type: the identifier of its declaration, or its own type.  Without a
policy the declaration gets the session's default name. -/
def resolveReference (r : Reference) (policy : Option NamingPolicy) : Run TypeExpr :=
  fun session => resolveWithin session.nestingBound policy r session

/-- Resolves a written reference, relative to the root document. -/
def resolveSchema (raw : String) (policy : NamingPolicy) : Run TypeExpr := fun session =>
  match Reference.parse raw session.root with
  | .error fault => .error fault session
  | .ok r => resolveReference r (some policy) session

/-- The type of a node that stands at a location; written references in it are relative to the
current document. -/
def parseNode (node : Json) (location : Reference) : Run TypeExpr := fun session =>
  (Schema.ofJson location node).elaborate (resolveWithin session.nestingBound none) session

end Session

end SchemaTypes
