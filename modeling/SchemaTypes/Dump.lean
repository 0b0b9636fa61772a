import SchemaTypes.Registry
import SchemaTypes.TypeExpr.Json

set_option autoImplicit false

/-!
# Dumps

What a session hands over in the end: the declarations in the order in which they were completed,
and the helpers that they need, by import path.
-/

namespace SchemaTypes

/-- A declaration as JSON. -/
def Model.toJson (m : Model) : Json :=
  .object
    [("reference", .string m.reference.canonical),
      ("name", .string m.name),
      ("declaration", m.declaration.toJson),
      ("import_path", Json.ofOption m.importPath)]

/-- The output of a session. -/
structure Dump where
  /-- The declarations by canonical reference, in the order of completion. -/
  models : OrderedMap String Model
  /-- The helpers by import path; paths and helpers rise. -/
  helpers : List (String × List String)
  deriving Repr, Inhabited

/-- What a registry hands over. -/
def Registry.dump (registry : Registry) : Dump := ⟨registry.models, registry.helpers⟩

namespace Dump

/-- The helpers of an import path as JSON. -/
def helperToJson (entry : String × List String) : String × Json :=
  (entry.1, .array (entry.2.map Json.string))

/-- A dump as JSON. -/
def toJson (dump : Dump) : Json :=
  .object
    [("models", .object (dump.models.map fun entry => (entry.1, entry.2.toJson))),
      ("opaque_imports", .object (dump.helpers.map helperToJson))]

end Dump

end SchemaTypes
