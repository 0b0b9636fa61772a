import SchemaTypes.TypeExpr.Basic

set_option autoImplicit false

/-!
# Types as JSON

Every type is an object with its `kind` and, but for `unknown`, its `value`.  A literal stands for
itself.
-/

namespace SchemaTypes

/-- The name of a primitive type. -/
def Primitive.name : Primitive → String
  | .boolean => "boolean"
  | .number => "number"
  | .integer => "integer"
  | .string => "string"
  | .null => "null"

/-- A literal as JSON. -/
def Literal.toJson : Literal → Json
  | .string value => .string value
  | .number value => .number value
  | .boolean value => .bool value
  | .null => .null

/-- An optional text as JSON. -/
def Json.ofOption : Option String → Json
  | some text => .string text
  | none => .null

namespace TypeExpr

/-- An object of a kind with a value. -/
def tagged (kind : String) (value : Json) : Json :=
  .object [("kind", .string kind), ("value", value)]

mutual

/-- A type as JSON. -/
def toJson : TypeExpr → Json
  | primitive kind => tagged "primitive" (.string kind.name)
  | array element => tagged "array" (toJson element)
  | record fields => tagged "record" (.array (fieldsToJson fields))
  | dictionary values => tagged "dictionary" (toJson values)
  | union members => tagged "union" (.array (listToJson members))
  | intersection members => tagged "intersection" (.array (listToJson members))
  | tuple items => tagged "tuple" (.array (listToJson items))
  | literal value => tagged "literal" value.toJson
  | identifier name importPath =>
    tagged "identifier"
      (.object [("name", .string name), ("import_path", Json.ofOption importPath)])
  | recursive name body =>
    tagged "recursive" (.object [("name", .string name), ("body", toJson body)])
  | provided displayName backingName =>
    tagged "opaque"
      (.object [("display_name", .string displayName), ("backing_name", .string backingName)])
  | unknown => .object [("kind", .string "unknown")]

/-- The types of a list as JSON. -/
def listToJson : List TypeExpr → List Json
  | [] => []
  | t :: rest => toJson t :: listToJson rest

/-- The fields of a record as JSON. -/
def fieldsToJson : List (FieldLabel × TypeExpr) → List Json
  | [] => []
  | (label, t) :: rest =>
    .object [("name", .string label.name), ("type", toJson t), ("optional", .bool label.optional)]
      :: fieldsToJson rest

end

end TypeExpr

end SchemaTypes
