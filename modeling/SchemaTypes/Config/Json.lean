import SchemaTypes.Config.Basic
import SchemaTypes.Json.Basic

set_option autoImplicit false

/-!
# Configurations as JSON
-/

namespace SchemaTypes

/-- A provided type as JSON. -/
def ProvidedType.toJson (type : ProvidedType) : Json :=
  .object
    [("displayName", .string type.displayName), ("backingName", .string type.backingName),
      ("importPath", .string type.importPath)]

/-- A configuration as JSON. -/
def Config.toJson (config : Config) : Json :=
  .object
    [("temporalFormats", .array (config.temporalFormats.map Json.string)),
      ("dateType", config.dateType.toJson),
      ("externalNamespace", .string config.externalNamespace),
      ("schemaSuffix", .string config.schemaSuffix),
      ("preferredMediaTypes", .array (config.preferredMediaTypes.map Json.string))]

end SchemaTypes
