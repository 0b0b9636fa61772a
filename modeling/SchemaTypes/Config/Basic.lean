set_option autoImplicit false

/-!
# Configuration

What a session may be told: which string formats are dates and which helper provides them, where
the declarations of other documents go, what the names of operation schemas end in, and which media
types are looked at first.
-/

namespace SchemaTypes

/-- A type that a runtime helper provides. -/
structure ProvidedType where
  displayName : String
  backingName : String
  /-- Where the helper is imported from. -/
  importPath : String
  deriving DecidableEq, Repr, Inhabited

/-- The configuration of a session. -/
structure Config where
  /-- The string formats that mean the provided date type. -/
  temporalFormats : List String
  dateType : ProvidedType
  /-- The import path that those of other documents start with. -/
  externalNamespace : String
  /-- What the names of operation schemas end in. -/
  schemaSuffix : String
  /-- The media types searched first for a schema. -/
  preferredMediaTypes : List String
  deriving DecidableEq, Repr

namespace Config

/-- The configuration used where none is given. -/
def standard : Config where
  temporalFormats := ["date", "date-time"]
  dateType := ⟨"Date", "DateString", "runtime/temporal"⟩
  externalNamespace := "external"
  schemaSuffix := "Schema"
  preferredMediaTypes := ["application/json"]

instance : Inhabited Config := ⟨standard⟩

/-- Whether strings of this format are dates. -/
def isTemporal (config : Config) (format : String) : Bool := config.temporalFormats.contains format

end Config

end SchemaTypes
