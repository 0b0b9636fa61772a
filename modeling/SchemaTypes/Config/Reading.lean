import SchemaTypes.Config.Basic
import SchemaTypes.Fault
import SchemaTypes.Text.Blank
import SchemaTypes.Yaml.Structure

set_option autoImplicit false

/-!
# Reading configurations

A configuration is a YAML map.  Fields that are not given are the standard ones and fields of other
names are passed over; a field that is given twice is refused.  Where a text is wanted, any scalar
will do, and where nothing is written a map or a list is empty.
-/

namespace SchemaTypes

namespace Yaml.Anchors

/-- The text of a scalar. -/
def text? (anchors : Anchors) (node : Node) : Option String :=
  match anchors.target? node with
  | some (.scalar _ scalar) => some scalar.text
  | _ => none

/-- The texts of a list of scalars. -/
def texts? (anchors : Anchors) (node : Node) : Option (List String) :=
  match anchors.target? node with
  | some (.list _ items) => items.mapM anchors.text?
  | some (.scalar _ ⟨"", true⟩) => some []
  | _ => none

/-- The fields of the given names among the entries of a map, after those in `done`.  No such field
comes twice, and every key is a scalar. -/
def pickFields? (anchors : Anchors) (names : List String) :
    OrderedMap String Node → List (Node × Node) → Option (OrderedMap String Node)
  | done, [] => some done
  | done, (key, node) :: rest =>
    match anchors.text? key with
    | none => none
    | some name =>
      if !names.contains name then pickFields? anchors names done rest
      else if done.contains name then none
      else pickFields? anchors names (done.insert name node) rest

/-- The fields of the given names of a map. -/
def fields? (anchors : Anchors) (names : List String) (node : Node) :
    Option (OrderedMap String Node) :=
  match anchors.target? node with
  | some (.map _ entries) => anchors.pickFields? names [] entries
  | some (.scalar _ ⟨"", true⟩) => some []
  | _ => none

end Yaml.Anchors

namespace ProvidedType

/-- Reads a provided type.  All its fields must be given. -/
def ofYaml? (anchors : Yaml.Anchors) (node : Yaml.Node) : Option ProvidedType :=
  match anchors.fields? ["displayName", "backingName", "importPath"] node with
  | none => none
  | some fields =>
    let text := fun name => (OrderedMap.get? fields name).bind anchors.text?
    match text "displayName", text "backingName", text "importPath" with
    | some displayName, some backingName, some importPath =>
      some ⟨displayName, backingName, importPath⟩
    | _, _, _ => none

end ProvidedType

namespace Config

/-- The names of the fields. -/
def fieldNames : List String :=
  ["temporalFormats", "dateType", "externalNamespace", "schemaSuffix", "preferredMediaTypes"]

/-- The value of a field, or the standard one if it is not given. -/
def fieldOr {α : Type} (fields : OrderedMap String Yaml.Node) (name : String) (standard : α)
    (read : Yaml.Node → Option α) : Option α :=
  match OrderedMap.get? fields name with
  | some node => read node
  | none => some standard

/-- The configuration with the given fields. -/
def ofFields? (anchors : Yaml.Anchors) (fields : OrderedMap String Yaml.Node) : Option Config :=
  let temporalFormats :=
    fieldOr fields "temporalFormats" standard.temporalFormats anchors.texts?
  let dateType := fieldOr fields "dateType" standard.dateType (ProvidedType.ofYaml? anchors)
  let externalNamespace :=
    fieldOr fields "externalNamespace" standard.externalNamespace anchors.text?
  let schemaSuffix := fieldOr fields "schemaSuffix" standard.schemaSuffix anchors.text?
  let preferredMediaTypes :=
    fieldOr fields "preferredMediaTypes" standard.preferredMediaTypes anchors.texts?
  match temporalFormats, dateType, externalNamespace, schemaSuffix, preferredMediaTypes with
  | some formats, some date, some outside, some suffix, some media =>
    some ⟨formats, date, outside, suffix, media⟩
  | _, _, _, _, _ => none

/-- The configuration that a document describes. -/
def ofDocument? (document : Yaml.Document) : Option Config :=
  match document.root with
  | none => some standard
  | some node =>
    match document.anchors.fields? fieldNames node with
    | some fields => ofFields? document.anchors fields
    | none => none

/-- Reads a configuration.  A blank text is the standard one. -/
def ofYaml (text : String) : Except Fault Config :=
  if text.toList.all CodePoints.isWhiteSpace then .ok standard
  else
    match (Yaml.Document.read? text.toList).bind ofDocument? with
    | some config => .ok config
    | none => .error (.general "Failed to parse engine config")

end Config

end SchemaTypes
