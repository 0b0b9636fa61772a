import SchemaTypes.Reference
import SchemaTypes.TypeExpr.Algebra

set_option autoImplicit false

/-!
# Schemas

A schema node in normal form.  The keywords of a node are looked at in a fixed order: `$ref`, then
`allOf`, `oneOf` and `anyOf`, then the declared types, then what the other keywords imply; a flag
`nullable` or `x-nullable` adds `null` to whatever comes out.  What cannot be read becomes a
`malformed` schema in its place, so that the reading itself never fails.
-/

namespace SchemaTypes

/-- A schema in normal form. -/
inductive Schema where
  /-- A node that no rule can read. -/
  | malformed (location : Reference) (reason : String)
  /-- The schema that a written reference names. -/
  | reference (target : String)
  /-- All of the schemas at once. -/
  | allOf (members : List Schema)
  /-- One of the schemas. -/
  | anyOf (members : List Schema)
  /-- The schema, or `null`. -/
  | nullable (schema : Schema)
  /-- A type that depends on nothing else. -/
  | exactly (type : TypeExpr)
  /-- Any string of a format. -/
  | text (format : Option String)
  /-- A list with items of one schema. -/
  | array (items : Schema)
  /-- A list with one item for each schema. -/
  | tuple (items : List Schema)
  /-- An object with members of one schema. -/
  | dictionary (values : Schema)
  /-- An object with known members. -/
  | record (fields : List (FieldLabel × Schema))
  deriving Repr, Inhabited

namespace Schema

/-! ## Kinds of values -/

/-- The types that a schema can declare. -/
inductive Kind where
  | string
  | number
  | integer
  | boolean
  | array
  | object
  | null
  deriving DecidableEq, Repr, Inhabited

/-- The type of a name. -/
def Kind.ofName? (name : String) : Option Kind :=
  if name = "string" then some .string
  else if name = "number" then some .number
  else if name = "integer" then some .integer
  else if name = "boolean" then some .boolean
  else if name = "array" then some .array
  else if name = "object" then some .object
  else if name = "null" then some .null
  else none

/-- The type of a value. -/
def Kind.ofValue : Json → Kind
  | .string _ => .string
  | .number _ => .number
  | .bool _ => .boolean
  | .array _ => .array
  | .object _ => .object
  | .null => .null

/-- Whether a listed value belongs to a type. -/
def Kind.admits : Kind → Json → Bool
  | .integer, .number n => n.isInteger
  | .integer, _ => false
  | kind, value => Kind.ofValue value == kind

/-- The literal of a value that is neither list nor object. -/
def literal? : Json → Option Literal
  | .string value => some (.string value)
  | .number value => some (.number value)
  | .bool value => some (.boolean value)
  | .null => some .null
  | .array _ => none
  | .object _ => none

/-- The types of the values, each once, in the order of their first values. -/
def addKind (kinds : List Kind) (kind : Kind) : List Kind :=
  if kinds.contains kind then kinds else kinds ++ [kind]

/-! ## Reading the keywords of a node -/

/-- The members of a node. -/
abbrev Members := OrderedMap String Json

/-- Whether a flag is set. -/
def isSet (members : Members) (flag : String) : Bool :=
  match OrderedMap.get? members flag with
  | some (.bool value) => value
  | _ => false

/-- Whether `null` is allowed besides. -/
def isNullable (members : Members) : Bool :=
  isSet members "nullable" || isSet members "x-nullable"

/-- What a list of allowed values says. -/
inductive Listed where
  /-- There is no list. -/
  | absent
  | values (list : List Json)
  | malformed
  deriving Repr, Inhabited

/-- The values of `enum`, or the one of `const`. -/
def listed (members : Members) : Listed :=
  match OrderedMap.get? members "enum" with
  | some (.array values) => .values values
  | some _ => .malformed
  | none =>
    match OrderedMap.get? members "const" with
    | some value => .values [value]
    | none => .absent

/-- The listed values; none if there is no list. -/
def Listed.toList : Listed → List Json
  | .values list => list
  | _ => []

/-- The texts of a list; `none` if an item is no text. -/
def texts? : List Json → Option (List String)
  | [] => some []
  | .string value :: rest => (texts? rest).map (value :: ·)
  | _ :: _ => none

/-- The known types among names, each once. -/
def kindsOfNames (names : List String) : List Kind :=
  (names.filterMap Kind.ofName?).foldl addKind []

/-- The types that `type` declares, or what is wrong with it. -/
def declaredKinds (members : Members) : Except String (List Kind) :=
  match OrderedMap.get? members "type" with
  | none => .ok []
  | some (.string name) => .ok (kindsOfNames [name])
  | some (.array names) =>
    match texts? names with
    | some names => .ok (kindsOfNames names)
    | none => .error "`type` entries must be strings"
  | some _ => .error "`type` must be a string or an array of strings"

/-- The types that the keywords imply. -/
def impliedKinds (members : Members) (values : List Json) : List Kind :=
  if OrderedMap.contains members "properties" ||
      OrderedMap.contains members "additionalProperties" then [.object]
  else if OrderedMap.contains members "items" || OrderedMap.contains members "prefixItems" then
    [.array]
  else (values.map Kind.ofValue).foldl addKind []

/-- The names of the members that must be present. -/
def requiredNames (members : Members) : List String :=
  match OrderedMap.get? members "required" with
  | some (.array names) => names.filterMap Json.string?
  | _ => []

/-- The format of strings. -/
def format? (members : Members) : Option String :=
  match OrderedMap.get? members "format" with
  | some (.string format) => some format
  | _ => none

/-! ## Schemas of the parts of a node -/

/-- The schemas read from the nodes inside a node. -/
structure Parts where
  /-- The schemas of the items of the list under a keyword. -/
  list : String → List Schema
  /-- The schema under a keyword. -/
  schema : String → Schema
  /-- The schemas of the members of `properties`. -/
  fields : List (String × Schema)

/-- The listed values of a type as a union of literals, or `otherwise` if there are none. -/
def literalsOr (values : List Json) (kind : Kind) (otherwise : Schema) : Schema :=
  match (values.filter kind.admits).filterMap literal? with
  | [] => otherwise
  | literals => exactly (TypeExpr.unionOf (literals.map TypeExpr.literal))

/-- The schema of a node that is a list. -/
def ofArray (location : Reference) (members : Members) (parts : Parts) : Schema :=
  match OrderedMap.get? members "prefixItems" with
  | some (.array _) => tuple (parts.list "prefixItems")
  | some _ => malformed location "`prefixItems` must be an array of schemas"
  | none =>
    match OrderedMap.get? members "items" with
    | none => array (exactly .unknown)
    | some (.array _) => tuple (parts.list "items")
    | some _ => array (parts.schema "items")

/-- The schema of a node that is an object. -/
def ofObject (location : Reference) (members : Members) (parts : Parts) : Schema :=
  match OrderedMap.get? members "properties" with
  | some (.object _) =>
    let required := requiredNames members
    record (parts.fields.map fun (name, schema) => (⟨name, !required.contains name⟩, schema))
  | some _ => malformed location "`properties` must be an object"
  | none =>
    match OrderedMap.get? members "additionalProperties" with
    | some (.object _) => dictionary (parts.schema "additionalProperties")
    | some (.bool false) => record []
    | _ => exactly .anyObject

/-- The schema of a node of one type. -/
def ofKind (location : Reference) (members : Members) (values : List Json) (parts : Parts) :
    Kind → Schema
  | .string => literalsOr values .string (text (format? members))
  | .number => literalsOr values .number (exactly .number)
  | .integer => literalsOr values .integer (exactly .number)
  | .boolean => literalsOr values .boolean (exactly .boolean)
  | .null => exactly .null
  | .array => ofArray location members parts
  | .object => ofObject location members parts

/-- The schema of a node by its types. -/
def ofKinds (location : Reference) (members : Members) (values : List Json) (parts : Parts) :
    Schema :=
  match declaredKinds members with
  | .error reason => malformed location reason
  | .ok declared =>
    match (if declared.isEmpty then impliedKinds members values else declared) with
    | [] => exactly .unknown
    | kinds => anyOf (kinds.map (ofKind location members values parts))

/-- The schema of a node under one of the keywords that combine schemas, or `otherwise` if the
keyword is absent. -/
def combined (location : Reference) (members : Members) (keyword : String) (schema : Schema)
    (otherwise : Schema) : Schema :=
  match OrderedMap.get? members keyword with
  | none => otherwise
  | some (.array _) => schema
  | some _ => malformed location ("`" ++ keyword ++ "` must be an array of schemas")

/-- The schema of a node without regard to its flags. -/
def ofMembers (location : Reference) (members : Members) (parts : Parts) : Schema :=
  match listed members with
  | .malformed => malformed location "`enum` must be an array"
  | values =>
    match OrderedMap.get? members "$ref" with
    | some (.string target) => reference target
    | some _ => malformed location "`$ref` must be a string"
    | none =>
      combined location members "allOf" (allOf (parts.list "allOf"))
        (combined location members "oneOf" (anyOf (parts.list "oneOf"))
          (combined location members "anyOf" (anyOf (parts.list "anyOf"))
            (ofKinds location members values.toList parts)))

mutual

/-- The schema of the node at a location. -/
def ofJson (location : Reference) : Json → Schema
  | .object members =>
    let schema := ofMembers location members
      { list := fun keyword => listAt location keyword members
        schema := fun keyword => schemaAt location keyword members
        fields := fieldsAt location members }
    if isNullable members then nullable schema else schema
  | .bool _ => exactly .unknown
  | .null => malformed location "expected a schema object, found null"
  | .number _ => malformed location "expected a schema object, found number"
  | .string _ => malformed location "expected a schema object, found string"
  | .array _ => malformed location "expected a schema object, found array"

/-- The schemas of the items of the list under a keyword; none if there is no list. -/
def listAt (location : Reference) (keyword : String) : List (String × Json) → List Schema
  | [] => []
  | (name, value) :: rest =>
    if name = keyword then
      match value with
      | .array items => ofItems (location.child keyword) 0 items
      | _ => []
    else listAt location keyword rest

/-- The schema under a keyword; of any value if there is none. -/
def schemaAt (location : Reference) (keyword : String) : List (String × Json) → Schema
  | [] => exactly .unknown
  | (name, value) :: rest =>
    if name = keyword then ofJson (location.child keyword) value
    else schemaAt location keyword rest

/-- The schemas of the members of `properties`; none if that is no object. -/
def fieldsAt (location : Reference) : List (String × Json) → List (String × Schema)
  | [] => []
  | (name, value) :: rest =>
    if name = "properties" then
      match value with
      | .object fields => ofFields (location.child "properties") fields
      | _ => []
    else fieldsAt location rest

/-- The schemas of list items, the first of which has the given place. -/
def ofItems (location : Reference) (place : Nat) : List Json → List Schema
  | [] => []
  | item :: rest =>
    ofJson (location.child (toString place)) item :: ofItems location (place + 1) rest

/-- The schemas of members. -/
def ofFields (location : Reference) : List (String × Json) → List (String × Schema)
  | [] => []
  | (name, value) :: rest =>
    (name, ofJson (location.child name) value) :: ofFields location rest

end

end Schema

end SchemaTypes
