import SchemaTypes.Proofs.Schema.Questions

set_option autoImplicit false

/-!
# Parsing node by node

A node can be parsed without a schema in between: its keywords are looked at, and what they call for
is done at once, with the nodes inside it one after the other in the same way.  `parse` does this in
any kind of computation, and announces every node when it comes to it.  Reading the whole schema
first and elaborating it afterwards comes to the same: a relation that does not mind announcements
relates the two as soon as it relates the answers to their questions.
-/

namespace SchemaTypes.Schema

section Parse

variable {m : Type → Type} [Monad m]

/-- What is done with the nodes inside a node. -/
structure PartParsers (m : Type → Type) where
  /-- Parses the items of the list under a keyword. -/
  list : String → m (List TypeExpr)
  /-- Parses the node under a keyword. -/
  schema : String → m TypeExpr
  /-- Parses the members of `properties`; each name gets a label. -/
  fields : (String → FieldLabel) → m (List (FieldLabel × TypeExpr))

/-- Values of computations that are carried out in order. -/
def inOrder {α : Type} : List (m α) → m (List α)
  | [] => return []
  | step :: rest => do
    let value ← step
    let values ← inOrder rest
    return value :: values

/-- The listed values of a type as a union of literals, or `otherwise` if there are none. -/
def parseLiteralsOr (values : List Json) (kind : Kind) (otherwise : m TypeExpr) : m TypeExpr :=
  match (values.filter kind.admits).filterMap literal? with
  | [] => otherwise
  | literals => return TypeExpr.unionOf (literals.map TypeExpr.literal)

section Node

variable (ask : Question → m TypeExpr) (location : Reference) (members : Members)

/-- Parses a node that is a list. -/
def parseArray (parsers : PartParsers m) : m TypeExpr :=
  match OrderedMap.get? members "prefixItems" with
  | some (.array _) => do
    let types ← parsers.list "prefixItems"
    return TypeExpr.tuple types
  | some _ => ask (.malformed location "`prefixItems` must be an array of schemas")
  | none =>
    match OrderedMap.get? members "items" with
    | none => return TypeExpr.array .unknown
    | some (.array _) => do
      let types ← parsers.list "items"
      return TypeExpr.tuple types
    | some _ => do
      let type ← parsers.schema "items"
      return TypeExpr.array type

/-- Parses a node that is an object. -/
def parseObject (parsers : PartParsers m) : m TypeExpr :=
  match OrderedMap.get? members "properties" with
  | some (.object _) => do
    let types ← parsers.fields fun name => ⟨name, !(requiredNames members).contains name⟩
    return TypeExpr.record types
  | some _ => ask (.malformed location "`properties` must be an object")
  | none =>
    match OrderedMap.get? members "additionalProperties" with
    | some (.object _) => do
      let type ← parsers.schema "additionalProperties"
      return TypeExpr.dictionary type
    | some (.bool false) => return TypeExpr.record []
    | _ => return TypeExpr.anyObject

/-- Parses a node as one of its types. -/
def parseKind (values : List Json) (parsers : PartParsers m) : Kind → m TypeExpr
  | .string => parseLiteralsOr values .string (ask (.text (format? members)))
  | .number => parseLiteralsOr values .number (return TypeExpr.number)
  | .integer => parseLiteralsOr values .integer (return TypeExpr.number)
  | .boolean => parseLiteralsOr values .boolean (return TypeExpr.boolean)
  | .null => return TypeExpr.null
  | .array => parseArray ask location members parsers
  | .object => parseObject ask location members parsers

/-- Parses a node by its types. -/
def parseKinds (values : List Json) (parsers : PartParsers m) : m TypeExpr :=
  match declaredKinds members with
  | .error reason => ask (.malformed location reason)
  | .ok declared =>
    match (if declared.isEmpty then impliedKinds members values else declared) with
    | [] => return TypeExpr.unknown
    | kinds => do
      let types ← inOrder (kinds.map (parseKind ask location members values parsers))
      return TypeExpr.unionOf types

/-- Parses a node under one of the keywords that combine schemas, or does `otherwise` if the keyword
is absent. -/
def parseCombined (parsers : PartParsers m) (keyword : String)
    (combine : List TypeExpr → TypeExpr) (otherwise : m TypeExpr) : m TypeExpr :=
  match OrderedMap.get? members keyword with
  | none => otherwise
  | some (.array _) => do
    let types ← parsers.list keyword
    return combine types
  | some _ => ask (.malformed location ("`" ++ keyword ++ "` must be an array of schemas"))

/-- Parses a node without regard to its flags. -/
def parseMembers (parsers : PartParsers m) : m TypeExpr :=
  match listed members with
  | .malformed => ask (.malformed location "`enum` must be an array")
  | values =>
    match OrderedMap.get? members "$ref" with
    | some (.string target) => ask (.reference target)
    | some _ => ask (.malformed location "`$ref` must be a string")
    | none =>
      parseCombined ask location members parsers "allOf" TypeExpr.intersectionOf
        (parseCombined ask location members parsers "oneOf" TypeExpr.unionOf
          (parseCombined ask location members parsers "anyOf" TypeExpr.unionOf
            (parseKinds ask location members values.toList parsers)))

end Node

section Nodes

variable (enter : Reference → Json → m Unit) (ask : Reference → Question → m TypeExpr)

mutual

/-- Parses the node at a location, which is announced first. -/
def parse (location : Reference) : Json → m TypeExpr
  | .object members => do
    enter location (.object members)
    let parsed := parseMembers (ask location) location members
      { list := fun keyword => parseListAt location keyword members
        schema := fun keyword => parseAt location keyword members
        fields := fun label => parseFieldsAt location label members }
    if isNullable members then do
      let type ← parsed
      return type.nullable
    else parsed
  | .bool value => do
    enter location (.bool value)
    return TypeExpr.unknown
  | .null => do
    enter location .null
    ask location (.malformed location "expected a schema object, found null")
  | .number value => do
    enter location (.number value)
    ask location (.malformed location "expected a schema object, found number")
  | .string value => do
    enter location (.string value)
    ask location (.malformed location "expected a schema object, found string")
  | .array items => do
    enter location (.array items)
    ask location (.malformed location "expected a schema object, found array")

/-- Parses the items of the list under a keyword; none if there is no list. -/
def parseListAt (location : Reference) (keyword : String) :
    List (String × Json) → m (List TypeExpr)
  | [] => return []
  | (name, value) :: rest =>
    if name = keyword then
      match value with
      | .array items => parseItems (location.child keyword) 0 items
      | _ => return []
    else parseListAt location keyword rest

/-- Parses the node under a keyword; any value is allowed if there is none. -/
def parseAt (location : Reference) (keyword : String) : List (String × Json) → m TypeExpr
  | [] => return TypeExpr.unknown
  | (name, value) :: rest =>
    if name = keyword then parse (location.child keyword) value
    else parseAt location keyword rest

/-- Parses the members of `properties`; none if that is no object. -/
def parseFieldsAt (location : Reference) (label : String → FieldLabel) :
    List (String × Json) → m (List (FieldLabel × TypeExpr))
  | [] => return []
  | (name, value) :: rest =>
    if name = "properties" then
      match value with
      | .object fields => parseFields (location.child "properties") label fields
      | _ => return []
    else parseFieldsAt location label rest

/-- Parses list items, the first of which has the given place. -/
def parseItems (location : Reference) (place : Nat) : List Json → m (List TypeExpr)
  | [] => return []
  | item :: rest => do
    let type ← parse (location.child (toString place)) item
    let types ← parseItems location (place + 1) rest
    return type :: types

/-- Parses members. -/
def parseFields (location : Reference) (label : String → FieldLabel) :
    List (String × Json) → m (List (FieldLabel × TypeExpr))
  | [] => return []
  | (name, value) :: rest => do
    let type ← parse (location.child name) value
    let types ← parseFields location label rest
    return (label name, type) :: types

end

end Nodes

end Parse

/-! ## The same types -/

section Alike

variable {m : Type → Type} [Monad m]

/-- A relation that steps one after the other keep, and that relates the answers to questions. -/
structure AnswersAlike (R : (α : Type) → m α → Run α → Prop) (ask : Question → m TypeExpr)
    (answer : Question → Run TypeExpr) : Prop where
  relates : Relates R
  ask : ∀ q, R _ (ask q) (answer q)

/-- What has to be shown of a relation in order to know that it relates parsing the nodes of a
document to the types of the schemas that are read from them: it keeps steps one after the other, it
relates the answers to the questions of a node, and announcing a node makes no difference. -/
structure ParsesAlike (R : (α : Type) → m α → Run α → Prop) (enter : Reference → Json → m Unit)
    (ask : Reference → Question → m TypeExpr) (answer : Question → Run TypeExpr)
    (document : String) : Prop where
  relates : Relates R
  ask : ∀ {place}, place.document = document → ∀ q, R _ (ask place q) (answer q)
  enter : ∀ {place node x y}, place.document = document → R TypeExpr x y →
    R TypeExpr (enter place node >>= fun _ => x) y

/-- The members of `properties` under labels. -/
def labelled (label : String → FieldLabel) (fields : List (String × Schema)) :
    List (FieldLabel × Schema) :=
  fields.map fun (name, schema) => (label name, schema)

variable {R : (α : Type) → m α → Run α → Prop} {answer : Question → Run TypeExpr}

/-- Parsing the parts of a node is related to the types of their schemas. -/
structure PartParsers.Relate (R : (α : Type) → m α → Run α → Prop)
    (answer : Question → Run TypeExpr) (parsers : PartParsers m) (parts : Parts) : Prop where
  list : ∀ keyword, R _ (parsers.list keyword) (typesBy answer (parts.list keyword))
  schema : ∀ keyword, R _ (parsers.schema keyword) (typeBy answer (parts.schema keyword))
  fields : ∀ label, R _ (parsers.fields label)
    (fieldTypesBy answer (labelled label parts.fields))

namespace AnswersAlike

section Node

variable {ask : Question → m TypeExpr} {location : Reference} {members : Members}
  {values : List Json} {parsers : PartParsers m} {parts : Parts}

theorem parseLiteralsOr (rules : AnswersAlike R ask answer) {kind : Kind}
    {step : m TypeExpr} {otherwise : Schema} (h : R _ step (otherwise.typeBy answer)) :
    R _ (parseLiteralsOr values kind step)
      ((literalsOr values kind otherwise).typeBy answer) := by
  unfold Schema.parseLiteralsOr Schema.literalsOr
  cases (values.filter kind.admits).filterMap literal? with
  | nil => exact h
  | cons => exact rules.relates.pure _

theorem parseArray (rules : AnswersAlike R ask answer)
    (h : parsers.Relate R answer parts) :
    R _ (parseArray ask location members parsers)
      ((ofArray location members parts).typeBy answer) := by
  unfold Schema.parseArray Schema.ofArray
  cases OrderedMap.get? members "prefixItems" with
  | some value =>
    cases value with
    | array => exact rules.relates.bind (h.list _) fun _ => rules.relates.pure _
    | _ => exact rules.ask _
  | none =>
    cases OrderedMap.get? members "items" with
    | none => exact rules.relates.pure _
    | some value =>
      cases value with
      | array => exact rules.relates.bind (h.list _) fun _ => rules.relates.pure _
      | _ => exact rules.relates.bind (h.schema _) fun _ => rules.relates.pure _

theorem parseObject (rules : AnswersAlike R ask answer)
    (h : parsers.Relate R answer parts) :
    R _ (parseObject ask location members parsers)
      ((ofObject location members parts).typeBy answer) := by
  unfold Schema.parseObject Schema.ofObject
  cases OrderedMap.get? members "properties" with
  | some value =>
    cases value with
    | object => exact rules.relates.bind (h.fields _) fun _ => rules.relates.pure _
    | _ => exact rules.ask _
  | none =>
    cases OrderedMap.get? members "additionalProperties" with
    | none => exact rules.relates.pure _
    | some value =>
      cases value with
      | object => exact rules.relates.bind (h.schema _) fun _ => rules.relates.pure _
      | bool allowed => cases allowed <;> exact rules.relates.pure _
      | _ => exact rules.relates.pure _

theorem parseKind (rules : AnswersAlike R ask answer)
    (h : parsers.Relate R answer parts) (kind : Kind) :
    R _ (parseKind ask location members values parsers kind)
      ((ofKind location members values parts kind).typeBy answer) := by
  cases kind with
  | string => exact rules.parseLiteralsOr (rules.ask _)
  | number => exact rules.parseLiteralsOr (rules.relates.pure _)
  | integer => exact rules.parseLiteralsOr (rules.relates.pure _)
  | boolean => exact rules.parseLiteralsOr (rules.relates.pure _)
  | null => exact rules.relates.pure _
  | array => exact rules.parseArray h
  | object => exact rules.parseObject h

theorem inOrder (rules : AnswersAlike R ask answer) {step : Kind → m TypeExpr}
    {schema : Kind → Schema} (h : ∀ kind, R _ (step kind) ((schema kind).typeBy answer))
    (kinds : List Kind) :
    R _ (inOrder (kinds.map step)) (typesBy answer (kinds.map schema)) := by
  induction kinds with
  | nil => exact rules.relates.pure _
  | cons kind rest ih =>
    exact rules.relates.bind (h kind) fun _ => rules.relates.bind ih fun _ =>
      rules.relates.pure _

theorem parseKinds (rules : AnswersAlike R ask answer)
    (h : parsers.Relate R answer parts) :
    R _ (parseKinds ask location members values parsers)
      ((ofKinds location members values parts).typeBy answer) := by
  unfold Schema.parseKinds Schema.ofKinds
  cases declaredKinds members with
  | error reason => exact rules.ask _
  | ok declared =>
    simp only
    cases (if declared.isEmpty then impliedKinds members values else declared) with
    | nil => exact rules.relates.pure _
    | cons =>
      exact rules.relates.bind (rules.inOrder (rules.parseKind h) _) fun _ =>
        rules.relates.pure _

theorem parseCombined (rules : AnswersAlike R ask answer)
    (h : parsers.Relate R answer parts) (keyword : String)
    {combine : List TypeExpr → TypeExpr} {schema : Schema}
    (hschema : schema.typeBy answer = do
      let types ← typesBy answer (parts.list keyword)
      return combine types)
    {step : m TypeExpr} {otherwise : Schema} (hother : R _ step (otherwise.typeBy answer)) :
    R _ (parseCombined ask location members parsers keyword combine step)
      ((combined location members keyword schema otherwise).typeBy answer) := by
  unfold Schema.parseCombined Schema.combined
  cases OrderedMap.get? members keyword with
  | none => exact hother
  | some value =>
    cases value with
    | array =>
      rw [hschema]
      exact rules.relates.bind (h.list keyword) fun _ => rules.relates.pure _
    | _ => exact rules.ask _

theorem parseMembers (rules : AnswersAlike R ask answer)
    (h : parsers.Relate R answer parts) :
    R _ (parseMembers ask location members parsers)
      ((ofMembers location members parts).typeBy answer) := by
  unfold Schema.parseMembers Schema.ofMembers
  cases listed members with
  | malformed => exact rules.ask _
  | _ =>
    cases OrderedMap.get? members "$ref" with
    | none =>
      exact rules.parseCombined h "allOf" rfl (rules.parseCombined h "oneOf" rfl
        (rules.parseCombined h "anyOf" rfl (rules.parseKinds h)))
    | some value =>
      cases value with
      | string target => exact rules.ask _
      | _ => exact rules.ask _

end Node

end AnswersAlike

namespace ParsesAlike

variable {enter : Reference → Json → m Unit} {ask : Reference → Question → m TypeExpr}
  {document : String}

/-- The questions of one node. -/
theorem at_place (rules : ParsesAlike R enter ask answer document) {place : Reference}
    (hplace : place.document = document) : AnswersAlike R (ask place) answer :=
  ⟨rules.relates, rules.ask hplace⟩

mutual

/-- Parsing a node is related to the type of the schema that is read from it. -/
theorem parse (rules : ParsesAlike R enter ask answer document) {location : Reference}
    (hlocation : location.document = document) : ∀ node : Json,
    R _ (parse enter ask location node) ((ofJson location node).typeBy answer)
  | .object members => by
    have hparts : PartParsers.Relate R answer
        { list := fun keyword => Schema.parseListAt enter ask location keyword members
          schema := fun keyword => Schema.parseAt enter ask location keyword members
          fields := fun label => Schema.parseFieldsAt enter ask location label members }
        { list := fun keyword => listAt location keyword members
          schema := fun keyword => schemaAt location keyword members
          fields := fieldsAt location members } :=
      ⟨fun keyword => rules.parseListAt hlocation keyword members,
        fun keyword => rules.parseAt hlocation keyword members,
        fun label => rules.parseFieldsAt hlocation label members⟩
    rw [Schema.parse, Schema.ofJson]
    refine rules.enter hlocation ?_
    cases isNullable members with
    | true =>
      exact rules.relates.bind ((rules.at_place hlocation).parseMembers hparts)
        fun _ => rules.relates.pure _
    | false => exact (rules.at_place hlocation).parseMembers hparts
  | .bool _ => rules.enter hlocation (rules.relates.pure _)
  | .null => rules.enter hlocation (rules.ask hlocation _)
  | .number _ => rules.enter hlocation (rules.ask hlocation _)
  | .string _ => rules.enter hlocation (rules.ask hlocation _)
  | .array _ => rules.enter hlocation (rules.ask hlocation _)

theorem parseListAt (rules : ParsesAlike R enter ask answer document) {location : Reference}
    (hlocation : location.document = document) (keyword : String) :
    ∀ members : List (String × Json),
      R _ (parseListAt enter ask location keyword members)
        (typesBy answer (listAt location keyword members))
  | [] => rules.relates.pure _
  | (name, value) :: rest => by
    have hrest := rules.parseListAt hlocation keyword rest
    cases value with
    | array items =>
      rw [Schema.parseListAt, Schema.listAt]
      split
      · exact rules.parseItems ((location.child_document keyword).trans hlocation) 0 items
      · exact hrest
    | _ =>
      unfold Schema.parseListAt Schema.listAt
      split
      · exact rules.relates.pure _
      · exact hrest

theorem parseAt (rules : ParsesAlike R enter ask answer document) {location : Reference}
    (hlocation : location.document = document) (keyword : String) :
    ∀ members : List (String × Json),
      R _ (parseAt enter ask location keyword members)
        ((schemaAt location keyword members).typeBy answer)
  | [] => rules.relates.pure _
  | (name, value) :: rest => by
    rw [Schema.parseAt, Schema.schemaAt]
    split
    · exact rules.parse ((location.child_document keyword).trans hlocation) value
    · exact rules.parseAt hlocation keyword rest

theorem parseFieldsAt (rules : ParsesAlike R enter ask answer document) {location : Reference}
    (hlocation : location.document = document) (label : String → FieldLabel) :
    ∀ members : List (String × Json),
      R _ (parseFieldsAt enter ask location label members)
        (fieldTypesBy answer (labelled label (fieldsAt location members)))
  | [] => rules.relates.pure _
  | (name, value) :: rest => by
    have hrest := rules.parseFieldsAt hlocation label rest
    cases value with
    | object fields =>
      rw [Schema.parseFieldsAt, Schema.fieldsAt]
      split
      · exact rules.parseFields ((location.child_document "properties").trans hlocation) label
          fields
      · exact hrest
    | _ =>
      unfold Schema.parseFieldsAt Schema.fieldsAt
      split
      · exact rules.relates.pure _
      · exact hrest

theorem parseItems (rules : ParsesAlike R enter ask answer document) {location : Reference}
    (hlocation : location.document = document) (place : Nat) : ∀ items : List Json,
      R _ (parseItems enter ask location place items)
        (typesBy answer (ofItems location place items))
  | [] => rules.relates.pure _
  | item :: rest =>
    rules.relates.bind
      (rules.parse ((location.child_document (toString place)).trans hlocation) item) fun _ =>
        rules.relates.bind (rules.parseItems hlocation (place + 1) rest) fun _ =>
          rules.relates.pure _

theorem parseFields (rules : ParsesAlike R enter ask answer document) {location : Reference}
    (hlocation : location.document = document) (label : String → FieldLabel) :
    ∀ fields : List (String × Json),
      R _ (parseFields enter ask location label fields)
        (fieldTypesBy answer (labelled label (ofFields location fields)))
  | [] => rules.relates.pure _
  | (name, value) :: rest =>
    rules.relates.bind (rules.parse ((location.child_document name).trans hlocation) value) fun _ =>
      rules.relates.bind (rules.parseFields hlocation label rest) fun _ =>
        rules.relates.pure _

end

end ParsesAlike

end Alike

end SchemaTypes.Schema
