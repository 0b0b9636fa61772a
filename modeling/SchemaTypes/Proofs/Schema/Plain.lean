import Mathlib.Logic.Relation
import SchemaTypes.Proofs.TypeExpr.Identifiers
import SchemaTypes.Schema

set_option autoImplicit false

/-!
# Plain schemas

A schema that was read from a node carries no types but constant ones: nothing in it names a
declaration.  All the rest of a type comes from the references that are resolved in it, and each of
these is the `$ref` of some part of the node, which reading reaches by going down step by step.
-/

namespace SchemaTypes

/-- The types that a schema can name without looking at anything else. -/
inductive TypeExpr.Constant : TypeExpr → Prop
  | unknown : Constant .unknown
  | number : Constant .number
  | boolean : Constant .boolean
  | null : Constant .null
  | anyObject : Constant .anyObject
  | literals (values : List Literal) (nonnull : Literal.null ∉ values) :
      Constant (TypeExpr.unionOf (values.map TypeExpr.literal))

/-- A constant type mentions nothing. -/
theorem TypeExpr.Constant.mentions_eq_nil {t : TypeExpr} (h : t.Constant) : t.mentions = [] := by
  cases h with
  | unknown => rfl
  | number => rfl
  | boolean => rfl
  | null => rfl
  | anyObject => rfl
  | literals values =>
    rw [List.eq_nil_iff_forall_not_mem]
    intro m hm
    obtain ⟨t, ht, hm⟩ := (TypeExpr.mem_mentions_unionOf _).mp hm
    obtain ⟨value, -, rfl⟩ := List.mem_map.mp ht
    cases hm

/-- A constant type has no identifiers. -/
theorem TypeExpr.Constant.identifiers_eq_nil {t : TypeExpr} (h : t.Constant) :
    t.identifiers = [] := by
  rw [TypeExpr.identifiers_eq, h.mentions_eq_nil]
  rfl

/-- A property of types that no type lacks if its parts have it: constant types and identifiers have
it, and what is put together out of types that have it. -/
structure TypeExpr.Inherited (P : TypeExpr → Prop) : Prop where
  constant : ∀ {t}, t.Constant → P t
  string : P TypeExpr.string
  provided : ∀ displayName backingName, P (.provided displayName backingName)
  identifier : ∀ name importPath, P (.identifier name importPath)
  combines : ∀ {types t}, TypeExpr.Combines types t → (∀ part ∈ types, P part) → P t

/-! ## Parts of a value -/

namespace Json

/-- One value stands directly inside another. -/
inductive Child : Json → Json → Prop
  | item {items : List Json} {part : Json} (h : part ∈ items) : Child (.array items) part
  | member {members : List (String × Json)} {name : String} {part : Json}
      (h : (name, part) ∈ members) : Child (.object members) part

theorem nodeCount_le_items {items : List Json} {part : Json} (h : part ∈ items) :
    part.nodeCount ≤ nodeCountItems items := by
  induction items with
  | nil => cases h
  | cons item rest ih =>
    rw [nodeCountItems]
    rcases List.mem_cons.mp h with rfl | hrest
    · exact Nat.le_add_right _ _
    · exact Nat.le_trans (ih hrest) (Nat.le_add_left _ _)

theorem nodeCount_le_members {members : List (String × Json)} {name : String} {part : Json}
    (h : (name, part) ∈ members) : part.nodeCount ≤ nodeCountMembers members := by
  induction members with
  | nil => cases h
  | cons member rest ih =>
    obtain ⟨first, value⟩ := member
    rw [nodeCountMembers]
    rcases List.mem_cons.mp h with heq | hrest
    · cases heq
      exact Nat.le_add_right _ _
    · exact Nat.le_trans (ih hrest) (Nat.le_add_left _ _)

/-- What stands inside a value is smaller. -/
theorem Child.nodeCount_lt {whole part : Json} (h : whole.Child part) :
    part.nodeCount < whole.nodeCount := by
  cases h with
  | item h =>
    have hle := nodeCount_le_items h
    rw [nodeCount]
    omega
  | member h =>
    have hle := nodeCount_le_members h
    rw [nodeCount]
    omega

/-- A value is reached from another by going down some steps. -/
abbrev Descends : Json → Json → Prop := Relation.ReflTransGen Child

end Json

namespace Schema

/-! ## Properties of schemas that were read -/

/-- What has to be shown of a property of schemas, references apart, in order to know that it holds
of every schema that was read from a node. -/
structure Closed (P : Schema → Prop) : Prop where
  malformed : ∀ location reason, P (malformed location reason)
  exactly : ∀ {type}, type.Constant → P (exactly type)
  text : ∀ format, P (text format)
  allOf : ∀ {members}, (∀ s ∈ members, P s) → P (allOf members)
  anyOf : ∀ {members}, (∀ s ∈ members, P s) → P (anyOf members)
  nullable : ∀ {schema}, P schema → P (nullable schema)
  array : ∀ {items}, P items → P (array items)
  tuple : ∀ {items}, (∀ s ∈ items, P s) → P (tuple items)
  dictionary : ∀ {values}, P values → P (dictionary values)
  record : ∀ {fields}, (∀ f ∈ fields, P f.2) → P (record fields)

/-- The schemas of all parts of a node have a property. -/
structure Parts.Have (parts : Parts) (P : Schema → Prop) : Prop where
  list : ∀ keyword, ∀ s ∈ parts.list keyword, P s
  schema : ∀ keyword, P (parts.schema keyword)
  fields : ∀ f ∈ parts.fields, P f.2

/-- All references that are written in the parts of a node have a property. -/
def Written (P : Schema → Prop) (node : Json) : Prop :=
  ∀ part target, node.Descends part → part.stringMember? "$ref" = some target →
    P (reference target)

theorem Written.child {P : Schema → Prop} {whole part : Json} (h : Written P whole)
    (hchild : whole.Child part) : Written P part :=
  fun below target hbelow htarget => h below target (.head hchild hbelow) htarget

/-! ## Listed values -/

/-- `null` is listed for no type but its own. -/
theorem admits_null {kind : Kind} (h : kind ≠ .null) : kind.admits .null = false := by
  cases kind with
  | null => exact absurd rfl h
  | _ => rfl

theorem eq_null_of_literal? {value : Json} (h : literal? value = some .null) : value = .null := by
  cases value with
  | null => rfl
  | _ => cases h

namespace Closed

variable {P : Schema → Prop}

section Parts

variable {location : Reference} {members : Members} {values : List Json} {parts : Parts}

theorem literalsOr (rules : Closed P) {kind : Kind} {otherwise : Schema} (hkind : kind ≠ .null)
    (h : P otherwise) : P (literalsOr values kind otherwise) := by
  have hnonnull : Literal.null ∉ (values.filter kind.admits).filterMap literal? := by
    intro hmem
    obtain ⟨value, hvalue, hliteral⟩ := List.mem_filterMap.mp hmem
    obtain rfl := eq_null_of_literal? hliteral
    have hadmits := (List.mem_filter.mp hvalue).2
    rw [admits_null hkind] at hadmits
    cases hadmits
  unfold Schema.literalsOr
  split
  · exact h
  · exact rules.exactly (.literals _ hnonnull)

theorem ofArray (rules : Closed P) (h : parts.Have P) : P (ofArray location members parts) := by
  unfold Schema.ofArray
  split
  · exact rules.tuple (h.list _)
  · exact rules.malformed _ _
  · split
    · exact rules.array (rules.exactly .unknown)
    · exact rules.tuple (h.list _)
    · exact rules.array (h.schema _)

theorem ofObject (rules : Closed P) (h : parts.Have P) : P (ofObject location members parts) := by
  unfold Schema.ofObject
  split
  · refine rules.record fun f hf => ?_
    obtain ⟨field, hfield, rfl⟩ := List.mem_map.mp hf
    exact h.fields field hfield
  · exact rules.malformed _ _
  · split
    · exact rules.dictionary (h.schema _)
    · exact rules.record fun _ hf => absurd hf List.not_mem_nil
    · exact rules.exactly .anyObject

theorem ofKind (rules : Closed P) (h : parts.Have P) (kind : Kind) :
    P (ofKind location members values parts kind) := by
  cases kind with
  | string => exact rules.literalsOr (by decide) (rules.text _)
  | number => exact rules.literalsOr (by decide) (rules.exactly .number)
  | integer => exact rules.literalsOr (by decide) (rules.exactly .number)
  | boolean => exact rules.literalsOr (by decide) (rules.exactly .boolean)
  | null => exact rules.exactly .null
  | array => exact rules.ofArray h
  | object => exact rules.ofObject h

theorem ofKinds (rules : Closed P) (h : parts.Have P) :
    P (ofKinds location members values parts) := by
  unfold Schema.ofKinds
  split
  · exact rules.malformed _ _
  · split
    · exact rules.exactly .unknown
    · refine rules.anyOf fun s hs => ?_
      obtain ⟨kind, -, rfl⟩ := List.mem_map.mp hs
      exact rules.ofKind h kind

theorem combined (rules : Closed P) {keyword : String} {schema otherwise : Schema} (h : P schema)
    (hother : P otherwise) : P (combined location members keyword schema otherwise) := by
  unfold Schema.combined
  split
  · exact hother
  · exact h
  · exact rules.malformed _ _

theorem ofMembers (rules : Closed P) (h : parts.Have P)
    (href : ∀ target, OrderedMap.get? members "$ref" = some (.string target) →
      P (reference target)) : P (ofMembers location members parts) := by
  unfold Schema.ofMembers
  split
  · exact rules.malformed _ _
  · split
    · rename_i target htarget
      exact href target htarget
    · exact rules.malformed _ _
    · exact rules.combined (rules.allOf (h.list _))
        (rules.combined (rules.anyOf (h.list _))
          (rules.combined (rules.anyOf (h.list _)) (rules.ofKinds h)))

end Parts

mutual

/-- A property holds of the schema that was read from a node if it holds of the references that are
written in the parts of the node. -/
theorem ofJson (rules : Closed P) (location : Reference) : ∀ node : Json,
    Written P node → P (ofJson location node)
  | .object members, h => by
    have hmembers : ∀ name value, (name, value) ∈ members → Written P value :=
      fun _ _ hmem => h.child (.member hmem)
    have hhave : Parts.Have
        { list := fun keyword => Schema.listAt location keyword members
          schema := fun keyword => Schema.schemaAt location keyword members
          fields := Schema.fieldsAt location members } P :=
      ⟨fun keyword => listAt rules location keyword members hmembers,
        fun keyword => schemaAt rules location keyword members hmembers,
        fieldsAt rules location members hmembers⟩
    have href : ∀ target, OrderedMap.get? members "$ref" = some (.string target) →
        P (reference target) := by
      intro target htarget
      exact h _ target .refl (Json.stringMember?_eq_some_iff.mpr htarget)
    rw [Schema.ofJson]
    split
    · exact rules.nullable (rules.ofMembers hhave href)
    · exact rules.ofMembers hhave href
  | .bool _, _ => rules.exactly .unknown
  | .null, _ => rules.malformed _ _
  | .number _, _ => rules.malformed _ _
  | .string _, _ => rules.malformed _ _
  | .array _, _ => rules.malformed _ _

theorem listAt (rules : Closed P) (location : Reference) (keyword : String) :
    ∀ members : List (String × Json), (∀ name value, (name, value) ∈ members → Written P value) →
      ∀ s ∈ listAt location keyword members, P s
  | [], _ => fun _ hs => absurd hs List.not_mem_nil
  | (name, value) :: rest, h => by
    have hvalue := h name value List.mem_cons_self
    have hrest := listAt rules location keyword rest
      fun other part hmem => h other part (List.mem_cons_of_mem _ hmem)
    cases value with
    | array items =>
      rw [Schema.listAt]
      split
      · exact ofItems rules _ 0 items fun item hitem => hvalue.child (.item hitem)
      · exact hrest
    | _ =>
      unfold Schema.listAt
      split
      · exact fun _ hs => absurd hs List.not_mem_nil
      · exact hrest

theorem schemaAt (rules : Closed P) (location : Reference) (keyword : String) :
    ∀ members : List (String × Json), (∀ name value, (name, value) ∈ members → Written P value) →
      P (schemaAt location keyword members)
  | [], _ => rules.exactly .unknown
  | (name, value) :: rest, h => by
    rw [Schema.schemaAt]
    split
    · exact ofJson rules _ value (h name value List.mem_cons_self)
    · exact schemaAt rules location keyword rest
        fun other part hmem => h other part (List.mem_cons_of_mem _ hmem)

theorem fieldsAt (rules : Closed P) (location : Reference) :
    ∀ members : List (String × Json), (∀ name value, (name, value) ∈ members → Written P value) →
      ∀ f ∈ fieldsAt location members, P f.2
  | [], _ => fun _ hf => absurd hf List.not_mem_nil
  | (name, value) :: rest, h => by
    have hvalue := h name value List.mem_cons_self
    have hrest := fieldsAt rules location rest
      fun other part hmem => h other part (List.mem_cons_of_mem _ hmem)
    cases value with
    | object fields =>
      rw [Schema.fieldsAt]
      split
      · exact ofFields rules _ fields fun _ part hpart => hvalue.child (.member hpart)
      · exact hrest
    | _ =>
      unfold Schema.fieldsAt
      split
      · exact fun _ hf => absurd hf List.not_mem_nil
      · exact hrest

theorem ofItems (rules : Closed P) (location : Reference) (place : Nat) :
    ∀ items : List Json, (∀ item ∈ items, Written P item) →
      ∀ s ∈ ofItems location place items, P s
  | [], _ => fun _ hs => absurd hs List.not_mem_nil
  | item :: rest, h => by
    obtain ⟨hitem, hrest⟩ := List.forall_mem_cons.mp h
    exact List.forall_mem_cons.mpr
      ⟨ofJson rules _ item hitem, ofItems rules location (place + 1) rest hrest⟩

theorem ofFields (rules : Closed P) (location : Reference) :
    ∀ members : List (String × Json), (∀ name value, (name, value) ∈ members → Written P value) →
      ∀ f ∈ ofFields location members, P f.2
  | [], _ => fun _ hf => absurd hf List.not_mem_nil
  | (name, value) :: rest, h => by
    have hrest := ofFields rules location rest
      fun other part hmem => h other part (List.mem_cons_of_mem _ hmem)
    exact List.forall_mem_cons.mpr
      ⟨ofJson rules _ value (h name value List.mem_cons_self), hrest⟩

end

end Closed

/-! ## Constant types -/

mutual

/-- Whether every type that is part of the schema is a constant one. -/
def Plain : Schema → Prop
  | exactly type => type.Constant
  | allOf members => PlainAll members
  | anyOf members => PlainAll members
  | nullable schema => Plain schema
  | array items => Plain items
  | tuple items => PlainAll items
  | dictionary values => Plain values
  | record fields => PlainFields fields
  | _ => True

/-- Whether all schemas of a list are plain. -/
def PlainAll : List Schema → Prop
  | [] => True
  | schema :: rest => Plain schema ∧ PlainAll rest

/-- Whether the schemas of all fields are plain. -/
def PlainFields : List (FieldLabel × Schema) → Prop
  | [] => True
  | (_, schema) :: rest => Plain schema ∧ PlainFields rest

end

theorem plainAll_iff (schemas : List Schema) : PlainAll schemas ↔ ∀ s ∈ schemas, s.Plain := by
  induction schemas with
  | nil => simp [PlainAll]
  | cons schema rest ih => simp [PlainAll, ih]

theorem plainFields_iff (fields : List (FieldLabel × Schema)) :
    PlainFields fields ↔ ∀ f ∈ fields, f.2.Plain := by
  induction fields with
  | nil => simp [PlainFields]
  | cons field rest ih =>
    obtain ⟨label, schema⟩ := field
    simp [PlainFields, ih]

theorem closed_plain : Closed Plain where
  malformed _ _ := trivial
  exactly h := h
  text _ := trivial
  allOf h := (plainAll_iff _).mpr h
  anyOf h := (plainAll_iff _).mpr h
  nullable h := h
  array h := h
  tuple h := (plainAll_iff _).mpr h
  dictionary h := h
  record h := (plainFields_iff _).mpr h

/-- A schema that was read from a node is plain. -/
theorem ofJson_plain (location : Reference) (node : Json) : (ofJson location node).Plain :=
  closed_plain.ofJson location node fun _ _ _ _ => trivial

end Schema

end SchemaTypes
