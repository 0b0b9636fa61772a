import Mathlib.Data.List.Forall2
import SchemaTypes.Proofs.OrderedMap
import SchemaTypes.Schema

set_option autoImplicit false

/-!
# What the keywords of a node decide

A node is read keyword by keyword, so its schema does not depend on the order of its members, nor on
members that stand under no keyword.  A relation between schemas that is kept when schemas are put
together therefore holds of the schemas of two nodes as soon as the nodes have the same under each
keyword, or parts there whose schemas are related.  Equality is such a relation; another one forgets
where a node stands.
-/

namespace SchemaTypes.Schema

variable {R : Schema → Schema → Prop}

/-! ## Values under keywords -/

/-- The schemas of the nodes inside an object. -/
def partsOf (location : Reference) (members : Members) : Parts where
  list keyword := listAt location keyword members
  schema keyword := schemaAt location keyword members
  fields := fieldsAt location members

theorem ofJson_object (location : Reference) (members : Members) :
    ofJson location (.object members) =
      if isNullable members then nullable (ofMembers location members (partsOf location members))
      else ofMembers location members (partsOf location members) := by
  rw [ofJson]
  rfl

theorem listAt_eq (location : Reference) (keyword : String) (members : Members) :
    listAt location keyword members =
      match OrderedMap.get? members keyword with
      | some (.array items) => ofItems (location.child keyword) 0 items
      | _ => [] := by
  induction members with
  | nil => rfl
  | cons entry rest ih =>
    obtain ⟨name, value⟩ := entry
    rw [OrderedMap.get?_cons]
    cases value <;> rw [listAt] <;> by_cases hname : name = keyword <;> simp [hname, ih]

theorem schemaAt_eq (location : Reference) (keyword : String) (members : Members) :
    schemaAt location keyword members =
      match OrderedMap.get? members keyword with
      | some value => ofJson (location.child keyword) value
      | none => exactly .unknown := by
  induction members with
  | nil => rfl
  | cons entry rest ih =>
    obtain ⟨name, value⟩ := entry
    rw [OrderedMap.get?_cons, schemaAt]
    by_cases hname : name = keyword <;> simp [hname, ih]

theorem fieldsAt_eq (location : Reference) (members : Members) :
    fieldsAt location members =
      match OrderedMap.get? members "properties" with
      | some (.object fields) => ofFields (location.child "properties") fields
      | _ => [] := by
  induction members with
  | nil => rfl
  | cons entry rest ih =>
    obtain ⟨name, value⟩ := entry
    rw [OrderedMap.get?_cons]
    cases value <;> rw [fieldsAt] <;> by_cases hname : name = "properties" <;> simp [hname, ih]

theorem getElem?_ofItems (location : Reference) (start : Nat) (items : List Json) (place : Nat) :
    (ofItems location start items)[place]? =
      items[place]?.map (ofJson (location.child (toString (start + place)))) := by
  induction items generalizing start place with
  | nil => rfl
  | cons item rest ih =>
    rw [ofItems]
    cases place with
    | zero => rfl
    | succ place =>
      rw [List.getElem?_cons_succ, List.getElem?_cons_succ, ih, Nat.add_right_comm, Nat.add_assoc]

theorem ofFields_eq_map (location : Reference) (fields : List (String × Json)) :
    ofFields location fields =
      fields.map fun field => (field.1, ofJson (location.child field.1) field.2) := by
  induction fields with
  | nil => rfl
  | cons field rest ih => rw [ofFields, ih, List.map_cons]

/-! ## Related schemas -/

/-- A relation between schemas that is kept when schemas are put together. -/
structure Congruence (R : Schema → Schema → Prop) : Prop where
  refl : ∀ schema, R schema schema
  allOf : ∀ {schemas others}, List.Forall₂ R schemas others → R (allOf schemas) (allOf others)
  anyOf : ∀ {schemas others}, List.Forall₂ R schemas others → R (anyOf schemas) (anyOf others)
  nullable : ∀ {schema other}, R schema other → R (nullable schema) (nullable other)
  array : ∀ {schema other}, R schema other → R (array schema) (array other)
  tuple : ∀ {schemas others}, List.Forall₂ R schemas others → R (tuple schemas) (tuple others)
  dictionary : ∀ {schema other}, R schema other → R (dictionary schema) (dictionary other)
  record : ∀ {fields others},
    List.Forall₂ (fun field other : FieldLabel × Schema => field.1 = other.1 ∧ R field.2 other.2)
      fields others → R (record fields) (record others)

theorem congruence_eq : Congruence Eq where
  refl _ := rfl
  allOf h := congrArg allOf (List.forall₂_eq_eq_eq ▸ h)
  anyOf h := congrArg anyOf (List.forall₂_eq_eq_eq ▸ h)
  nullable h := by rw [h]
  array h := by rw [h]
  tuple h := congrArg tuple (List.forall₂_eq_eq_eq ▸ h)
  dictionary h := by rw [h]
  record h := by
    simp only [← Prod.ext_iff] at h
    rw [List.forall₂_eq_eq_eq] at h
    rw [h]

/-- Two nodes have the same values under some keywords, and parts there whose schemas are
related. -/
structure Matches (R : Schema → Schema → Prop) (keywords : List String) (one other : Members)
    (parts others : Parts) : Prop where
  value : ∀ keyword ∈ keywords, OrderedMap.get? one keyword = OrderedMap.get? other keyword
  list : ∀ keyword ∈ keywords, List.Forall₂ R (parts.list keyword) (others.list keyword)
  schema : ∀ keyword ∈ keywords, R (parts.schema keyword) (others.schema keyword)
  fields : "properties" ∈ keywords →
    List.Forall₂ (fun field other : String × Schema => field.1 = other.1 ∧ R field.2 other.2)
      parts.fields others.fields

theorem Matches.mono {keywords fewer : List String} {one other : Members} {parts others : Parts}
    (h : Matches R keywords one other parts others) (hsubset : fewer ⊆ keywords) :
    Matches R fewer one other parts others :=
  ⟨fun keyword hmem => h.value keyword (hsubset hmem),
    fun keyword hmem => h.list keyword (hsubset hmem),
    fun keyword hmem => h.schema keyword (hsubset hmem), fun hmem => h.fields (hsubset hmem)⟩

/-- The keywords that describe lists. -/
def listKeywords : List String := ["prefixItems", "items"]

/-- The keywords that describe objects. -/
def objectKeywords : List String := ["properties", "required", "additionalProperties"]

/-- The keywords that combine schemas. -/
def combiningKeywords : List String := ["allOf", "oneOf", "anyOf"]

namespace Congruence

variable {location place : Reference} {one other : Members} {values : List Json}
  {parts others : Parts}

section Node

variable (rules : Congruence R)
  (hmalformed : ∀ reason, R (malformed location reason) (malformed place reason))

include rules hmalformed

theorem ofArray (h : Matches R listKeywords one other parts others) :
    R (ofArray location one parts) (ofArray place other others) := by
  unfold Schema.ofArray
  rw [← h.value "prefixItems" (by simp [listKeywords]), ← h.value "items" (by simp [listKeywords])]
  cases OrderedMap.get? one "prefixItems" with
  | some value =>
    cases value with
    | array => exact rules.tuple (h.list _ (by simp [listKeywords]))
    | _ => exact hmalformed _
  | none =>
    cases OrderedMap.get? one "items" with
    | none => exact rules.refl _
    | some value =>
      cases value with
      | array => exact rules.tuple (h.list _ (by simp [listKeywords]))
      | _ => exact rules.array (h.schema _ (by simp [listKeywords]))

theorem ofObject (h : Matches R objectKeywords one other parts others) :
    R (ofObject location one parts) (ofObject place other others) := by
  have hrequired : requiredNames one = requiredNames other := by
    unfold requiredNames
    rw [h.value "required" (by simp [objectKeywords])]
  unfold Schema.ofObject
  rw [← h.value "properties" (by simp [objectKeywords]),
    ← h.value "additionalProperties" (by simp [objectKeywords]), ← hrequired]
  cases OrderedMap.get? one "properties" with
  | some value =>
    cases value with
    | object =>
      refine rules.record (List.forall₂_map_left_iff.mpr (List.forall₂_map_right_iff.mpr ?_))
      refine (h.fields (by simp [objectKeywords])).imp ?_
      rintro ⟨name, schema⟩ ⟨_, schema'⟩ ⟨rfl, hschema⟩
      exact ⟨rfl, hschema⟩
    | _ => exact hmalformed _
  | none =>
    cases OrderedMap.get? one "additionalProperties" with
    | none => exact rules.refl _
    | some value =>
      cases value with
      | object => exact rules.dictionary (h.schema _ (by simp [objectKeywords]))
      | bool allowed => cases allowed <;> exact rules.refl _
      | _ => exact rules.refl _

/-- Nodes that agree on what describes strings and objects are alike as one type, if they are alike
as lists. -/
theorem ofKind (h : Matches R ("format" :: objectKeywords) one other parts others)
    (hlist : R (Schema.ofArray location one parts) (Schema.ofArray place other others))
    (kind : Kind) :
    R (ofKind location one values parts kind) (ofKind place other values others kind) := by
  cases kind with
  | string =>
    have hformat : format? one = format? other := by
      unfold format?
      rw [h.value "format" List.mem_cons_self]
    unfold Schema.ofKind
    rw [hformat]
    exact rules.refl _
  | array => exact hlist
  | object => exact rules.ofObject hmalformed (h.mono (List.subset_cons_self _ _))
  | _ => exact rules.refl _

theorem ofKinds (hdeclared : declaredKinds one = declaredKinds other)
    (himplied : impliedKinds one values = impliedKinds other values)
    (hkind : ∀ kind,
      R (Schema.ofKind location one values parts kind)
        (Schema.ofKind place other values others kind)) :
    R (ofKinds location one values parts) (ofKinds place other values others) := by
  unfold Schema.ofKinds
  rw [← hdeclared, ← himplied]
  cases declaredKinds one with
  | error reason => exact hmalformed reason
  | ok declared =>
    simp only
    cases (if declared.isEmpty then impliedKinds one values else declared) with
    | nil => exact rules.refl _
    | cons first rest =>
      refine rules.anyOf (List.forall₂_map_left_iff.mpr (List.forall₂_map_right_iff.mpr ?_))
      exact List.forall₂_same.mpr fun kind _ => hkind kind

omit rules in
theorem combined {keyword : String} {keywords : List String} (hkeyword : keyword ∈ keywords)
    (h : Matches R keywords one other parts others) {schema schema' otherwise otherwise' : Schema}
    (hschema : R schema schema') (hotherwise : R otherwise otherwise') :
    R (combined location one keyword schema otherwise)
      (combined place other keyword schema' otherwise') := by
  unfold Schema.combined
  rw [← h.value keyword hkeyword]
  cases OrderedMap.get? one keyword with
  | none => exact hotherwise
  | some value =>
    cases value with
    | array => exact hschema
    | _ => exact hmalformed _

theorem ofMembers (h : Matches R ("$ref" :: combiningKeywords) one other parts others)
    (hlisted : listed one = listed other)
    (hkinds : R (Schema.ofKinds location one (listed one).toList parts)
      (Schema.ofKinds place other (listed one).toList others)) :
    R (ofMembers location one parts) (ofMembers place other others) := by
  have hlist : ∀ keyword ∈ combiningKeywords,
      List.Forall₂ R (parts.list keyword) (others.list keyword) :=
    fun keyword hmem => h.list keyword (List.mem_cons_of_mem _ hmem)
  have hall : "allOf" ∈ combiningKeywords := by simp [combiningKeywords]
  have hone : "oneOf" ∈ combiningKeywords := by simp [combiningKeywords]
  have hany : "anyOf" ∈ combiningKeywords := by simp [combiningKeywords]
  unfold Schema.ofMembers
  rw [← hlisted, ← h.value "$ref" List.mem_cons_self]
  cases hvalues : listed one with
  | malformed => exact hmalformed _
  | _ =>
    rw [hvalues] at hkinds
    cases OrderedMap.get? one "$ref" with
    | some value =>
      cases value with
      | string target => exact rules.refl _
      | _ => exact hmalformed _
    | none =>
      exact combined hmalformed (List.mem_cons_of_mem _ hall) h (rules.allOf (hlist _ hall))
        (combined hmalformed (List.mem_cons_of_mem _ hone) h (rules.anyOf (hlist _ hone))
          (combined hmalformed (List.mem_cons_of_mem _ hany) h
            (rules.anyOf (hlist _ hany)) hkinds))

omit hmalformed in
theorem ofJson_object (hnullable : isNullable one = isNullable other)
    (hmembers : R (Schema.ofMembers location one (partsOf location one))
      (Schema.ofMembers place other (partsOf place other))) :
    R (ofJson location (.object one)) (ofJson place (.object other)) := by
  rw [Schema.ofJson_object, Schema.ofJson_object, ← hnullable]
  cases isNullable one with
  | true => exact rules.nullable hmembers
  | false => exact hmembers

end Node

end Congruence

/-! ## The same node at two places -/

/-- A relation that does not mind either where a node stands that cannot be read. -/
structure IgnoresPlaces (R : Schema → Schema → Prop) : Prop extends Congruence R where
  malformed : ∀ location place reason, R (malformed location reason) (malformed place reason)

namespace IgnoresPlaces

mutual

/-- If what cannot be read is related wherever it stands, so is every node. -/
theorem ofJson (rules : IgnoresPlaces R) (location place : Reference) : ∀ node : Json,
    R (ofJson location node) (ofJson place node)
  | .object members => by
    have hparts : ∀ keywords, Matches R keywords members members (partsOf location members)
        (partsOf place members) := fun keywords =>
      ⟨fun _ _ => rfl, fun keyword _ => rules.listAt location place keyword members,
        fun keyword _ => rules.schemaAt location place keyword members,
        fun _ => rules.fieldsAt location place members⟩
    have hbad := rules.malformed location place
    have hcongruence := rules.toCongruence
    refine hcongruence.ofJson_object rfl (hcongruence.ofMembers hbad (hparts _) rfl ?_)
    refine hcongruence.ofKinds hbad rfl rfl fun kind => ?_
    exact hcongruence.ofKind hbad (hparts _) (hcongruence.ofArray hbad (hparts _)) kind
  | .bool _ => rules.refl _
  | .null => rules.malformed _ _ _
  | .number _ => rules.malformed _ _ _
  | .string _ => rules.malformed _ _ _
  | .array _ => rules.malformed _ _ _

theorem listAt (rules : IgnoresPlaces R) (location place : Reference) (keyword : String) :
    ∀ members : List (String × Json),
      List.Forall₂ R (listAt location keyword members) (listAt place keyword members)
  | [] => .nil
  | (name, value) :: rest => by
    have hrest := rules.listAt location place keyword rest
    cases value with
    | array items =>
      rw [Schema.listAt, Schema.listAt]
      split
      · exact rules.ofItems (location.child keyword) (place.child keyword) 0 items
      · exact hrest
    | _ =>
      unfold Schema.listAt
      split
      · exact .nil
      · exact hrest

theorem schemaAt (rules : IgnoresPlaces R) (location place : Reference) (keyword : String) :
    ∀ members : List (String × Json),
      R (schemaAt location keyword members) (schemaAt place keyword members)
  | [] => rules.refl _
  | (name, value) :: rest => by
    rw [Schema.schemaAt, Schema.schemaAt]
    split
    · exact rules.ofJson (location.child keyword) (place.child keyword) value
    · exact rules.schemaAt location place keyword rest

theorem fieldsAt (rules : IgnoresPlaces R) (location place : Reference) :
    ∀ members : List (String × Json),
      List.Forall₂ (fun field other : String × Schema => field.1 = other.1 ∧ R field.2 other.2)
        (fieldsAt location members) (fieldsAt place members)
  | [] => .nil
  | (name, value) :: rest => by
    have hrest := rules.fieldsAt location place rest
    cases value with
    | object fields =>
      rw [Schema.fieldsAt, Schema.fieldsAt]
      split
      · exact rules.ofFields (location.child "properties") (place.child "properties") fields
      · exact hrest
    | _ =>
      unfold Schema.fieldsAt
      split
      · exact .nil
      · exact hrest

theorem ofItems (rules : IgnoresPlaces R) (location place : Reference) (index : Nat) :
    ∀ items : List Json, List.Forall₂ R (ofItems location index items) (ofItems place index items)
  | [] => .nil
  | item :: rest => .cons
      (rules.ofJson (location.child (toString index)) (place.child (toString index)) item)
      (rules.ofItems location place (index + 1) rest)

theorem ofFields (rules : IgnoresPlaces R) (location place : Reference) :
    ∀ fields : List (String × Json),
      List.Forall₂ (fun field other : String × Schema => field.1 = other.1 ∧ R field.2 other.2)
        (ofFields location fields) (ofFields place fields)
  | [] => .nil
  | (name, value) :: rest => .cons
      ⟨rfl, rules.ofJson (location.child name) (place.child name) value⟩
      (rules.ofFields location place rest)

end

end IgnoresPlaces

end SchemaTypes.Schema
