import Mathlib.Data.List.Induction
import SchemaTypes.Proofs.Schema.Alike
import SchemaTypes.Proofs.Schema.Parsing

set_option autoImplicit false

/-!
# Different spellings of the same schema

A list of types with `null` in it and the two flags, `const` and `enum` with one value, the two
forms of lists with known items, a combination of one schema and the schema itself: each of them can
be written in the place of the other.  Two spellings have the same under all keywords but those in
which they differ, so it is enough to look at what reads these.
-/

namespace SchemaTypes.Schema

variable {R : Schema → Schema → Prop} {location : Reference} {one other base : Members}
  {keyword : String} {value : Json}

/-! ## Nodes that differ under some keywords -/

/-- Two nodes have the same under all keywords but some. -/
def AgreeExcept (keywords : List String) (one other : Members) : Prop :=
  ∀ keyword ∉ keywords, OrderedMap.get? one keyword = OrderedMap.get? other keyword

/-- A node has a value under a keyword, and under any other what another node has there. -/
structure Says (members base : Members) (keyword : String) (value : Json) : Prop where
  value : OrderedMap.get? members keyword = some value
  rest : AgreeExcept [keyword] members base

theorem says_insert (base : Members) (keyword : String) (value : Json) :
    Says (OrderedMap.insert base keyword value) base keyword value where
  value := by rw [OrderedMap.get?_insert, if_pos rfl]
  rest other hother := by
    have hne : keyword ≠ other := by
      rintro rfl
      exact hother (List.mem_singleton_self keyword)
    rw [OrderedMap.get?_insert, if_neg hne]

/-- Under any other keyword a node has what the node has from which it differs. -/
theorem Says.get?_of_ne (h : Says one base keyword value) {another : String}
    (hne : another ≠ keyword) : OrderedMap.get? one another = OrderedMap.get? base another :=
  h.rest another fun hmem => hne (List.mem_singleton.mp hmem)

namespace AgreeExcept

variable {keywords : List String}

/-- Two nodes that differ from a third one under some keywords differ under these only. -/
theorem join {others : List String} (h : AgreeExcept keywords one base)
    (hother : AgreeExcept others other base) : AgreeExcept (keywords ++ others) one other := by
  intro keyword hmem
  rw [List.mem_append, not_or] at hmem
  rw [h keyword hmem.1, hother keyword hmem.2]

theorem mono {more : List String} (h : AgreeExcept keywords one other) (hsubset : keywords ⊆ more) :
    AgreeExcept more one other := fun keyword hmem => h keyword fun hin => hmem (hsubset hin)

theorem isNullable (h : AgreeExcept keywords one other)
    (hapart : ∀ flag ∈ ["nullable", "x-nullable"], flag ∉ keywords) :
    isNullable one = isNullable other := by
  unfold Schema.isNullable isSet
  rw [h "nullable" (hapart _ (by simp)), h "x-nullable" (hapart _ (by simp))]

theorem listed (h : AgreeExcept keywords one other)
    (hapart : ∀ keyword ∈ ["enum", "const"], keyword ∉ keywords) : listed one = listed other := by
  unfold Schema.listed
  rw [h "enum" (hapart _ (by simp)), h "const" (hapart _ (by simp))]

theorem impliedKinds (h : AgreeExcept keywords one other) (values : List Json)
    (hapart : ∀ keyword ∈ listKeywords ++ objectKeywords, keyword ∉ keywords) :
    impliedKinds one values = impliedKinds other values := by
  unfold Schema.impliedKinds OrderedMap.contains
  rw [h "properties" (hapart _ (by simp [objectKeywords])),
    h "additionalProperties" (hapart _ (by simp [objectKeywords])),
    h "items" (hapart _ (by simp [listKeywords])),
    h "prefixItems" (hapart _ (by simp [listKeywords]))]

/-- Nodes have related parts under the keywords under which they agree. -/
theorem sameUnder (rules : Congruence R) (h : AgreeExcept keywords one other)
    {shared : List String} (hapart : ∀ keyword ∈ shared, keyword ∉ keywords) :
    Matches R shared one other (partsOf location one) (partsOf location other) where
  value keyword hmem := h keyword (hapart keyword hmem)
  list keyword hmem := by
    have hsame : listAt location keyword one = listAt location keyword other := by
      rw [listAt_eq, listAt_eq, h keyword (hapart keyword hmem)]
    change List.Forall₂ R (listAt location keyword one) (listAt location keyword other)
    rw [hsame]
    exact List.forall₂_same.mpr fun schema _ => rules.refl schema
  schema keyword hmem := by
    have hsame : schemaAt location keyword one = schemaAt location keyword other := by
      rw [schemaAt_eq, schemaAt_eq, h keyword (hapart keyword hmem)]
    change R (schemaAt location keyword one) (schemaAt location keyword other)
    rw [hsame]
    exact rules.refl _
  fields hmem := by
    have hsame : fieldsAt location one = fieldsAt location other := by
      rw [fieldsAt_eq, fieldsAt_eq, h "properties" (hapart "properties" hmem)]
    change List.Forall₂ _ (fieldsAt location one) (fieldsAt location other)
    rw [hsame]
    exact List.forall₂_same.mpr fun field _ => ⟨rfl, rules.refl field.2⟩

theorem ofArray (rules : Congruence R) (h : AgreeExcept keywords one other)
    (hapart : ∀ keyword ∈ listKeywords, keyword ∉ keywords) :
    R (Schema.ofArray location one (partsOf location one))
      (Schema.ofArray location other (partsOf location other)) :=
  rules.ofArray (fun _ => rules.refl _) (h.sameUnder rules hapart)

/-- Nodes that differ only in what allows values, implies kinds and describes lists are related if
they list the same values, imply the same kinds and are related as lists. -/
theorem ofMembers (rules : Congruence R) (h : AgreeExcept keywords one other)
    (hapart : ∀ keyword ∈ "$ref" :: combiningKeywords ++ "type" :: "format" :: objectKeywords,
      keyword ∉ keywords)
    (hlisted : Schema.listed one = Schema.listed other)
    (himplied : ∀ values, Schema.impliedKinds one values = Schema.impliedKinds other values)
    (harray : R (Schema.ofArray location one (partsOf location one))
      (Schema.ofArray location other (partsOf location other))) :
    R (ofMembers location one (partsOf location one))
      (ofMembers location other (partsOf location other)) := by
  have hmalformed : ∀ reason, R (malformed location reason) (malformed location reason) :=
    fun reason => rules.refl _
  have hdeclared : declaredKinds one = declaredKinds other := by
    unfold declaredKinds
    rw [h "type" (hapart _ (by simp))]
  refine rules.ofMembers hmalformed (h.sameUnder rules ?_) hlisted ?_
  · exact fun keyword hmem => hapart keyword (List.mem_append_left _ hmem)
  · refine rules.ofKinds hmalformed hdeclared (himplied _) ?_
    refine rules.ofKind hmalformed (h.sameUnder rules ?_) harray
    exact fun keyword hmem => hapart keyword (List.mem_append_right _ (List.mem_cons_of_mem _ hmem))

/-- What a node is as one of its types does not depend on its types. -/
theorem ofKind (h : AgreeExcept ["type"] one other) (values : List Json) (kind : Kind) :
    ofKind location one values (partsOf location one) kind =
      ofKind location other values (partsOf location other) kind :=
  congruence_eq.ofKind (fun _ => rfl) (h.sameUnder congruence_eq (by decide))
    (h.ofArray congruence_eq (by decide)) kind

end AgreeExcept

/-! ## Nodes that only their types decide -/

/-- A node without flags that neither is a reference nor combines schemas. -/
structure ByTypes (members : Members) : Prop where
  alone : ∀ keyword ∈ "$ref" :: combiningKeywords, OrderedMap.get? members keyword = none
  unflagged : isNullable members = false

/-- The schema that such a node has if it declares these types. -/
def declaring (location : Reference) (members : Members) (kinds : List Kind) : Schema :=
  match listed members with
  | .malformed => malformed location "`enum` must be an array"
  | values => anyOf (kinds.map (ofKind location members values.toList (partsOf location members)))

namespace ByTypes

/-- Other types leave a node as it is in that respect. -/
theorem of_agree (h : ByTypes base) (hagree : AgreeExcept ["type"] one base) : ByTypes one where
  alone keyword hmem := by
    have hapart : ∀ keyword ∈ "$ref" :: combiningKeywords, keyword ∉ ["type"] := by decide
    rw [hagree keyword (hapart keyword hmem), h.alone keyword hmem]
  unflagged := (hagree.isNullable (by decide)).trans h.unflagged

/-- All that is read of such a node is its types, as long as it agrees with another one on the
rest. -/
theorem ofJson_of_agree (h : ByTypes base) (hagree : AgreeExcept ["type"] one base)
    {kinds : List Kind} (hdeclared : declaredKinds one = .ok kinds) (hkinds : kinds ≠ [])
    (location : Reference) : ofJson location (.object one) = declaring location base kinds := by
  have hone := h.of_agree hagree
  rw [ofJson_object, hone.unflagged]
  unfold ofMembers combined declaring
  rw [hone.alone "$ref" (by simp), hone.alone "allOf" (by simp [combiningKeywords]),
    hone.alone "oneOf" (by simp [combiningKeywords]),
    hone.alone "anyOf" (by simp [combiningKeywords]), hagree.listed (by decide)]
  cases listed base with
  | malformed => rfl
  | _ =>
    simp only [ofKinds, hdeclared]
    cases kinds with
    | nil => exact absurd rfl hkinds
    | cons first rest =>
      exact congrArg anyOf (List.map_congr_left fun kind _ => hagree.ofKind _ kind)

theorem ofJson (h : ByTypes base) {kinds : List Kind} (hdeclared : declaredKinds base = .ok kinds)
    (hkinds : kinds ≠ []) (location : Reference) :
    ofJson location (.object base) = declaring location base kinds :=
  h.ofJson_of_agree (fun _ _ => rfl) hdeclared hkinds location

end ByTypes

/-! ## References -/

/-- The `enum` of a node is a list, if there is one. -/
def EnumIsList (members : Members) : Prop :=
  ∀ value, OrderedMap.get? members "enum" = some value → ∃ items, value = .array items

theorem listed_eq_malformed_iff : listed one = .malformed ↔ ¬ EnumIsList one := by
  unfold listed EnumIsList
  cases OrderedMap.get? one "enum" with
  | none => cases OrderedMap.get? one "const" <;> simp
  | some value => cases value <;> simp

/-- Of a node that is a reference only that and the flags are looked at, as long as its `enum` is no
obstacle; where it stands does not matter. -/
theorem ofJson_reference {target : String}
    (href : OrderedMap.get? one "$ref" = some (.string target)) (henum : EnumIsList one)
    (location : Reference) :
    ofJson location (.object one) =
      if isNullable one then nullable (reference target) else reference target := by
  rw [ofJson_object]
  unfold ofMembers
  rw [href]
  cases hlisted : listed one with
  | malformed => exact absurd henum (listed_eq_malformed_iff.mp hlisted)
  | _ => rfl

/-- An `enum` that is no list is looked at before anything else. -/
theorem elaborate_of_enum (henum : ¬ EnumIsList one) (location : Reference)
    (resolve : Reference → Run TypeExpr) (session : Session) :
    (ofJson location (.object one)).elaborate resolve session =
      .error (.malformedSchema location.canonical "`enum` must be an array") session := by
  rw [ofJson_object]
  unfold ofMembers
  rw [listed_eq_malformed_iff.mpr henum]
  split <;> rfl

/-! ## Names of types -/

/-- The name of a type. -/
def Kind.name : Kind → String
  | .string => "string"
  | .number => "number"
  | .integer => "integer"
  | .boolean => "boolean"
  | .array => "array"
  | .object => "object"
  | .null => "null"

theorem Kind.ofName?_eq_some {name : String} {kind : Kind} :
    ofName? name = some kind ↔ name = kind.name := by
  constructor
  · intro h
    unfold ofName? at h
    repeat' split at h
    all_goals cases h
    all_goals assumption
  · rintro rfl
    cases kind <;> decide

/-- The known types among names, each once, in the order of their first names. -/
def knownNames (names : List String) : List String :=
  (names.filter fun name => (Kind.ofName? name).isSome).eraseDups

theorem mem_knownNames {names : List String} {name : String} :
    name ∈ knownNames names ↔ name ∈ names ∧ ∃ kind, Kind.ofName? name = some kind := by
  unfold knownNames
  rw [List.mem_eraseDups, List.mem_filter, Option.isSome_iff_exists]

/-- A name at the end is known besides if it is the first one of a type. -/
theorem knownNames_append_singleton (names : List String) (name : String) :
    knownNames (names ++ [name]) =
      if (Kind.ofName? name).isSome ∧ name ∉ names then knownNames names ++ [name]
      else knownNames names := by
  unfold knownNames
  rw [List.filter_append, List.eraseDups_append]
  cases hname : Kind.ofName? name with
  | none => simp [hname, List.removeAll]
  | some kind =>
    by_cases hmem : name ∈ names <;>
      simp [hname, hmem, List.removeAll, List.eraseDups_cons]

/-- The types that names declare are those of the known names. -/
theorem kindsOfNames_eq (names : List String) :
    kindsOfNames names = (knownNames names).filterMap Kind.ofName? := by
  induction names using List.reverseRecOn with
  | nil => rfl
  | append_singleton names name ih =>
    rw [knownNames_append_singleton]
    cases hname : Kind.ofName? name with
    | none => simpa [kindsOfNames, hname] using ih
    | some kind =>
      have hstep : kindsOfNames (names ++ [name]) = addKind (kindsOfNames names) kind := by
        simp [kindsOfNames, hname]
      -- a type is there already exactly if its one name is
      have hmem : kind ∈ kindsOfNames names ↔ name ∈ names := by
        rw [ih, List.mem_filterMap]
        constructor
        · rintro ⟨other, hother, hkind⟩
          rw [Kind.ofName?_eq_some.mp hname, ← Kind.ofName?_eq_some.mp hkind]
          exact (mem_knownNames.mp hother).1
        · exact fun h => ⟨name, mem_knownNames.mpr ⟨h, kind, hname⟩, hname⟩
      rw [hstep]
      simp only [addKind, List.contains_iff_mem, hmem]
      by_cases hin : name ∈ names
      · simp [hin, ih]
      · simp [hin, ih, hname]

theorem declaredKinds_of_name {name : String}
    (h : OrderedMap.get? one "type" = some (.string name)) :
    declaredKinds one = .ok (kindsOfNames [name]) := by
  unfold declaredKinds
  rw [h]

theorem texts?_map_string (names : List String) : texts? (names.map .string) = some names := by
  induction names with
  | nil => rfl
  | cons name rest ih => rw [List.map_cons, texts?, ih, Option.map_some]

theorem declaredKinds_of_names {names : List String}
    (h : OrderedMap.get? one "type" = some (.array (names.map .string))) :
    declaredKinds one = .ok (kindsOfNames names) := by
  unfold declaredKinds
  rw [h]
  simp only [texts?_map_string]

theorem filterMap_knownNames_ne_nil {names : List String} (h : knownNames names ≠ []) :
    (knownNames names).filterMap Kind.ofName? ≠ [] := by
  obtain ⟨name, hname⟩ := List.exists_mem_of_ne_nil _ h
  obtain ⟨-, kind, hkind⟩ := mem_knownNames.mp hname
  exact List.ne_nil_of_mem (List.mem_filterMap.mpr ⟨name, hname, hkind⟩)

/-- What a node with a list of types declares are its known types. -/
theorem ByTypes.ofJson_of_names {names : List String} (h : ByTypes base)
    (hagree : AgreeExcept ["type"] one base)
    (htype : OrderedMap.get? one "type" = some (.array (names.map .string)))
    (hknown : knownNames names ≠ []) (location : Reference) :
    Schema.ofJson location (.object one) =
      declaring location base ((knownNames names).filterMap Kind.ofName?) := by
  have hdeclared : declaredKinds one = .ok ((knownNames names).filterMap Kind.ofName?) := by
    rw [declaredKinds_of_names htype, kindsOfNames_eq]
  exact h.ofJson_of_agree hagree hdeclared (filterMap_knownNames_ne_nil hknown) location

/-! ## Spellings -/

/-- A flag says that a node may be `null` besides. -/
theorem ofJson_flag {flag : String} (hflag : flag ∈ ["nullable", "x-nullable"])
    (hunflagged : isNullable base = false) (h : Says one base flag (.bool true))
    (location : Reference) :
    ofJson location (.object one) = nullable (ofJson location (.object base)) := by
  have hagree : AgreeExcept ["nullable", "x-nullable"] one base :=
    h.rest.mono (List.cons_subset.mpr ⟨hflag, List.nil_subset _⟩)
  have hset : isNullable one = true := by
    unfold isNullable isSet
    rcases List.mem_pair.mp hflag with rfl | rfl
    · rw [h.value]
      rfl
    · rw [h.value, Bool.or_true]
  rw [ofJson_object, ofJson_object, hset, hunflagged]
  exact congrArg nullable (hagree.ofMembers congruence_eq (by decide) (hagree.listed (by decide))
    (fun values => hagree.impliedKinds values (by decide))
    (hagree.ofArray congruence_eq (by decide)))

/-- The one value that is allowed can be listed. -/
theorem ofJson_const (habsent : OrderedMap.get? base "enum" = none)
    (hone : Says one base "const" value) (hother : Says other base "enum" (.array [value]))
    (location : Reference) :
    ofJson location (.object one) = ofJson location (.object other) := by
  have hagree : AgreeExcept ["const", "enum"] one other := hone.rest.join hother.rest
  have hlisted : listed one = listed other := by
    unfold listed
    rw [hother.value, hone.get?_of_ne (by decide), habsent, hone.value]
  exact congruence_eq.ofJson_object (hagree.isNullable (by decide))
    (hagree.ofMembers congruence_eq (by decide) hlisted
      (fun values => hagree.impliedKinds values (by decide))
      (hagree.ofArray congruence_eq (by decide)))

/-- Known items can stand under either keyword for items. -/
theorem alike_prefixItems {items : List Json} (habsent : OrderedMap.get? base "prefixItems" = none)
    (hone : Says one base "prefixItems" (.array items))
    (hother : Says other base "items" (.array items)) (location : Reference) :
    Alike (ofJson location (.object one)) (ofJson location (.object other)) := by
  have hagree : AgreeExcept ["prefixItems", "items"] one other := hone.rest.join hother.rest
  have hnone : OrderedMap.get? other "prefixItems" = none :=
    (hother.get?_of_ne (by decide)).trans habsent
  have himplied : ∀ values, impliedKinds one values = impliedKinds other values := by
    intro values
    unfold impliedKinds OrderedMap.contains
    rw [hagree "properties" (by decide), hagree "additionalProperties" (by decide), hone.value,
      hother.value, Option.isSome_some, Bool.or_true]
    rfl
  have harray : Alike (ofArray location one (partsOf location one))
      (ofArray location other (partsOf location other)) := by
    unfold ofArray
    rw [hone.value, hnone, hother.value]
    refine ignoresPlaces_alike.tuple ?_
    change List.Forall₂ Alike (listAt location "prefixItems" one) (listAt location "items" other)
    rw [listAt_eq, listAt_eq, hone.value, hother.value]
    exact ignoresPlaces_alike.ofItems _ _ 0 items
  have hrules := ignoresPlaces_alike.toCongruence
  exact hrules.ofJson_object (hagree.isNullable (by decide))
    (hagree.ofMembers hrules (by decide) (hagree.listed (by decide)) himplied harray)

/-- A type and `null` together are the type, or `null`. -/
theorem alike_types_with_null {name : String} {kind : Kind} (hbase : ByTypes base)
    (hname : Kind.ofName? name = some kind) (hkind : kind ≠ .null)
    (hdeclared : declaredKinds base = .ok [kind])
    (h : Says one base "type" (.array [.string name, .string "null"])) (location : Reference) :
    Alike (ofJson location (.object one)) (nullable (ofJson location (.object base))) := by
  have hnames : kindsOfNames [name, "null"] = addKind [kind] .null := by
    simp only [kindsOfNames, List.filterMap_cons, hname]
    rfl
  have hboth : declaredKinds one = .ok [kind, .null] := by
    have htype : OrderedMap.get? one "type" = some (.array ([name, "null"].map .string)) := h.value
    rw [declaredKinds_of_names htype, hnames]
    simp [addKind, hkind.symm]
  rw [hbase.ofJson_of_agree h.rest hboth (List.cons_ne_nil _ _),
    hbase.ofJson hdeclared (List.cons_ne_nil _ _)]
  unfold declaring
  cases listed base with
  | malformed => exact fun resolve session type final => ⟨nofun, nofun⟩
  | _ => exact fun resolve => (whole_ofKind _ kind).elaborate_anyOf_null ▸ .refl _

/-- A combination of one schema holds the schema of that node. -/
theorem ofJson_combined (location : Reference) (hkeyword : keyword ∈ combiningKeywords)
    (node : Json) :
    let schema := ofJson ((location.child keyword).child "0") node
    ofJson location (.object [(keyword, .array [node])]) = allOf [schema] ∨
      ofJson location (.object [(keyword, .array [node])]) = anyOf [schema] := by
  simp only [combiningKeywords, List.mem_cons, List.not_mem_nil, or_false] at hkeyword
  rcases hkeyword with rfl | rfl | rfl
  · exact Or.inl rfl
  · exact Or.inr rfl
  · exact Or.inr rfl

theorem elaborateAll_eq_inOrder (resolve : Reference → Run TypeExpr) (schemas : List Schema) :
    elaborateAll resolve schemas = inOrder (schemas.map (elaborate resolve)) := by
  induction schemas with
  | nil => rfl
  | cons schema rest ih => rw [elaborateAll, List.map_cons, inOrder, ih]

/-- The types of a node of several types are those of the node as each of these types in turn. -/
theorem elaborate_declaring {kinds : List Kind} (hkinds : kinds ≠ [])
    (resolve : Reference → Run TypeExpr) :
    (declaring location base kinds).elaborate resolve = do
      let types ← inOrder (kinds.map fun kind =>
        (declaring location base [kind]).elaborate resolve)
      return TypeExpr.unionOf types := by
  unfold declaring
  cases listed base with
  | malformed =>
    cases kinds with
    | nil => exact absurd rfl hkinds
    | cons => rfl
  | _ =>
    simp only [List.map_cons, List.map_nil]
    rw [elaborate]
    refine congrArg (· >>= _) ?_
    rw [elaborateAll_eq_inOrder, List.map_map]
    exact congrArg inOrder (List.map_congr_left fun kind _ =>
      (whole_ofKind _ kind).elaborate_anyOf.symm)

end SchemaTypes.Schema
