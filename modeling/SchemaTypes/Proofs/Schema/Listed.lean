import SchemaTypes.Proofs.Schema.Spellings
import SchemaTypes.Proofs.TypeExpr.Members

set_option autoImplicit false

/-!
# Listed values

A node that lists its values is one of them.  Each of its types admits some of the values; a type
that admits texts, numbers or truth values stands for these as literals, and any other one for what
it always stands for.  So no value is lost that a type admits, none comes in besides, and equal
values, whichever types admit them, are one literal.
-/

namespace SchemaTypes

namespace Schema

variable {values : List Json} {kind : Kind} {members : Members} {location : Reference}
  {parts : Parts} {resolve : Reference → Run TypeExpr}

/-! ## What a type stands for -/

/-- The literal of a text, a number or a truth value. -/
def scalar? : Json → Option Literal
  | .null => none
  | value => literal? value

/-- The literals of the listed values that a type admits. -/
def literalsAs (values : List Json) (kind : Kind) : List Literal :=
  (values.filter kind.admits).filterMap scalar?

/-- The types that a listed type stands for: literals, or its own type if there are none. -/
def typesAs (values : List Json) (plain : Kind → TypeExpr) (kind : Kind) : List TypeExpr :=
  match literalsAs values kind with
  | [] => [plain kind]
  | literals => literals.map .literal

/-- The type of texts of the format that a node names. -/
def plainText (config : Config) (members : Members) : TypeExpr :=
  match format? members with
  | some format =>
    if config.isTemporal format then
      .provided config.dateType.displayName config.dateType.backingName
    else .string
  | none => .string

/-- The type of all values of a type, for a node that says nothing of items or properties. -/
def plainType (config : Config) (members : Members) : Kind → TypeExpr
  | .string => plainText config members
  | .number => .number
  | .integer => .number
  | .boolean => .boolean
  | .null => .null
  | .array => .array .unknown
  | .object => .anyObject

/-- A node without a keyword for items or properties. -/
def Partless (members : Members) : Prop :=
  ∀ keyword ∈ ["properties", "additionalProperties", "items", "prefixItems"],
    OrderedMap.get? members keyword = none

theorem textType_format? (members : Members) (session : Session) :
    ∃ final, textType (format? members) session =
      .ok (plainText session.config members) final ∧ final.config = session.config := by
  unfold textType plainText
  cases format? members with
  | none => exact ⟨session, rfl, rfl⟩
  | some format =>
    cases htemporal : session.config.isTemporal format with
    | true =>
      simp only [htemporal, if_true]
      exact ⟨_, rfl, rfl⟩
    | false =>
      simp only [htemporal, Bool.false_eq_true, if_false]
      exact ⟨session, rfl, rfl⟩

/-- A type other than `null` admits no `null`. -/
theorem filterMap_literal? (hkind : kind ≠ .null) :
    (values.filter kind.admits).filterMap literal? = literalsAs values kind := by
  refine List.filterMap_congr fun value hvalue => ?_
  cases value with
  | null =>
    have hadmits := (List.mem_filter.mp hvalue).2
    cases kind <;> simp [Kind.admits, Kind.ofValue] at hadmits hkind
  | _ => rfl

/-- Texts, numbers and truth values have literals, and the values of the other types have none. -/
theorem scalar?_isSome {value : Json} (hadmits : kind.admits value = true) :
    (scalar? value).isSome ↔ kind ∉ [Kind.null, .array, .object] := by
  cases kind <;> cases value <;> simp_all [Kind.admits, Kind.ofValue, scalar?, literal?]

/-- No listed value comes out as a literal of a type if the type admits none, or has none. -/
theorem literalsAs_eq_nil_iff : literalsAs values kind = [] ↔
    kind ∈ [Kind.null, .array, .object] ∨ ∀ value ∈ values, kind.admits value = false := by
  unfold literalsAs
  rw [List.filterMap_eq_nil_iff]
  constructor
  · intro h
    by_cases hkind : kind ∈ [Kind.null, .array, .object]
    · exact Or.inl hkind
    · refine Or.inr fun value hvalue => Bool.eq_false_iff.mpr fun hadmits => ?_
      have hsome := (scalar?_isSome hadmits).mpr hkind
      rw [h value (List.mem_filter.mpr ⟨hvalue, hadmits⟩)] at hsome
      cases hsome
  · rintro h value hvalue
    obtain ⟨hvalue, hadmits⟩ := List.mem_filter.mp hvalue
    rcases h with hkind | hnone
    · exact Option.not_isSome_iff_eq_none.mp fun hsome => (scalar?_isSome hadmits).mp hsome hkind
    · cases (hnone value hvalue).symm.trans hadmits

/-- The plain types are neither put together out of members nor literals. -/
theorem simple_plainType (config : Config) (members : Members) (kind : Kind) :
    (plainType config members kind).Simple := by
  cases kind with
  | string =>
    unfold plainType plainText
    repeat' split
    all_goals trivial
  | _ => trivial

theorem typesAs_ne_nil (values : List Json) (plain : Kind → TypeExpr) (kind : Kind) :
    typesAs values plain kind ≠ [] := by
  unfold typesAs
  split
  · exact List.cons_ne_nil _ _
  · rename_i hsome
    exact fun h => hsome (List.map_eq_nil_iff.mp h)

theorem union_not_mem_typesAs (config : Config) (kind : Kind) (inner : List TypeExpr) :
    .union inner ∉ typesAs values (plainType config members) kind := by
  unfold typesAs
  split
  · exact fun h => (simple_plainType config members kind).ne_union (List.mem_singleton.mp h).symm
  · simp

/-! ## The type of a node -/

/-- A type that admits literals is elaborated to these, and any other one to what it is without
them. -/
theorem elaborate_literalsOr (hkind : kind ≠ .null) {otherwise : Schema} {plain : Kind → TypeExpr}
    (hproper : (plain kind).Proper) {session final : Session}
    (h : otherwise.elaborate resolve session = .ok (plain kind) final)
    (hconfig : final.config = session.config) :
    ∃ final, (literalsOr values kind otherwise).elaborate resolve session =
      .ok (TypeExpr.unionOf (typesAs values plain kind)) final ∧
        final.config = session.config := by
  unfold literalsOr typesAs
  rw [filterMap_literal? hkind]
  cases literalsAs values kind with
  | nil => exact ⟨final, by rw [hproper.unionOf_singleton]; exact h, hconfig⟩
  | cons => exact ⟨session, rfl, rfl⟩

section Types

variable (values) (location) (resolve)

/-- A type of a node without items and properties is the union of what it stands for. -/
theorem elaborate_ofKind (parts : Parts) (hparts : Partless members) (kind : Kind)
    (session : Session) :
    ∃ final, (ofKind location members values parts kind).elaborate resolve session =
      .ok (TypeExpr.unionOf (typesAs values (plainType session.config members) kind)) final ∧
        final.config = session.config := by
  have hproper := (simple_plainType session.config members kind).proper
  have hconstant : ∀ type : TypeExpr,
      (exactly type).elaborate resolve session = .ok type session := fun _ => rfl
  have hplain : kind ∈ [Kind.null, .array, .object] →
      TypeExpr.unionOf (typesAs values (plainType session.config members) kind) =
        plainType session.config members kind := by
    intro hkind
    rw [typesAs, literalsAs_eq_nil_iff.mpr (Or.inl hkind)]
    exact hproper.unionOf_singleton
  cases kind with
  | string =>
    obtain ⟨final, htext, hconfig⟩ := textType_format? members session
    exact elaborate_literalsOr (by decide) hproper htext hconfig
  | number => exact elaborate_literalsOr (by decide) hproper (hconstant _) rfl
  | integer => exact elaborate_literalsOr (by decide) hproper (hconstant _) rfl
  | boolean => exact elaborate_literalsOr (by decide) hproper (hconstant _) rfl
  | null =>
    rw [hplain (by simp)]
    exact ⟨session, rfl, rfl⟩
  | array =>
    rw [hplain (by simp)]
    unfold ofKind ofArray
    rw [hparts "prefixItems" (by simp), hparts "items" (by simp)]
    exact ⟨session, rfl, rfl⟩
  | object =>
    rw [hplain (by simp)]
    unfold ofKind ofObject
    rw [hparts "properties" (by simp), hparts "additionalProperties" (by simp)]
    exact ⟨session, rfl, rfl⟩

theorem elaborateAll_ofKind (parts : Parts) (hparts : Partless members) (kinds : List Kind)
    (session : Session) :
    ∃ final, elaborateAll resolve (kinds.map (ofKind location members values parts)) session =
      .ok (kinds.map fun kind =>
        TypeExpr.unionOf (typesAs values (plainType session.config members) kind)) final := by
  induction kinds generalizing session with
  | nil => exact ⟨session, rfl⟩
  | cons kind rest ih =>
    obtain ⟨middle, hkind, hconfig⟩ :=
      elaborate_ofKind values location resolve parts hparts kind session
    obtain ⟨final, hrest⟩ := ih middle
    rw [hconfig] at hrest
    rw [List.map_cons, elaborateAll, Run.bind_of_ok hkind, Run.bind_of_ok hrest]
    exact ⟨final, rfl⟩

end Types

/-- The types of a node that declares some types and lists some values: what it declares, or else
the types of the values. -/
def kindsOf (declared : List Kind) (values : List Json) : List Kind :=
  if declared.isEmpty then (values.map Kind.ofValue).foldl addKind [] else declared

theorem impliedKinds_of_partless (hparts : Partless members) (values : List Json) :
    impliedKinds members values = (values.map Kind.ofValue).foldl addKind [] := by
  unfold impliedKinds OrderedMap.contains
  rw [hparts "properties" (by simp), hparts "additionalProperties" (by simp),
    hparts "items" (by simp), hparts "prefixItems" (by simp)]
  rfl

/-- Of a node that is nothing but its types and its listed values, only these are read. -/
theorem ByTypes.ofJson_of_listed (hmembers : ByTypes members)
    (hlisted : listed members = .values values) (location : Reference) :
    Schema.ofJson location (.object members) =
      ofKinds location members values (partsOf location members) := by
  rw [ofJson_object, hmembers.unflagged]
  unfold ofMembers combined
  rw [hlisted, hmembers.alone "$ref" (by simp),
    hmembers.alone "allOf" (by simp [combiningKeywords]),
    hmembers.alone "oneOf" (by simp [combiningKeywords]),
    hmembers.alone "anyOf" (by simp [combiningKeywords])]
  rfl

/-- The union of what the types of a node stand for has these types as its members, each once. -/
theorem unionMembers_typesAs (config : Config) {kinds : List Kind} (hkinds : kinds ≠ []) :
    (TypeExpr.unionOf (kinds.map fun kind =>
        TypeExpr.unionOf (typesAs values (plainType config members) kind))).unionMembers =
      TypeExpr.distinctMembers (kinds.flatMap (typesAs values (plainType config members))) := by
  have hflat : ∀ kind inner, .union inner ∉ typesAs values (plainType config members) kind :=
    union_not_mem_typesAs config
  have hgroup : ∀ kind, (TypeExpr.unionOf
      (typesAs values (plainType config members) kind)).unionMembers =
        TypeExpr.distinctMembers (typesAs values (plainType config members) kind) := by
    intro kind
    have hmembers := TypeExpr.flatMap_unionMembers (hflat kind)
    rw [TypeExpr.unionMembers_unionOf, hmembers]
    · rw [hmembers]
      exact typesAs_ne_nil values _ kind
    · rw [hmembers]
      exact hflat kind
  have hgroups : (kinds.map fun kind => TypeExpr.unionOf
      (typesAs values (plainType config members) kind)).flatMap TypeExpr.unionMembers =
        kinds.flatMap fun kind =>
          TypeExpr.distinctMembers (typesAs values (plainType config members) kind) := by
    rw [List.flatMap_map]
    exact List.flatMap_congr fun kind _ => hgroup kind
  rw [TypeExpr.unionMembers_unionOf, hgroups, TypeExpr.distinctMembers_flatMap]
  · rw [hgroups]
    obtain ⟨kind, hkind⟩ := List.exists_mem_of_ne_nil _ hkinds
    obtain ⟨type, htype⟩ := List.exists_mem_of_ne_nil _
      (TypeExpr.distinctMembers_ne_nil (typesAs_ne_nil values (plainType config members) kind))
    exact List.ne_nil_of_mem (List.mem_flatMap.mpr ⟨kind, hkind, htype⟩)
  · rw [hgroups]
    intro inner hmem
    obtain ⟨kind, -, htype⟩ := List.mem_flatMap.mp hmem
    exact hflat kind inner (TypeExpr.mem_of_mem_distinctMembers htype)

/-- A node that is nothing but its types and its listed values has, if its types can be read, the
union of what they stand for. -/
theorem ByTypes.elaborate (hmembers : ByTypes members) (hparts : Partless members)
    (hlisted : listed members = .values values) {declared : List Kind}
    (hdeclared : declaredKinds members = .ok declared) (location : Reference)
    (resolve : Reference → Run TypeExpr) (session : Session) :
    ∃ type final, (Schema.ofJson location (.object members)).elaborate resolve session =
        .ok type final ∧
      type.unionMembers = if kindsOf declared values = [] then [.unknown] else
        TypeExpr.distinctMembers ((kindsOf declared values).flatMap
          (typesAs values (plainType session.config members))) := by
  rw [hmembers.ofJson_of_listed hlisted, ofKinds, hdeclared]
  simp only [impliedKinds_of_partless hparts]
  rw [← kindsOf]
  split
  · rename_i hnone
    rw [hnone, if_pos rfl]
    exact ⟨_, session, rfl, rfl⟩
  · rename_i hsome
    obtain ⟨final, hall⟩ := elaborateAll_ofKind values location resolve
      (partsOf location members) hparts (kindsOf declared values) session
    rw [Schema.elaborate, Run.bind_of_ok hall, if_neg hsome]
    exact ⟨_, final, rfl, unionMembers_typesAs session.config hsome⟩

/-! ## Literals -/

/-- What a listed type stands for, by the position of the value. -/
inductive StandsFor (values : List Json) (plain : Kind → TypeExpr) (kind : Kind) :
    Address → TypeExpr → Prop
  | literal {place : Nat} {value : Json} {literal : Literal} (stands : values[place]? = some value)
      (admits : kind.admits value = true) (reads : scalar? value = some literal) :
      StandsFor values plain kind [place] (.literal literal)
  | plain (none : literalsAs values kind = []) : StandsFor values plain kind [0] (plain kind)

theorem enumerates_typesAs (values : List Json) (plain : Kind → TypeExpr) (kind : Kind) :
    Enumerates (StandsFor values plain kind) (typesAs values plain kind) := by
  have hliterals : Enumerates (fun address literal => ∃ place value, address = [place] ∧
      values[place]? = some value ∧ kind.admits value = true ∧ scalar? value = some literal)
        (literalsAs values kind) := by
    unfold literalsAs
    rw [List.filterMap_filter]
    refine ((Enumerates.self values).filterMap _).congr fun address literal => ?_
    constructor
    · rintro ⟨value, ⟨place, rfl, hvalue⟩, hreads⟩
      obtain ⟨hadmits, hreads⟩ := Option.ite_none_right_eq_some.mp hreads
      exact ⟨place, value, rfl, hvalue, hadmits, hreads⟩
    · rintro ⟨place, value, rfl, hvalue, hadmits, hreads⟩
      exact ⟨value, ⟨place, rfl, hvalue⟩, by rw [if_pos hadmits, hreads]⟩
  unfold typesAs
  split
  · rename_i hnone
    refine ((Enumerates.option (some (plain kind))).under 0).congr fun address type => ?_
    constructor
    · rintro ⟨-, rfl, rfl, hplain⟩
      cases hplain
      exact .plain hnone
    · intro h
      cases h with
      | literal stands admits reads =>
        have hmem : _ ∈ literalsAs values kind := List.mem_filterMap.mpr
          ⟨_, List.mem_filter.mpr ⟨List.mem_of_getElem? stands, admits⟩, reads⟩
        rw [hnone] at hmem
        cases hmem
      | plain => exact ⟨[], rfl, rfl, rfl⟩
  · rename_i hsome
    refine (hliterals.map TypeExpr.literal).congr fun address type => ?_
    constructor
    · rintro ⟨literal, ⟨place, value, rfl, hvalue, hadmits, hreads⟩, rfl⟩
      exact .literal hvalue hadmits hreads
    · intro h
      cases h with
      | literal stands admits reads => exact ⟨_, ⟨_, _, rfl, stands, admits, reads⟩, rfl⟩
      | plain none => exact absurd none hsome

/-- The literal of a value, by the first type that admits the value and by the first value that has
this literal. -/
inductive AdmittedAt (kinds : List Kind) (values : List Json) : Address → Literal → Prop
  | value {turn place : Nat} {kind : Kind} {value : Json} {literal : Literal}
      (turns : kinds[turn]? = some kind) (stands : values[place]? = some value)
      (reads : scalar? value = some literal) (admits : kind.admits value = true)
      (firstKind : ∀ earlier ∈ kinds.take turn, earlier.admits value = false)
      (firstValue : ∀ earlier ∈ values.take place, ∀ other, scalar? earlier = some other →
        other.same literal = false) :
      AdmittedAt kinds values [turn, place] literal

/-- Values with equal literals are admitted by the same types. -/
theorem admits_eq_of_same {value other : Json} {one another : Literal}
    (hone : scalar? value = some one) (hanother : scalar? other = some another)
    (hsame : one.same another = true) (kind : Kind) : kind.admits value = kind.admits other := by
  cases value <;> cases hone <;> cases other <;> cases hanother <;>
    simp only [Literal.same, Bool.false_eq_true] at hsame
  · cases kind <;> rfl
  · rename_i first second
    cases first <;> cases second <;> simp only [Number.equal, Bool.false_eq_true] at hsame <;>
      cases kind <;> rfl
  · cases kind <;> rfl

theorem mem_take_iff {α : Type} {items : List α} {item : α} {bound : Nat} :
    item ∈ items.take bound ↔ ∃ place < bound, items[place]? = some item := by
  rw [List.mem_iff_getElem?]
  refine exists_congr fun place => ?_
  rw [List.getElem?_take]
  split <;> simp [*]

theorem before_pair_iff {turn place earlier first : Nat} :
    Address.Before [earlier, first] [turn, place] ↔
      earlier < turn ∨ (earlier = turn ∧ first < place) := by
  unfold Address.Before
  rw [List.cons_lex_cons_iff, List.cons_lex_cons_iff]
  simp

/-- What the types of a node stand for, type by type. -/
def StandsAt (kinds : List Kind) (values : List Json) (plain : Kind → TypeExpr) (address : Address)
    (type : TypeExpr) : Prop :=
  ∃ outer kind below, (∃ turn, outer = [turn] ∧ kinds[turn]? = some kind) ∧
    StandsFor values plain kind below type ∧ address = outer ++ below

theorem standsAt_literal_iff {config : Config} {kinds : List Kind} {address : Address}
    {literal : Literal} :
    StandsAt kinds values (plainType config members) address (.literal literal) ↔
      ∃ turn place kind value, address = [turn, place] ∧ kinds[turn]? = some kind ∧
        values[place]? = some value ∧ kind.admits value = true ∧ scalar? value = some literal := by
  constructor
  · rintro ⟨outer, kind, below, ⟨turn, rfl, hturn⟩, hstands, rfl⟩
    generalize htype : TypeExpr.literal literal = type at hstands
    cases hstands with
    | literal stands admits reads =>
      cases htype
      exact ⟨_, _, kind, _, rfl, hturn, stands, admits, reads⟩
    | plain => exact absurd htype.symm (simple_plainType config members kind).ne_literal
  · rintro ⟨turn, place, kind, value, rfl, hturn, hvalue, hadmits, hreads⟩
    exact ⟨[turn], kind, [place], ⟨turn, rfl, hturn⟩, .literal hvalue hadmits hreads, rfl⟩

/-- A type stands for a literal before any equal one exactly if it is the first that admits the
value and the value is the first that has the literal. -/
theorem standsAt_first_iff {config : Config} {kinds : List Kind} {address : Address}
    {literal : Literal} :
    (StandsAt kinds values (plainType config members) address (.literal literal) ∧
      ∀ earlier other, StandsAt kinds values (plainType config members) earlier other →
        earlier.Before address → other.same (.literal literal) = false) ↔
      AdmittedAt kinds values address literal := by
  constructor
  · rintro ⟨hstands, hfirst⟩
    obtain ⟨turn, place, kind, value, rfl, hturn, hvalue, hadmits, hreads⟩ :=
      standsAt_literal_iff.mp hstands
    have hfirst : ∀ {earlier before kind' value' literal'}, kinds[earlier]? = some kind' →
        values[before]? = some value' → kind'.admits value' = true →
        scalar? value' = some literal' → (earlier < turn ∨ earlier = turn ∧ before < place) →
          literal'.same literal = false := fun hkind hother hadmits hreads hbefore =>
      hfirst _ _ (standsAt_literal_iff.mpr ⟨_, _, _, _, rfl, hkind, hother, hadmits, hreads⟩)
        (before_pair_iff.mpr hbefore)
    refine .value hturn hvalue hreads hadmits ?_ ?_
    · intro kind' hkind'
      obtain ⟨earlier, hearlier, hkind'⟩ := mem_take_iff.mp hkind'
      refine Bool.eq_false_iff.mpr fun hadmits' => ?_
      have hdiffers := hfirst hkind' hvalue hadmits' hreads (Or.inl hearlier)
      cases (Literal.same_self literal).symm.trans hdiffers
    · intro value' hvalue' literal' hreads'
      obtain ⟨before, hbefore, hvalue'⟩ := mem_take_iff.mp hvalue'
      refine Bool.eq_false_iff.mpr fun hsame => ?_
      have hadmits' := (admits_eq_of_same hreads' hreads hsame kind).trans hadmits
      have hdiffers := hfirst hturn hvalue' hadmits' hreads' (Or.inr ⟨rfl, hbefore⟩)
      cases hsame.symm.trans hdiffers
  · rintro ⟨turns, stands, reads, admits, firstKind, firstValue⟩
    refine ⟨standsAt_literal_iff.mpr ⟨_, _, _, _, rfl, turns, stands, admits, reads⟩, ?_⟩
    intro earlier other hother hbefore
    refine Bool.eq_false_iff.mpr fun hsame => ?_
    obtain ⟨literal', rfl, hsame⟩ := TypeExpr.exists_of_same_literal hsame
    obtain ⟨turn', place', kind', value', rfl, hturn', hvalue', hadmits', hreads'⟩ :=
      standsAt_literal_iff.mp hother
    rcases before_pair_iff.mp hbefore with hlt | ⟨rfl, hlt⟩
    · have hnot := firstKind kind' (mem_take_iff.mpr ⟨turn', hlt, hturn'⟩)
      rw [← admits_eq_of_same hreads' reads hsame kind', hadmits'] at hnot
      cases hnot
    · have hnot := firstValue value' (mem_take_iff.mpr ⟨place', hlt, hvalue'⟩) literal' hreads'
      cases hsame.symm.trans hnot

/-- The literals that the types of a node stand for, each once. -/
theorem enumerates_literals (config : Config) (kinds : List Kind) (values : List Json) :
    Enumerates (AdmittedAt kinds values)
      ((TypeExpr.distinctMembers
        (kinds.flatMap (typesAs values (plainType config members)))).filterMap
          TypeExpr.literal?) := by
  have hdepth : ∀ {address : Address} {kind : Kind},
      (∃ turn, address = [turn] ∧ kinds[turn]? = some kind) → address.length = 1 := by
    rintro address kind ⟨turn, rfl, -⟩
    rfl
  have hall : Enumerates (StandsAt kinds values (plainType config members))
      (kinds.flatMap (typesAs values (plainType config members))) :=
    (Enumerates.self kinds).flatMap hdepth
      (enumerates_typesAs values (plainType config members))
  refine (hall.distinctMembers.filterMap TypeExpr.literal?).congr fun address literal => ?_
  simp only [TypeExpr.literal?_eq_some_iff, exists_eq_right]
  exact standsAt_first_iff

/-! ## Members that are no literals -/

/-- A plain type is there exactly if a type with this plain type admits no listed value. -/
theorem mem_typesAs {config : Config} {kinds : List Kind} {type : TypeExpr}
    (hself : ∀ other, other.same type = true → other = type)
    (hliteral : ∀ literal, type ≠ .literal literal) :
    type ∈ TypeExpr.distinctMembers
        (kinds.flatMap (typesAs values (plainType config members))) ↔
      ∃ kind ∈ kinds, literalsAs values kind = [] ∧ plainType config members kind = type := by
  rw [TypeExpr.mem_distinctMembers hself, List.mem_flatMap]
  refine exists_congr fun kind => and_congr_right fun _ => ?_
  unfold typesAs
  split
  · rename_i hnone
    rw [List.mem_singleton, and_iff_right hnone, eq_comm]
  · rename_i hsome
    refine iff_of_false ?_ fun h => hsome h.1
    rw [List.mem_map]
    rintro ⟨literal, -, rfl⟩
    exact hliteral literal rfl

/-- What the members of a type are if it stands, by its types, for listed values: literals of those
that some type admits, and the plain types of those types that admit none. -/
structure Represents (config : Config) (members : Members) (kinds : List Kind)
    (values : List Json) (type : TypeExpr) : Prop where
  literals : Enumerates (AdmittedAt kinds values) (type.unionMembers.filterMap TypeExpr.literal?)
  null : .null ∈ type.unionMembers ↔ .null ∈ kinds
  text : ∀ part, (part = .string ∨ ∃ display backing, part = .provided display backing) →
    (part ∈ type.unionMembers ↔ part = plainText config members ∧ .string ∈ kinds ∧
      ∀ value ∈ values, Kind.string.admits value = false)
  boolean : .boolean ∈ type.unionMembers ↔ .boolean ∈ kinds ∧
    ∀ value ∈ values, Kind.boolean.admits value = false
  number : .number ∈ type.unionMembers ↔ ∃ kind ∈ [Kind.number, .integer], kind ∈ kinds ∧
    ∀ value ∈ values, kind.admits value = false

theorem plainText_cases (config : Config) (members : Members) :
    plainText config members = .string ∨
      ∃ display backing, plainText config members = .provided display backing := by
  unfold plainText
  repeat' split
  · exact Or.inr ⟨_, _, rfl⟩
  · exact Or.inl rfl
  · exact Or.inl rfl

/-- A primitive type is the plain type of the types named after it, where it is no text. -/
theorem plainType_eq_primitive_iff {config : Config} {primitive : Primitive}
    (hprimitive : primitive ≠ .string) :
    plainType config members kind = .primitive primitive ↔
      (kind, primitive) ∈ [(Kind.number, Primitive.number), (.integer, .number),
        (.boolean, .boolean), (.null, .null)] := by
  cases kind with
  | string =>
    rcases plainText_cases config members with htext | ⟨display, backing, htext⟩
    · simp [plainType, htext, TypeExpr.string, hprimitive.symm]
    · simp [plainType, htext]
  | number => cases primitive <;> simp [plainType, TypeExpr.number]
  | integer => cases primitive <;> simp [plainType, TypeExpr.number]
  | boolean => cases primitive <;> simp [plainType, TypeExpr.boolean]
  | null => cases primitive <;> simp [plainType, TypeExpr.null]
  | array => simp [plainType]
  | object => simp [plainType, TypeExpr.anyObject]

theorem plainType_eq_text_iff {config : Config} {part : TypeExpr}
    (hpart : part = .string ∨ ∃ display backing, part = .provided display backing) :
    plainType config members kind = part ↔ kind = .string ∧ part = plainText config members := by
  cases kind with
  | string => rw [and_iff_right rfl, eq_comm, plainType]
  | _ => rcases hpart with rfl | ⟨display, backing, rfl⟩ <;>
      simp [plainType, TypeExpr.string, TypeExpr.number, TypeExpr.boolean, TypeExpr.null,
        TypeExpr.anyObject]

section Represented

variable {config : Config} {kinds : List Kind} {type : TypeExpr}
  (h : type.unionMembers = if kinds = [] then [.unknown] else
    TypeExpr.distinctMembers (kinds.flatMap (typesAs values (plainType config members))))

include h

/-- A member that is no literal is the plain type of a type that admits none of the values. -/
theorem mem_unionMembers_iff {part : TypeExpr} (hunknown : part ≠ .unknown)
    (hself : ∀ other, other.same part = true → other = part)
    (hliteral : ∀ literal, part ≠ .literal literal) :
    part ∈ type.unionMembers ↔ ∃ kind ∈ kinds, literalsAs values kind = [] ∧
      plainType config members kind = part := by
  rw [h]
  split
  · rename_i hnone
    subst hnone
    simpa using hunknown
  · exact mem_typesAs hself hliteral

theorem primitive_mem_unionMembers_iff {primitive : Primitive} (hprimitive : primitive ≠ .string) :
    .primitive primitive ∈ type.unionMembers ↔ ∃ kind ∈ kinds, literalsAs values kind = [] ∧
      (kind, primitive) ∈ [(Kind.number, Primitive.number), (.integer, .number),
        (.boolean, .boolean), (.null, .null)] := by
  rw [mem_unionMembers_iff h (fun h => by cases h) (fun _ => TypeExpr.eq_of_same_primitive)
    fun _ h => by cases h]
  simp only [plainType_eq_primitive_iff hprimitive]

/-- The type of a node with these members stands for its listed values. -/
theorem represents_of_unionMembers : Represents config members kinds values type := by
  constructor
  · have hliterals : type.unionMembers.filterMap TypeExpr.literal? =
        (TypeExpr.distinctMembers (kinds.flatMap
          (typesAs values (plainType config members)))).filterMap TypeExpr.literal? := by
      rw [h]
      split
      · rename_i hnone
        rw [hnone]
        rfl
      · rfl
    rw [hliterals]
    exact enumerates_literals config kinds values
  · rw [TypeExpr.null, primitive_mem_unionMembers_iff h (by decide)]
    simp [literalsAs_eq_nil_iff]
  · intro part hpart
    obtain ⟨hunknown, hself, hliteral⟩ : part ≠ .unknown ∧
        (∀ other, other.same part = true → other = part) ∧
          ∀ literal, part ≠ .literal literal := by
      rcases hpart with rfl | ⟨display, backing, rfl⟩
      · exact ⟨TypeExpr.noConfusion, fun _ => TypeExpr.eq_of_same_primitive,
          fun _ => TypeExpr.noConfusion⟩
      · exact ⟨TypeExpr.noConfusion, fun _ => TypeExpr.eq_of_same_provided,
          fun _ => TypeExpr.noConfusion⟩
    rw [mem_unionMembers_iff h hunknown hself hliteral]
    simp only [plainType_eq_text_iff hpart, literalsAs_eq_nil_iff]
    constructor
    · rintro ⟨kind, hkind, hnone, rfl, hplain⟩
      exact ⟨hplain, hkind, hnone.resolve_left (by decide)⟩
    · rintro ⟨hplain, hkind, hnone⟩
      exact ⟨.string, hkind, Or.inr hnone, rfl, hplain⟩
  · rw [TypeExpr.boolean, primitive_mem_unionMembers_iff h (by decide)]
    simp [literalsAs_eq_nil_iff]
  · rw [TypeExpr.number, primitive_mem_unionMembers_iff h (by decide)]
    simp only [literalsAs_eq_nil_iff]
    constructor
    · rintro ⟨kind, hkind, hnone, hnumber⟩
      have hnumber : kind = .number ∨ kind = .integer := by simpa using hnumber
      rcases hnumber with rfl | rfl
      · exact ⟨.number, by simp, hkind, hnone.resolve_left (by decide)⟩
      · exact ⟨.integer, by simp, hkind, hnone.resolve_left (by decide)⟩
    · rintro ⟨kind, hnumber, hkind, hnone⟩
      exact ⟨kind, hkind, Or.inr hnone, by simpa using hnumber⟩

end Represented

theorem mem_foldl_addKind {kinds seen : List Kind} :
    kind ∈ kinds.foldl addKind seen ↔ kind ∈ seen ∨ kind ∈ kinds := by
  induction kinds generalizing seen with
  | nil => simp
  | cons first rest ih =>
    have hadd : kind ∈ addKind seen first ↔ kind ∈ seen ∨ kind = first := by
      unfold addKind
      split
      · rename_i hold
        rw [List.contains_iff_mem] at hold
        exact (or_iff_left_of_imp fun h => h ▸ hold).symm
      · rw [List.mem_append, List.mem_singleton]
    rw [List.foldl_cons, ih, hadd, List.mem_cons, or_assoc]

theorem admits_ofValue (value : Json) : (Kind.ofValue value).admits value = true := by
  cases value <;> rfl

/-- A value that some type admits has a literal among the members, if it has a literal. -/
theorem exists_literal {config : Config} {kinds : List Kind} (hkind : kind ∈ kinds) {value : Json}
    (hvalue : value ∈ values) (hadmits : kind.admits value = true) {literal : Literal}
    (hreads : scalar? value = some literal) :
    ∃ other, .literal other ∈ TypeExpr.distinctMembers
        (kinds.flatMap (typesAs values (plainType config members))) ∧
      other.same literal = true := by
  have hliteral : literal ∈ literalsAs values kind :=
    List.mem_filterMap.mpr ⟨value, List.mem_filter.mpr ⟨hvalue, hadmits⟩, hreads⟩
  have htype : .literal literal ∈ typesAs values (plainType config members) kind := by
    unfold typesAs
    split
    · rename_i hnone
      rw [hnone] at hliteral
      cases hliteral
    · exact List.mem_map_of_mem hliteral
  obtain ⟨type, hmem, hsame⟩ := TypeExpr.exists_foldl_addMember
    (kinds.flatMap (typesAs values (plainType config members))) []
    (Or.inr (List.mem_flatMap.mpr ⟨kind, hkind, htype⟩))
  obtain ⟨other, rfl, hsame⟩ := TypeExpr.exists_of_same_literal hsame
  exact ⟨other, hmem, hsame⟩

end Schema

end SchemaTypes
