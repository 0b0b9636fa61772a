import SchemaTypes.Proofs.Resolve.Productive
import SchemaTypes.Proofs.Resolve.Recall

set_option autoImplicit false

/-!
# Hollow types

A type is hollow if it says nothing but `null` and some names: nothing else is left when its unions
and intersections are taken apart.  A schema that has such a type asks for nothing that is not
hollow itself, and has no parts but unions, intersections and `null`; and the other way round, such
a schema has a hollow type if the answers to its questions are hollow.
-/

namespace SchemaTypes

namespace TypeExpr

/-! ## Types that lead only to names -/

theorem leadOnly_iff {names : List ModelName} {types : List TypeExpr} :
    leadOnly names types = true ↔ ∀ t ∈ types, t.leadsOnly names = true := by
  induction types with
  | nil => simp [leadOnly]
  | cons t rest ih => simp [leadOnly, ih]

mutual

/-- Equal types lead to the same. -/
theorem leadsOnly_eq_of_same (names : List ModelName) : ∀ a b : TypeExpr, same a b = true →
    leadsOnly names a = leadsOnly names b
  | union members, b, h => by
    cases b <;> simp only [same, Bool.false_eq_true] at h
    rw [leadsOnly, leadsOnly]
    exact leadOnly_eq_of_same names members _ h
  | intersection members, b, h => by
    cases b <;> simp only [same, Bool.false_eq_true] at h
    rw [leadsOnly, leadsOnly]
    exact leadOnly_eq_of_same names members _ h
  | recursive name body, b, h => by
    cases b <;> simp only [same, Bool.false_eq_true, Bool.and_eq_true] at h
    rw [leadsOnly, leadsOnly]
    exact leadsOnly_eq_of_same names body _ h.2
  | identifier name path, b, h => by
    cases b <;> simp only [same, Bool.false_eq_true, Bool.and_eq_true, beq_iff_eq] at h
    rw [h.1, h.2]
  | primitive kind, b, h => by
    cases b <;> simp only [same, Bool.false_eq_true, beq_iff_eq] at h
    rw [h]
  | array element, b, h => by
    cases b <;> simp only [same, Bool.false_eq_true] at h
    rfl
  | record fields, b, h => by
    cases b <;> simp only [same, Bool.false_eq_true] at h
    rfl
  | dictionary values, b, h => by
    cases b <;> simp only [same, Bool.false_eq_true] at h
    rfl
  | tuple items, b, h => by
    cases b <;> simp only [same, Bool.false_eq_true] at h
    rfl
  | literal value, b, h => by
    cases b <;> simp only [same, Bool.false_eq_true] at h
    rfl
  | provided display backing, b, h => by
    cases b <;> simp only [same, Bool.false_eq_true] at h
    rfl
  | unknown, b, h => by
    cases b <;> simp only [same, Bool.false_eq_true] at h
    rfl

theorem leadOnly_eq_of_same (names : List ModelName) : ∀ as bs : List TypeExpr,
    sameList as bs = true → leadOnly names as = leadOnly names bs
  | [], [], _ => rfl
  | [], _ :: _, h => by simp [sameList] at h
  | _ :: _, [], h => by simp [sameList] at h
  | a :: as, b :: bs, h => by
    simp only [sameList, Bool.and_eq_true] at h
    rw [leadOnly, leadOnly, leadsOnly_eq_of_same names a b h.1, leadOnly_eq_of_same names as bs h.2]

end

/-- If the distinct members of a list, wrapped, lead only to names, all members do. -/
theorem of_leadsOnly_collapse {names : List ModelName} {wrap : List TypeExpr → TypeExpr}
    (hwrap : ∀ members, (wrap members).leadsOnly names = leadOnly names members)
    {parts : TypeExpr → List TypeExpr}
    (hparts : ∀ t, (∀ m ∈ parts t, m.leadsOnly names = true) → t.leadsOnly names = true)
    {types : List TypeExpr}
    (h : (collapse wrap (distinctMembers (types.flatMap parts))).leadsOnly names = true) :
    types ≠ [] ∧ ∀ t ∈ types, t.leadsOnly names = true := by
  have hmembers : ∀ m ∈ distinctMembers (types.flatMap parts), m.leadsOnly names = true := by
    generalize distinctMembers (types.flatMap parts) = members at h
    unfold collapse at h
    split at h
    · cases h
    · exact List.forall_mem_singleton.mpr h
    · rw [hwrap] at h
      exact leadOnly_iff.mp h
  refine ⟨fun hnil => ?_, fun t ht => hparts t fun m hm => ?_⟩
  · rw [hnil] at h
    cases h
  · have hflat : m ∈ types.flatMap parts := List.mem_flatMap.mpr ⟨t, ht, hm⟩
    obtain ⟨other, hother, hsame⟩ := exists_foldl_addMember _ [] (Or.inr hflat)
    rw [← leadsOnly_eq_of_same names other m hsame]
    exact hmembers other hother

theorem of_leadsOnly_unionOf {names : List ModelName} {types : List TypeExpr}
    (h : (unionOf types).leadsOnly names = true) :
    types ≠ [] ∧ ∀ t ∈ types, t.leadsOnly names = true := by
  refine of_leadsOnly_collapse (fun _ => by rw [leadsOnly]) (fun t hmembers => ?_) h
  cases t with
  | union members => exact leadOnly_iff.mpr hmembers
  | _ => exact hmembers _ (List.mem_singleton_self _)

theorem of_leadsOnly_intersectionOf {names : List ModelName} {types : List TypeExpr}
    (h : (intersectionOf types).leadsOnly names = true) :
    types ≠ [] ∧ ∀ t ∈ types, t.leadsOnly names = true := by
  refine of_leadsOnly_collapse (fun _ => by rw [leadsOnly]) (fun t hmembers => ?_) h
  cases t with
  | intersection members => exact leadOnly_iff.mpr hmembers
  | _ => exact hmembers _ (List.mem_singleton_self _)

mutual

/-- A type that leads only to names mentions no others. -/
theorem mem_of_leadsOnly {names : List ModelName} : ∀ t : TypeExpr, t.leadsOnly names = true →
    ∀ n ∈ t.identifiers, n ∈ names
  | union members, h, n, hn => mem_of_leadOnly members h n hn
  | intersection members, h, n, hn => mem_of_leadOnly members h n hn
  | recursive _ body, h, n, hn => by
    rw [identifiers] at hn
    exact mem_of_leadsOnly body h n hn
  | identifier name path, h, n, hn => by
    rw [List.mem_singleton.mp hn]
    exact List.contains_iff_mem.mp h
  | primitive _, _, _, hn => absurd hn List.not_mem_nil

theorem mem_of_leadOnly {names : List ModelName} : ∀ types : List TypeExpr,
    leadOnly names types = true → ∀ n ∈ listIdentifiers types, n ∈ names
  | [], _, _, hn => absurd hn List.not_mem_nil
  | t :: rest, h, n, hn => by
    rw [leadOnly, Bool.and_eq_true] at h
    rcases List.mem_append.mp hn with hfirst | hrest
    · exact mem_of_leadsOnly t h.1 n hfirst
    · exact mem_of_leadOnly rest h.2 n hrest

end

/-- The only constant type that leads only to names is `null`. -/
theorem Constant.eq_null {t : TypeExpr} (h : t.Constant) {names : List ModelName}
    (hleads : t.leadsOnly names = true) : t = .null := by
  cases h with
  | null => rfl
  | literals values =>
    obtain ⟨hsome, hall⟩ := of_leadsOnly_unionOf hleads
    obtain ⟨t, ht⟩ := List.exists_mem_of_ne_nil _ hsome
    obtain ⟨value, -, rfl⟩ := List.mem_map.mp ht
    cases hall _ ht
  | _ => cases hleads

/-! ## Hollow types -/

/-- A type that is put together of nothing but `null` and some names. -/
inductive Hollow (names : List ModelName) : TypeExpr → Prop
  | null : Hollow names .null
  | identifier {n : ModelName} (mem : n ∈ names) : Hollow names n.identifier
  | union {members : List TypeExpr} (nonempty : members ≠ [])
      (all : ∀ m ∈ members, Hollow names m) : Hollow names (.union members)
  | intersection {members : List TypeExpr} (nonempty : members ≠ [])
      (all : ∀ m ∈ members, Hollow names m) : Hollow names (.intersection members)

theorem Hollow.leadsOnly {names : List ModelName} {t : TypeExpr} (h : t.Hollow names) :
    t.leadsOnly names = true := by
  induction h with
  | null => rfl
  | identifier mem => exact List.contains_iff_mem.mpr mem
  | union _ _ ih => exact leadOnly_iff.mpr ih
  | intersection _ _ ih => exact leadOnly_iff.mpr ih

/-- Hollow types, taken apart and wrapped, make a hollow type. -/
theorem Hollow.collapse {names : List ModelName} {wrap : List TypeExpr → TypeExpr}
    (hwrap : ∀ members, members ≠ [] → (∀ m ∈ members, Hollow names m) →
      Hollow names (wrap members))
    {parts : TypeExpr → List TypeExpr}
    (hparts : ∀ t, Hollow names t → parts t ≠ [] ∧ ∀ m ∈ parts t, Hollow names m)
    {types : List TypeExpr} (hsome : types ≠ []) (hall : ∀ t ∈ types, Hollow names t) :
    (TypeExpr.collapse wrap (distinctMembers (types.flatMap parts))).Hollow names := by
  have hflat : types.flatMap parts ≠ [] := by
    obtain ⟨t, ht⟩ := List.exists_mem_of_ne_nil _ hsome
    obtain ⟨m, hm⟩ := List.exists_mem_of_ne_nil _ (hparts t (hall t ht)).1
    exact List.ne_nil_of_mem (List.mem_flatMap.mpr ⟨t, ht, hm⟩)
  have hmembers : ∀ m ∈ distinctMembers (types.flatMap parts), Hollow names m := by
    intro m hm
    obtain ⟨t, ht, hpart⟩ := List.mem_flatMap.mp (mem_of_mem_distinctMembers hm)
    exact (hparts t (hall t ht)).2 m hpart
  have hdistinct := distinctMembers_ne_nil hflat
  generalize distinctMembers (types.flatMap parts) = members at hmembers hdistinct
  unfold TypeExpr.collapse
  split
  · exact absurd rfl hdistinct
  · exact hmembers _ (List.mem_singleton_self _)
  · exact hwrap _ hdistinct hmembers

theorem Hollow.alone {names : List ModelName} {t : TypeExpr} (h : t.Hollow names) :
    [t] ≠ [] ∧ ∀ m ∈ [t], m.Hollow names :=
  ⟨List.cons_ne_nil _ _, List.forall_mem_singleton.mpr h⟩

theorem Hollow.unionOf {names : List ModelName} {types : List TypeExpr} (hsome : types ≠ [])
    (hall : ∀ t ∈ types, t.Hollow names) : (unionOf types).Hollow names := by
  refine Hollow.collapse (fun _ => .union) (fun t ht => ?_) hsome hall
  cases ht with
  | union nonempty all => exact ⟨nonempty, all⟩
  | null => exact Hollow.null.alone
  | identifier mem => exact (Hollow.identifier mem).alone
  | intersection nonempty all => exact (Hollow.intersection nonempty all).alone

theorem Hollow.intersectionOf {names : List ModelName} {types : List TypeExpr}
    (hsome : types ≠ []) (hall : ∀ t ∈ types, t.Hollow names) :
    (intersectionOf types).Hollow names := by
  refine Hollow.collapse (fun _ => .intersection) (fun t ht => ?_) hsome hall
  cases ht with
  | intersection nonempty all => exact ⟨nonempty, all⟩
  | null => exact Hollow.null.alone
  | identifier mem => exact (Hollow.identifier mem).alone
  | union nonempty all => exact (Hollow.union nonempty all).alone

end TypeExpr

/-! ## Schemas of hollow types -/

namespace Schema

/-- A schema that is put together of nothing but `null` and good questions, by unions and
intersections. -/
inductive OnlyAsks (Good : Question → Prop) : Schema → Prop
  | malformed {location : Reference} {reason : String} (good : Good (.malformed location reason)) :
      OnlyAsks Good (malformed location reason)
  | reference {target : String} (good : Good (.reference target)) :
      OnlyAsks Good (reference target)
  | text {format : Option String} (good : Good (.text format)) : OnlyAsks Good (text format)
  | allOf {members : List Schema} (nonempty : members ≠ [])
      (all : ∀ s ∈ members, OnlyAsks Good s) : OnlyAsks Good (allOf members)
  | anyOf {members : List Schema} (nonempty : members ≠ [])
      (all : ∀ s ∈ members, OnlyAsks Good s) : OnlyAsks Good (anyOf members)
  | nullable {schema : Schema} (inner : OnlyAsks Good schema) : OnlyAsks Good (nullable schema)
  | null : OnlyAsks Good (exactly .null)

namespace OnlyAsks

theorem mono {Good Fine : Question → Prop} {schema : Schema} (h : schema.OnlyAsks Good)
    (hgood : ∀ q ∈ schema.questions, Good q → Fine q) : schema.OnlyAsks Fine := by
  induction h with
  | malformed good => exact .malformed (hgood _ (List.mem_singleton_self _) good)
  | reference good => exact .reference (hgood _ (List.mem_singleton_self _) good)
  | text good => exact .text (hgood _ (List.mem_singleton_self _) good)
  | allOf nonempty _ ih =>
    exact .allOf nonempty fun s hs =>
      ih s hs fun q hq => hgood q (mem_listQuestions.mpr ⟨s, hs, hq⟩)
  | anyOf nonempty _ ih =>
    exact .anyOf nonempty fun s hs =>
      ih s hs fun q hq => hgood q (mem_listQuestions.mpr ⟨s, hs, hq⟩)
  | nullable _ ih => exact .nullable (ih hgood)
  | null => exact .null

end OnlyAsks

section Types

variable {ask : Question → Except Fault TypeExpr}

/-- Each type of a list of schemas is that of one of them, and there are as many. -/
theorem exists_schema {schemas : List Schema} {types : List TypeExpr}
    (h : typesBy ask schemas = .ok types) :
    types.length = schemas.length ∧ ∀ t ∈ types, ∃ s ∈ schemas, s.typeBy ask = .ok t := by
  induction schemas generalizing types with
  | nil =>
    cases h
    exact ⟨rfl, fun _ ht => absurd ht List.not_mem_nil⟩
  | cons schema rest ih =>
    obtain ⟨type, htype, h⟩ := bind_eq_ok h
    obtain ⟨others, hothers, rfl⟩ := bind_pure_eq_ok h
    obtain ⟨hlength, hrest⟩ := ih hothers
    refine ⟨by rw [List.length_cons, List.length_cons, hlength], fun t ht => ?_⟩
    rcases List.mem_cons.mp ht with rfl | hmem
    · exact ⟨schema, List.mem_cons_self, htype⟩
    · obtain ⟨s, hs, hst⟩ := hrest t hmem
      exact ⟨s, List.mem_cons_of_mem _ hs, hst⟩

theorem nonempty_of_typesBy {schemas : List Schema} {types : List TypeExpr}
    (h : typesBy ask schemas = .ok types) : types ≠ [] ↔ schemas ≠ [] := by
  rw [← List.length_pos_iff, ← List.length_pos_iff, (exists_schema h).1]

section LeadsOnly

variable {names : List ModelName}

mutual

/-- A schema whose type leads only to names asks for nothing that leads elsewhere. -/
theorem onlyAsks_of_leadsOnly : ∀ schema : Schema, schema.Plain → ∀ {type : TypeExpr},
    schema.typeBy ask = .ok type → type.leadsOnly names = true →
      schema.OnlyAsks fun q => ∃ answer, ask q = .ok answer ∧ answer.leadsOnly names = true
  | malformed _ _, _, type, h, hleads => .malformed ⟨type, h, hleads⟩
  | reference _, _, type, h, hleads => .reference ⟨type, h, hleads⟩
  | text _, _, type, h, hleads => .text ⟨type, h, hleads⟩
  | allOf members, hplain, _, h, hleads => by
    obtain ⟨types, htypes, rfl⟩ := bind_pure_eq_ok h
    obtain ⟨hsome, hall⟩ := TypeExpr.of_leadsOnly_intersectionOf hleads
    exact .allOf ((nonempty_of_typesBy htypes).mp hsome)
      (allOnlyAsk_of_leadsOnly members hplain htypes hall)
  | anyOf members, hplain, _, h, hleads => by
    obtain ⟨types, htypes, rfl⟩ := bind_pure_eq_ok h
    obtain ⟨hsome, hall⟩ := TypeExpr.of_leadsOnly_unionOf hleads
    exact .anyOf ((nonempty_of_typesBy htypes).mp hsome)
      (allOnlyAsk_of_leadsOnly members hplain htypes hall)
  | nullable schema, hplain, _, h, hleads => by
    obtain ⟨inner, hinner, rfl⟩ := bind_pure_eq_ok h
    have hall := (TypeExpr.of_leadsOnly_unionOf hleads).2
    exact .nullable
      (onlyAsks_of_leadsOnly schema hplain hinner (hall inner List.mem_cons_self))
  | exactly _, hplain, _, h, hleads => by
    cases h
    rw [TypeExpr.Constant.eq_null hplain hleads]
    exact .null
  | array _, _, _, h, hleads => by
    obtain ⟨inner, -, rfl⟩ := bind_pure_eq_ok h
    cases hleads
  | tuple _, _, _, h, hleads => by
    obtain ⟨types, -, rfl⟩ := bind_pure_eq_ok h
    cases hleads
  | dictionary _, _, _, h, hleads => by
    obtain ⟨inner, -, rfl⟩ := bind_pure_eq_ok h
    cases hleads
  | record fields, _, _, h, hleads => by
    rw [typeBy] at h
    obtain ⟨types, -, rfl⟩ := bind_pure_eq_ok h
    cases hleads

theorem allOnlyAsk_of_leadsOnly : ∀ schemas : List Schema, PlainAll schemas →
    ∀ {types : List TypeExpr}, typesBy ask schemas = .ok types →
      (∀ t ∈ types, t.leadsOnly names = true) → ∀ s ∈ schemas,
        s.OnlyAsks fun q => ∃ answer, ask q = .ok answer ∧ answer.leadsOnly names = true
  | [], _, _, _, _, _, hs => absurd hs List.not_mem_nil
  | schema :: rest, hplain, _, h, hleads, s, hs => by
    obtain ⟨type, htype, h⟩ := bind_eq_ok h
    obtain ⟨types, htypes, rfl⟩ := bind_pure_eq_ok h
    obtain ⟨hfirst, hrest⟩ := List.forall_mem_cons.mp hleads
    rcases List.mem_cons.mp hs with heq | hmem
    · rw [heq]
      exact onlyAsks_of_leadsOnly schema hplain.1 htype hfirst
    · exact allOnlyAsk_of_leadsOnly rest hplain.2 htypes hrest s hmem

end

end LeadsOnly

namespace OnlyAsks

variable {Good : Question → Prop} {schema : Schema} {type : TypeExpr}

/-- A schema that only asks what has hollow answers has a hollow type. -/
theorem hollow (h : schema.OnlyAsks Good) {names : List ModelName}
    (hgood : ∀ q answer, Good q → ask q = .ok answer → answer.Hollow names)
    (htype : schema.typeBy ask = .ok type) : type.Hollow names := by
  induction h generalizing type with
  | malformed good => exact hgood _ _ good htype
  | reference good => exact hgood _ _ good htype
  | text good => exact hgood _ _ good htype
  | allOf nonempty _ ih =>
    obtain ⟨types, htypes, rfl⟩ := bind_pure_eq_ok htype
    refine .intersectionOf ((nonempty_of_typesBy htypes).mpr nonempty) fun t ht => ?_
    obtain ⟨s, hs, hst⟩ := (exists_schema htypes).2 t ht
    exact ih s hs hst
  | anyOf nonempty _ ih =>
    obtain ⟨types, htypes, rfl⟩ := bind_pure_eq_ok htype
    refine .unionOf ((nonempty_of_typesBy htypes).mpr nonempty) fun t ht => ?_
    obtain ⟨s, hs, hst⟩ := (exists_schema htypes).2 t ht
    exact ih s hs hst
  | nullable _ ih =>
    obtain ⟨inner, hinner, rfl⟩ := bind_pure_eq_ok htype
    exact .unionOf (List.cons_ne_nil _ _)
      (List.forall_mem_cons.mpr ⟨ih hinner, List.forall_mem_singleton.mpr .null⟩)
  | null =>
    cases htype
    exact .null

/-- What the type of such a schema mentions, the answer to one of its questions does. -/
theorem exists_mention (h : schema.OnlyAsks Good) (htype : schema.typeBy ask = .ok type)
    {n : ModelName} (hn : n ∈ type.identifiers) :
    ∃ q ∈ schema.questions, Good q ∧ ∃ answer, ask q = .ok answer ∧ n ∈ answer.identifiers := by
  induction h generalizing type with
  | malformed good => exact ⟨_, List.mem_singleton_self _, good, type, htype, hn⟩
  | reference good => exact ⟨_, List.mem_singleton_self _, good, type, htype, hn⟩
  | text good => exact ⟨_, List.mem_singleton_self _, good, type, htype, hn⟩
  | allOf _ _ ih =>
    obtain ⟨types, htypes, rfl⟩ := bind_pure_eq_ok htype
    obtain ⟨t, ht, hmention⟩ := (TypeExpr.mem_identifiers_intersectionOf types).mp hn
    obtain ⟨s, hs, hst⟩ := (exists_schema htypes).2 t ht
    obtain ⟨q, hq, hanswer⟩ := ih s hs hst hmention
    exact ⟨q, mem_listQuestions.mpr ⟨s, hs, hq⟩, hanswer⟩
  | anyOf _ _ ih =>
    obtain ⟨types, htypes, rfl⟩ := bind_pure_eq_ok htype
    obtain ⟨t, ht, hmention⟩ := (TypeExpr.mem_identifiers_unionOf types).mp hn
    obtain ⟨s, hs, hst⟩ := (exists_schema htypes).2 t ht
    obtain ⟨q, hq, hanswer⟩ := ih s hs hst hmention
    exact ⟨q, mem_listQuestions.mpr ⟨s, hs, hq⟩, hanswer⟩
  | nullable _ ih =>
    obtain ⟨inner, hinner, rfl⟩ := bind_pure_eq_ok htype
    obtain ⟨t, ht, hmention⟩ := (TypeExpr.mem_identifiers_unionOf _).mp hn
    rcases List.mem_cons.mp ht with rfl | hnull
    · exact ih hinner hmention
    · rw [List.mem_singleton.mp hnull] at hmention
      cases hmention
  | null =>
    cases htype
    cases hn

end OnlyAsks

end Types

end Schema

end SchemaTypes
