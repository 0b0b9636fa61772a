import SchemaTypes.Naming.Policy
import SchemaTypes.Proofs.TypeExpr.Mentions

set_option autoImplicit false

/-!
# Identifiers in types

The identifiers that occur in a type, at any depth.  They are the names among what the type
mentions, so that building a type out of others loses none of their identifiers and adds none.
-/

namespace SchemaTypes.TypeExpr

mutual

/-- The identifiers in a type, in order. -/
def identifiers : TypeExpr → List ModelName
  | array element => identifiers element
  | record fields => fieldIdentifiers fields
  | dictionary values => identifiers values
  | union members => listIdentifiers members
  | intersection members => listIdentifiers members
  | tuple items => listIdentifiers items
  | identifier name importPath => [⟨name, importPath⟩]
  | recursive _ body => identifiers body
  | _ => []

/-- The identifiers in a list of types. -/
def listIdentifiers : List TypeExpr → List ModelName
  | [] => []
  | t :: rest => identifiers t ++ listIdentifiers rest

/-- The identifiers in the types of fields. -/
def fieldIdentifiers : List (FieldLabel × TypeExpr) → List ModelName
  | [] => []
  | (_, t) :: rest => identifiers t ++ fieldIdentifiers rest

end

theorem mem_listIdentifiers {n : ModelName} {types : List TypeExpr} :
    n ∈ listIdentifiers types ↔ ∃ t ∈ types, n ∈ identifiers t := by
  induction types with
  | nil => simp [listIdentifiers]
  | cons t rest ih => simp [listIdentifiers, ih]

/-! ## Names among mentions -/

/-- The name of a mentioned declaration. -/
def modelName? : TypeExpr → Option ModelName
  | identifier name importPath => some ⟨name, importPath⟩
  | _ => none

mutual

/-- The identifiers of a type are the names among its mentions. -/
theorem identifiers_eq : ∀ t : TypeExpr, identifiers t = (mentions t).filterMap modelName?
  | array element => by rw [identifiers, mentions, identifiers_eq element]
  | record fields => by rw [identifiers, mentions, fieldIdentifiers_eq fields]
  | dictionary values => by rw [identifiers, mentions, identifiers_eq values]
  | union members => by rw [identifiers, mentions, listIdentifiers_eq members]
  | intersection members => by rw [identifiers, mentions, listIdentifiers_eq members]
  | tuple items => by rw [identifiers, mentions, listIdentifiers_eq items]
  | recursive _ body => by rw [identifiers, mentions, identifiers_eq body]
  | identifier _ _ => rfl
  | primitive _ => rfl
  | literal _ => rfl
  | provided _ _ => rfl
  | unknown => rfl

theorem listIdentifiers_eq : ∀ types : List TypeExpr,
    listIdentifiers types = (listMentions types).filterMap modelName?
  | [] => rfl
  | t :: rest => by
    rw [listIdentifiers, listMentions, List.filterMap_append, identifiers_eq t,
      listIdentifiers_eq rest]

theorem fieldIdentifiers_eq : ∀ fields : List (FieldLabel × TypeExpr),
    fieldIdentifiers fields = (fieldMentions fields).filterMap modelName?
  | [] => rfl
  | (_, t) :: rest => by
    rw [fieldIdentifiers, fieldMentions, List.filterMap_append, identifiers_eq t,
      fieldIdentifiers_eq rest]

end

/-- Equal types have the same identifiers. -/
theorem identifiers_eq_of_same (a b : TypeExpr) (h : same a b = true) :
    identifiers a = identifiers b := by
  rw [identifiers_eq, identifiers_eq, mentions_eq_of_same a b h]

/-- A type has exactly the identifiers of its parts. -/
theorem Combines.mem_identifiers {n : ModelName} {types : List TypeExpr} {t : TypeExpr}
    (h : Combines types t) : n ∈ t.identifiers ↔ ∃ part ∈ types, n ∈ part.identifiers := by
  simp only [identifiers_eq]
  exact h.mem_filterMap_mentions

theorem mem_identifiers_unionOf {n : ModelName} (types : List TypeExpr) :
    n ∈ (unionOf types).identifiers ↔ ∃ t ∈ types, n ∈ t.identifiers :=
  (Combines.union types).mem_identifiers

theorem mem_identifiers_intersectionOf {n : ModelName} (types : List TypeExpr) :
    n ∈ (intersectionOf types).identifiers ↔ ∃ t ∈ types, n ∈ t.identifiers :=
  (Combines.intersection types).mem_identifiers

end SchemaTypes.TypeExpr
