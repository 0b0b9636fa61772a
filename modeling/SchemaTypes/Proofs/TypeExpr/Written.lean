import SchemaTypes.Proofs.Json.Equality
import SchemaTypes.TypeExpr.Json

set_option autoImplicit false

/-!
# Written types

What is written of a type tells it from every other one: the kind tells the form, and the value the
parts.  As equal values are written for equal types, this is so for both equalities: values that are
the same belong to one type, and values that are equal belong to equal types.
-/

namespace SchemaTypes

theorem Primitive.name_injective {kind other : Primitive} (h : kind.name = other.name) :
    kind = other := by
  cases kind <;> cases other <;> simp [name] at h ⊢

theorem Literal.toJson_injective {a b : Literal} (h : a.toJson = b.toJson) : a = b := by
  cases a <;> cases b <;> cases h <;> rfl

theorem Json.ofOption_injective {a b : Option String} (h : ofOption a = ofOption b) : a = b := by
  cases a <;> cases b <;> cases h <;> rfl

theorem Primitive.same_name (kind other : Primitive) :
    (Json.string kind.name).same (.string other.name) = (kind == other) := by
  cases kind <;> cases other <;> rfl

theorem Literal.same_toJson (a b : Literal) : a.toJson.same b.toJson = a.same b := by
  cases a <;> cases b <;> rfl

theorem Json.same_ofOption (a b : Option String) :
    (ofOption a).same (ofOption b) = (a == b) := by
  cases a <;> cases b <;> rfl

namespace TypeExpr

/-! ## The same values -/

theorem tagged_inj {kind other : String} {value value' : Json} :
    tagged kind value = tagged other value' ↔ kind = other ∧ value = value' := by
  simp [tagged]

/-- The kind that has no value is told from all others by that. -/
theorem tagged_ne_untagged (kind other : String) (value : Json) :
    tagged kind value ≠ .object [("kind", .string other)] := by
  simp [tagged]

mutual

/-- A type is determined by what is written of it. -/
theorem toJson_injective : ∀ {t u : TypeExpr}, t.toJson = u.toJson → t = u
  | primitive _, u, h => by
    cases u <;> simp only [toJson, tagged_inj, tagged_ne_untagged, String.reduceEq,
      false_and, true_and] at h
    rw [Primitive.name_injective (Json.string.inj h)]
  | array element, u, h => by
    cases u <;> simp only [toJson, tagged_inj, tagged_ne_untagged, String.reduceEq,
      false_and, true_and] at h
    rw [toJson_injective h]
  | record fields, u, h => by
    cases u <;> simp only [toJson, tagged_inj, tagged_ne_untagged, String.reduceEq,
      false_and, true_and] at h
    rw [fieldsToJson_injective (Json.array.inj h)]
  | dictionary values, u, h => by
    cases u <;> simp only [toJson, tagged_inj, tagged_ne_untagged, String.reduceEq,
      false_and, true_and] at h
    rw [toJson_injective h]
  | union members, u, h => by
    cases u <;> simp only [toJson, tagged_inj, tagged_ne_untagged, String.reduceEq,
      false_and, true_and] at h
    rw [listToJson_injective (Json.array.inj h)]
  | intersection members, u, h => by
    cases u <;> simp only [toJson, tagged_inj, tagged_ne_untagged, String.reduceEq,
      false_and, true_and] at h
    rw [listToJson_injective (Json.array.inj h)]
  | tuple items, u, h => by
    cases u <;> simp only [toJson, tagged_inj, tagged_ne_untagged, String.reduceEq,
      false_and, true_and] at h
    rw [listToJson_injective (Json.array.inj h)]
  | literal value, u, h => by
    cases u <;> simp only [toJson, tagged_inj, tagged_ne_untagged, String.reduceEq,
      false_and, true_and] at h
    rw [Literal.toJson_injective h]
  | identifier name importPath, u, h => by
    cases u <;> simp only [toJson, tagged_inj, tagged_ne_untagged, String.reduceEq,
      false_and, true_and] at h
    obtain ⟨hname, hpath⟩ := Json.eq_and_eq_of_pair_eq h
    rw [Json.string.inj hname, Json.ofOption_injective hpath]
  | recursive name body, u, h => by
    cases u <;> simp only [toJson, tagged_inj, tagged_ne_untagged, String.reduceEq,
      false_and, true_and] at h
    obtain ⟨hname, hbody⟩ := Json.eq_and_eq_of_pair_eq h
    rw [Json.string.inj hname, toJson_injective hbody]
  | provided display backing, u, h => by
    cases u <;> simp only [toJson, tagged_inj, tagged_ne_untagged, String.reduceEq,
      false_and, true_and] at h
    obtain ⟨hdisplay, hbacking⟩ := Json.eq_and_eq_of_pair_eq h
    rw [Json.string.inj hdisplay, Json.string.inj hbacking]
  | unknown, u, h => by
    cases u <;> simp only [toJson, (tagged_ne_untagged _ _ _).symm] at h
    rfl

theorem listToJson_injective : ∀ {types others : List TypeExpr},
    listToJson types = listToJson others → types = others
  | [], [], _ => rfl
  | [], _ :: _, h => by cases h
  | _ :: _, [], h => by cases h
  | t :: rest, u :: others, h => by
    obtain ⟨hhead, hrest⟩ := List.cons.inj h
    rw [toJson_injective hhead, listToJson_injective hrest]

theorem fieldsToJson_injective : ∀ {fields others : List (FieldLabel × TypeExpr)},
    fieldsToJson fields = fieldsToJson others → fields = others
  | [], [], _ => rfl
  | [], _ :: _, h => by cases h
  | _ :: _, [], h => by cases h
  | (⟨name, optional⟩, t) :: rest, (⟨name', optional'⟩, u) :: others, h => by
    obtain ⟨hhead, hrest⟩ := List.cons.inj h
    simp only [Json.object.injEq, List.cons.injEq, Prod.mk.injEq, Json.string.injEq,
      Json.bool.injEq, true_and, and_true] at hhead
    obtain ⟨rfl, htype, rfl⟩ := hhead
    rw [toJson_injective htype, fieldsToJson_injective hrest]

end

/-! ## Equal values -/

@[simp] theorem same_tagged (kind other : String) (value value' : Json) :
    (tagged kind value).same (tagged other value') = (kind == other && value.same value') := by
  simp [tagged, Json.same, Json.foundIn, OrderedMap.get?_cons]

/-- The kind that has no value is told from all others by that. -/
@[simp] theorem same_untagged (kind other : String) (value : Json) :
    (tagged kind value).same (.object [("kind", .string other)]) = false := rfl

@[simp] theorem same_tagged_of_untagged (kind other : String) (value : Json) :
    (Json.object [("kind", .string kind)]).same (tagged other value) = false := rfl

theorem same_field (label other : FieldLabel) (type type' : Json) :
    (Json.object [("name", .string label.name), ("type", type),
        ("optional", .bool label.optional)]).same
      (.object [("name", .string other.name), ("type", type'),
        ("optional", .bool other.optional)]) = (label == other && type.same type') := by
  obtain ⟨name, optional⟩ := label
  obtain ⟨name', optional'⟩ := other
  simp only [Json.same, Json.foundIn, OrderedMap.get?_cons, List.length_cons, beq_self_eq_true,
    Bool.true_and, Bool.and_true, if_true, String.reduceEq, if_false]
  rw [Bool.eq_iff_iff]
  simp only [Bool.and_eq_true, beq_iff_eq, FieldLabel.mk.injEq]
  tauto

mutual

/-- What is written of types is equal exactly if the types are. -/
theorem same_toJson : ∀ t u : TypeExpr, t.toJson.same u.toJson = same t u
  | primitive kind, u => by
    cases u <;> simp [toJson, same, Primitive.same_name]
  | array element, u => by
    cases u <;> simp [toJson, same, same_toJson element]
  | record fields, u => by
    cases u <;> simp [toJson, same, same_fieldsToJson fields]
  | dictionary values, u => by
    cases u <;> simp [toJson, same, same_toJson values]
  | union members, u => by
    cases u <;> simp [toJson, same, same_listToJson members]
  | intersection members, u => by
    cases u <;> simp [toJson, same, same_listToJson members]
  | tuple items, u => by
    cases u <;> simp [toJson, same, same_listToJson items]
  | literal value, u => by
    cases u <;> simp [toJson, same, Literal.same_toJson]
  | identifier name importPath, u => by
    cases u <;> simp [toJson, same, Json.same_pair, Json.same_string, Json.same_ofOption]
  | recursive name body, u => by
    cases u <;> simp [toJson, same, Json.same_pair, Json.same_string, same_toJson body]
  | provided display backing, u => by
    cases u <;> simp [toJson, same, Json.same_pair, Json.same_string]
  | unknown, u => by
    cases u <;> simp [toJson, same]
    rfl

/-- Lists of types are written item by item. -/
theorem same_listToJson : ∀ types others : List TypeExpr,
    (Json.array (listToJson types)).same (.array (listToJson others)) = sameList types others
  | [], [] => rfl
  | [], _ :: _ => rfl
  | _ :: _, [] => rfl
  | t :: rest, u :: others => by
    have hrest := same_listToJson rest others
    rw [Json.same] at hrest
    rw [listToJson, listToJson, Json.same, Json.sameItems, same_toJson t u, hrest, sameList]

/-- Records are written field by field. -/
theorem same_fieldsToJson : ∀ fields others : List (FieldLabel × TypeExpr),
    (Json.array (fieldsToJson fields)).same (.array (fieldsToJson others)) =
      sameFields fields others
  | [], [] => rfl
  | [], _ :: _ => rfl
  | _ :: _, [] => rfl
  | (label, t) :: rest, (other, u) :: others => by
    have hrest := same_fieldsToJson rest others
    rw [Json.same] at hrest
    rw [fieldsToJson, fieldsToJson, Json.same, Json.sameItems, hrest, sameFields, same_field,
      same_toJson t u]

end

end TypeExpr

end SchemaTypes
