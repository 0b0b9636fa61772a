import Mathlib.Data.Set.Basic
import SchemaTypes.Proofs.TypeExpr.Normal

set_option autoImplicit false

/-!
# The algebra of unions and intersections

It does not matter in which groups the members of a union are put together, as long as the groups
are normal: flattening takes the inner union apart again, and which member of several equal ones is
kept does not depend on the groups.  To allow `null` twice is to allow it once.  And wherever types
stand for sets of values, a union of types stands for the union of their sets.  The same holds of
intersections.
-/

namespace SchemaTypes

universe u

namespace TypeExpr

/-! ## Distinct members -/

theorem addMember_of_mem {seen : List TypeExpr} {old member : TypeExpr} (hold : old ∈ seen)
    (hsame : same old member = true) : addMember seen member = seen := by
  unfold addMember
  rw [if_pos (List.any_eq_true.mpr ⟨old, hold, hsame⟩)]

/-- To add members to a list of members, and these to another one, is to add them one after the
other: a member that is dropped early would be dropped later, because equality is transitive. -/
theorem foldl_foldl_addMember (members earlier seen : List TypeExpr) :
    (members.foldl addMember earlier).foldl addMember seen =
      members.foldl addMember (earlier.foldl addMember seen) := by
  induction members generalizing earlier with
  | nil => rfl
  | cons member rest ih =>
    have hone : (addMember earlier member).foldl addMember seen =
        addMember (earlier.foldl addMember seen) member := by
      by_cases hany : earlier.any (same · member) = true
      · obtain ⟨old, hold, hsame⟩ := List.any_eq_true.mp hany
        obtain ⟨kept, hkept, heq⟩ := exists_foldl_addMember earlier seen (Or.inr hold)
        rw [addMember_of_mem hold hsame, addMember_of_mem hkept (same_trans _ _ _ heq hsame)]
      · have hnew : addMember earlier member = earlier ++ [member] := if_neg hany
        rw [hnew, List.foldl_append]
        rfl
    rw [List.foldl_cons, List.foldl_cons, ih, hone]

/-- Members can be made distinct within a group first. -/
theorem distinctMembers_append (before group after : List TypeExpr) :
    distinctMembers (before ++ distinctMembers group ++ after) =
      distinctMembers (before ++ group ++ after) := by
  have hgroup : ∀ seen, (distinctMembers group).foldl addMember seen =
      group.foldl addMember seen := foldl_foldl_addMember group []
  unfold distinctMembers at hgroup ⊢
  rw [List.foldl_append, List.foldl_append, List.foldl_append, List.foldl_append, hgroup]

/-- Different members stay as they are. -/
theorem distinctMembers_of_pairwise {members : List TypeExpr} (h : members.Pairwise Differ) :
    distinctMembers members = members := by
  have hadd : ∀ (rest seen : List TypeExpr), (seen ++ rest).Pairwise Differ →
      rest.foldl addMember seen = seen ++ rest := by
    intro rest
    induction rest with
    | nil => exact fun seen _ => (List.append_nil seen).symm
    | cons member rest ih =>
      intro seen hdiffer
      have hnew : ¬ seen.any (same · member) = true := by
        intro hany
        obtain ⟨old, hold, hsame⟩ := List.any_eq_true.mp hany
        have hapart := (List.pairwise_append.mp hdiffer).2.2 old hold member List.mem_cons_self
        rw [hapart.1] at hsame
        cases hsame
      have hadded : addMember seen member = seen ++ [member] := if_neg hnew
      rw [List.append_cons] at hdiffer ⊢
      rw [List.foldl_cons, hadded]
      exact ih _ hdiffer
  exact hadd members [] h

/-- A way to say something of members, such as that it holds of one of them or of all: it does not
matter in which groups they are looked at, or how often equal ones. -/
structure Quantifies (Q : (TypeExpr → Prop) → List TypeExpr → Prop) : Prop where
  single : ∀ P t, Q P [t] ↔ P t
  congr : ∀ {P P' : TypeExpr → Prop} {types}, (∀ t ∈ types, P t ↔ P' t) → (Q P types ↔ Q P' types)
  flatMap : ∀ P types (parts : TypeExpr → List TypeExpr),
    Q P (types.flatMap parts) ↔ Q (fun t => Q P (parts t)) types
  distinct : ∀ {P : TypeExpr → Prop}, (∀ a b, same a b = true → (P a ↔ P b)) →
    ∀ members, Q P (distinctMembers members) ↔ Q P members

theorem quantifies_exists : Quantifies fun P types => ∃ t ∈ types, P t where
  single P t := by simp
  congr h := exists_congr fun t => and_congr_right fun ht => h t ht
  flatMap P types parts := by
    simp only [List.mem_flatMap]
    constructor
    · rintro ⟨m, ⟨t, ht, hm⟩, hholds⟩
      exact ⟨t, ht, m, hm, hholds⟩
    · rintro ⟨t, ht, m, hm, hholds⟩
      exact ⟨m, ⟨t, ht, hm⟩, hholds⟩
  distinct hP members := by
    constructor
    · rintro ⟨m, hm, hholds⟩
      exact ⟨m, mem_of_mem_distinctMembers hm, hholds⟩
    · rintro ⟨m, hm, hholds⟩
      obtain ⟨kept, hkept, hsame⟩ := exists_foldl_addMember members [] (Or.inr hm)
      exact ⟨kept, hkept, (hP kept m hsame).mpr hholds⟩

theorem quantifies_forall : Quantifies fun P types => ∀ t ∈ types, P t where
  single P t := by simp
  congr h := forall_congr' fun t => forall_congr' fun ht => h t ht
  flatMap P types parts := by
    simp only [List.mem_flatMap]
    constructor
    · intro h t ht m hm
      exact h m ⟨t, ht, hm⟩
    · rintro h m ⟨t, ht, hm⟩
      exact h t ht m hm
  distinct hP members := by
    constructor
    · intro h m hm
      obtain ⟨kept, hkept, hsame⟩ := exists_foldl_addMember members [] (Or.inr hm)
      exact (hP kept m hsame).mp (h kept hkept)
    · intro h m hm
      exact h m (mem_of_mem_distinctMembers hm)

/-! ## Taking apart -/

/-- `parts` takes apart what `wrap` puts together, and nothing else. -/
structure TakesApart (wrap : List TypeExpr → TypeExpr) (parts : TypeExpr → List TypeExpr) :
    Prop where
  wrapped : ∀ members, parts (wrap members) = members
  whole : ∀ {t}, (∀ members, t ≠ wrap members) → parts t = [t]

theorem takesApart_union : TakesApart union unionMembers where
  wrapped _ := rfl
  whole h := by
    unfold unionMembers
    split
    · exact absurd rfl (h _)
    · rfl

theorem takesApart_intersection : TakesApart intersection intersectionMembers where
  wrapped _ := rfl
  whole h := by
    unfold intersectionMembers
    split
    · exact absurd rfl (h _)
    · rfl

namespace TakesApart

variable {wrap : List TypeExpr → TypeExpr} {parts : TypeExpr → List TypeExpr}

/-- What was put together out of members that cannot be taken apart has these members. -/
theorem parts_collapse (rules : TakesApart wrap parts) {members : List TypeExpr}
    (hsome : members ≠ []) (hflat : ∀ inner, wrap inner ∉ members) :
    parts (collapse wrap members) = members := by
  match members with
  | [] => exact absurd rfl hsome
  | [member] =>
    refine rules.whole fun inner heq => hflat inner ?_
    rw [← heq]
    exact List.mem_singleton_self member
  | _ :: _ :: _ => exact rules.wrapped _

/-- A group that was put together is taken apart again, if its own members are taken apart into
members that cannot be. -/
theorem collapse_append (rules : TakesApart wrap parts) (before after : List TypeExpr)
    {group : List TypeExpr} (hsome : group.flatMap parts ≠ [])
    (hflat : ∀ inner, wrap inner ∉ group.flatMap parts) :
    collapse wrap (distinctMembers
        ((before ++ [collapse wrap (distinctMembers (group.flatMap parts))] ++ after).flatMap
          parts)) =
      collapse wrap (distinctMembers ((before ++ group ++ after).flatMap parts)) := by
  have hgroup : parts (collapse wrap (distinctMembers (group.flatMap parts))) =
      distinctMembers (group.flatMap parts) :=
    rules.parts_collapse (distinctMembers_ne_nil hsome)
      fun inner hmem => hflat inner (mem_of_mem_distinctMembers hmem)
  simp only [List.flatMap_append, List.flatMap_singleton, hgroup]
  rw [distinctMembers_append]

/-- Types are taken apart into some members that cannot be, if those among them that can be taken
apart have been put together in normal form. -/
theorem flatMap_parts (rules : TakesApart wrap parts) {types : List TypeExpr} (hsome : types ≠ [])
    (happart : ∀ members, wrap members ∈ types → Apart wrap members) :
    types.flatMap parts ≠ [] ∧ ∀ inner, wrap inner ∉ types.flatMap parts := by
  have hone : ∀ t ∈ types, parts t ≠ [] ∧ ∀ inner, wrap inner ∉ parts t := by
    intro t ht
    by_cases hwrap : ∃ members, t = wrap members
    · obtain ⟨members, rfl⟩ := hwrap
      have hmembers := happart members ht
      rw [rules.wrapped]
      refine ⟨fun hnil => ?_, hmembers.flat⟩
      have hseveral := hmembers.several
      rw [hnil] at hseveral
      cases hseveral
    · rw [rules.whole (not_exists.mp hwrap)]
      refine ⟨List.cons_ne_nil _ _, fun inner hmem => hwrap ⟨inner, ?_⟩⟩
      exact (List.mem_singleton.mp hmem).symm
  constructor
  · obtain ⟨t, ht⟩ := List.exists_mem_of_ne_nil _ hsome
    obtain ⟨m, hm⟩ := List.exists_mem_of_ne_nil _ (hone t ht).1
    exact List.ne_nil_of_mem (List.mem_flatMap.mpr ⟨t, ht, hm⟩)
  · intro inner hmem
    obtain ⟨t, ht, hpart⟩ := List.mem_flatMap.mp hmem
    exact (hone t ht).2 inner hpart

/-- A type in normal form at its root stays as it is when it is put together alone. -/
theorem collapse_singleton (rules : TakesApart wrap parts) {t : TypeExpr}
    (happart : ∀ members, t = wrap members → Apart wrap members) :
    collapse wrap (distinctMembers ([t].flatMap parts)) = t := by
  rw [List.flatMap_singleton]
  by_cases hwrap : ∃ members, t = wrap members
  · obtain ⟨members, rfl⟩ := hwrap
    have hmembers := happart members rfl
    rw [rules.wrapped, distinctMembers_of_pairwise hmembers.different]
    match members, hmembers.several with
    | _ :: _ :: _, _ => rfl
  · rw [rules.whole (not_exists.mp hwrap)]
    rfl

end TakesApart

theorem Proper.unionOf_singleton {t : TypeExpr} (h : t.Proper) : unionOf [t] = t :=
  takesApart_union.collapse_singleton fun members heq => by
    rw [heq] at h
    exact h

theorem Proper.intersectionOf_singleton {t : TypeExpr} (h : t.Proper) :
    intersectionOf [t] = t :=
  takesApart_intersection.collapse_singleton fun members heq => by
    rw [heq] at h
    exact h

/-- A union in a union is as good as its members. -/
theorem unionOf_append_unionOf (before after : List TypeExpr) {group : List TypeExpr}
    (hsome : group ≠ []) (hnormal : ∀ t ∈ group, t.Normal) :
    unionOf (before ++ [unionOf group] ++ after) = unionOf (before ++ group ++ after) := by
  obtain ⟨hparts, hflat⟩ := takesApart_union.flatMap_parts hsome
    fun members hmem => (hnormal (union members) hmem).proper
  exact takesApart_union.collapse_append before after hparts hflat

/-- An intersection in an intersection is as good as its members. -/
theorem intersectionOf_append_intersectionOf (before after : List TypeExpr)
    {group : List TypeExpr} (hsome : group ≠ []) (hnormal : ∀ t ∈ group, t.Normal) :
    intersectionOf (before ++ [intersectionOf group] ++ after) =
      intersectionOf (before ++ group ++ after) := by
  obtain ⟨hparts, hflat⟩ := takesApart_intersection.flatMap_parts hsome
    fun members hmem => (hnormal (intersection members) hmem).proper
  exact takesApart_intersection.collapse_append before after hparts hflat

/-! ## Allowing `null` -/

theorem eq_null_of_same {t : TypeExpr} (h : same t null = true) : t = null := by
  unfold null at h
  cases t <;> simp only [same, Bool.false_eq_true, beq_iff_eq] at h
  rw [h]
  rfl

/-- To allow `null` twice is to allow it once. -/
theorem nullable_nullable (t : TypeExpr) : t.nullable.nullable = t.nullable := by
  have hnullable : ∀ s : TypeExpr,
      s.nullable = collapse union (distinctMembers (unionMembers s ++ [null])) := fun _ => rfl
  have hnull : null ∈ distinctMembers (unionMembers t ++ [null]) := by
    have hmem : null ∈ unionMembers t ++ [null] :=
      List.mem_append_right _ (List.mem_singleton_self null)
    obtain ⟨other, hother, hsame⟩ := exists_foldl_addMember _ [] (Or.inr hmem)
    rwa [eq_null_of_same hsame] at hother
  have hmembers : unionMembers t.nullable = distinctMembers (unionMembers t ++ [null]) := by
    rw [hnullable]
    match h : distinctMembers (unionMembers t ++ [null]) with
    | [] =>
      rw [h] at hnull
      cases hnull
    | [member] =>
      rw [h] at hnull
      rw [← List.mem_singleton.mp hnull]
      rfl
    | _ :: _ :: _ => rfl
  have hagain : distinctMembers (unionMembers t.nullable ++ [null]) =
      distinctMembers (unionMembers t ++ [null]) := by
    rw [hmembers]
    calc distinctMembers (distinctMembers (unionMembers t ++ [null]) ++ [null])
        = distinctMembers (unionMembers t ++ [null] ++ [null]) := distinctMembers_append [] _ _
      _ = addMember (distinctMembers (unionMembers t ++ [null])) null := List.foldl_append
      _ = distinctMembers (unionMembers t ++ [null]) := addMember_of_mem hnull (same_self null)
  rw [hnullable t.nullable, hagain, ← hnullable t]

/-! ## Sets of values -/

/-- A meaning of types as sets of values: equal types have the same values, those of a union are the
values of its members, and those of an intersection the values that all of its members share.  What
a union or an intersection of no members means is left open. -/
structure Interpretation (Value : Type u) where
  values : TypeExpr → Set Value
  values_same : ∀ {a b}, same a b = true → values a = values b
  values_union : ∀ {members}, members ≠ [] →
    values (union members) = {v | ∃ m ∈ members, v ∈ values m}
  values_intersection : ∀ {members}, members ≠ [] →
    values (intersection members) = {v | ∀ m ∈ members, v ∈ values m}

namespace Interpretation

variable {Value : Type u} (meaning : Interpretation Value)

theorem mem_values_congr (v : Value) (a b : TypeExpr) (h : same a b = true) :
    v ∈ meaning.values a ↔ v ∈ meaning.values b := by rw [meaning.values_same h]

/-- What is said of the members of a wrapped type to say what its values are can be said of the
types that it was put together of. -/
theorem mem_values_collapse {wrap : List TypeExpr → TypeExpr} {parts : TypeExpr → List TypeExpr}
    (rules : TakesApart wrap parts) {Q : (TypeExpr → Prop) → List TypeExpr → Prop}
    (quantifies : Quantifies Q) {v : Value}
    (hwrap : ∀ {members}, members ≠ [] →
      (v ∈ meaning.values (wrap members) ↔ Q (v ∈ meaning.values ·) members))
    {types : List TypeExpr} (hsome : types ≠ []) (hempty : wrap [] ∉ types) :
    v ∈ meaning.values (collapse wrap (distinctMembers (types.flatMap parts))) ↔
      Q (v ∈ meaning.values ·) types := by
  have hparts : ∀ t ∈ types, parts t ≠ [] ∧
      (Q (v ∈ meaning.values ·) (parts t) ↔ v ∈ meaning.values t) := by
    intro t ht
    by_cases hwrapped : ∃ members, t = wrap members
    · obtain ⟨members, rfl⟩ := hwrapped
      have hmembers : members ≠ [] := fun hnil => hempty (hnil ▸ ht)
      rw [rules.wrapped]
      exact ⟨hmembers, (hwrap hmembers).symm⟩
    · rw [rules.whole (not_exists.mp hwrapped)]
      exact ⟨List.cons_ne_nil _ _, quantifies.single _ t⟩
  have hflat : types.flatMap parts ≠ [] := by
    obtain ⟨t, ht⟩ := List.exists_mem_of_ne_nil _ hsome
    obtain ⟨m, hm⟩ := List.exists_mem_of_ne_nil _ (hparts t ht).1
    exact List.ne_nil_of_mem (List.mem_flatMap.mpr ⟨t, ht, hm⟩)
  have hcollapse : ∀ members : List TypeExpr, members ≠ [] →
      (v ∈ meaning.values (collapse wrap members) ↔ Q (v ∈ meaning.values ·) members) := by
    intro members hmembers
    match members with
    | [] => exact absurd rfl hmembers
    | [member] => exact (quantifies.single (v ∈ meaning.values ·) member).symm
    | _ :: _ :: _ => exact hwrap (List.cons_ne_nil _ _)
  calc v ∈ meaning.values (collapse wrap (distinctMembers (types.flatMap parts)))
      ↔ Q (v ∈ meaning.values ·) (distinctMembers (types.flatMap parts)) :=
        hcollapse _ (distinctMembers_ne_nil hflat)
    _ ↔ Q (v ∈ meaning.values ·) (types.flatMap parts) :=
        quantifies.distinct (meaning.mem_values_congr v) _
    _ ↔ Q (fun t => Q (v ∈ meaning.values ·) (parts t)) types := quantifies.flatMap _ _ _
    _ ↔ Q (v ∈ meaning.values ·) types := quantifies.congr fun t ht => (hparts t ht).2

/-- A union of types means the union of what they mean. -/
theorem values_unionOf {types : List TypeExpr} (hsome : types ≠ []) (hempty : union [] ∉ types) :
    meaning.values (unionOf types) = {v | ∃ t ∈ types, v ∈ meaning.values t} := by
  ext v
  refine meaning.mem_values_collapse takesApart_union quantifies_exists ?_ hsome hempty
  intro members hmembers
  rw [meaning.values_union hmembers]
  exact Iff.rfl

/-- An intersection of types means the intersection of what they mean. -/
theorem values_intersectionOf {types : List TypeExpr} (hsome : types ≠ [])
    (hempty : intersection [] ∉ types) :
    meaning.values (intersectionOf types) = {v | ∀ t ∈ types, v ∈ meaning.values t} := by
  ext v
  refine meaning.mem_values_collapse takesApart_intersection quantifies_forall ?_ hsome hempty
  intro members hmembers
  rw [meaning.values_intersection hmembers]
  exact Iff.rfl

end Interpretation

end TypeExpr

/-! ## Scalars -/

/-- Whether a scalar is of a primitive type. -/
def Primitive.hasScalar : Primitive → Literal → Bool
  | .boolean, .boolean _ => true
  | .number, .number _ => true
  | .integer, .number n => n.isInteger
  | .string, .string _ => true
  | .null, .null => true
  | _, _ => false

namespace TypeExpr

mutual

/-- Whether a scalar is a value of a type, where the types with names have no scalars. -/
def hasScalar (value : Literal) : TypeExpr → Bool
  | primitive kind => Primitive.hasScalar kind value
  | literal other => other.same value
  | union members => anyHasScalar value members
  | intersection members => allHaveScalar value members
  | recursive _ body => hasScalar value body
  | unknown => true
  | _ => false

/-- Whether a scalar is a value of a type of the list. -/
def anyHasScalar (value : Literal) : List TypeExpr → Bool
  | [] => false
  | t :: rest => hasScalar value t || anyHasScalar value rest

/-- Whether a scalar is a value of all types of the list. -/
def allHaveScalar (value : Literal) : List TypeExpr → Bool
  | [] => true
  | t :: rest => hasScalar value t && allHaveScalar value rest

end

theorem anyHasScalar_iff {value : Literal} {types : List TypeExpr} :
    anyHasScalar value types = true ↔ ∃ t ∈ types, hasScalar value t = true := by
  induction types with
  | nil => simp [anyHasScalar]
  | cons t rest ih => simp [anyHasScalar, ih]

theorem allHaveScalar_iff {value : Literal} {types : List TypeExpr} :
    allHaveScalar value types = true ↔ ∀ t ∈ types, hasScalar value t = true := by
  induction types with
  | nil => simp [allHaveScalar]
  | cons t rest ih => simp [allHaveScalar, ih]

mutual

/-- Equal types have the same scalars. -/
theorem hasScalar_eq_of_same (value : Literal) : ∀ a b : TypeExpr, same a b = true →
    hasScalar value a = hasScalar value b
  | union members, b, h => by
    cases b <;> simp only [same, Bool.false_eq_true] at h
    rw [hasScalar, hasScalar, anyHasScalar_eq_of_same value members _ h]
  | intersection members, b, h => by
    cases b <;> simp only [same, Bool.false_eq_true] at h
    rw [hasScalar, hasScalar, allHaveScalar_eq_of_same value members _ h]
  | recursive _ body, b, h => by
    cases b <;> simp only [same, Bool.false_eq_true, Bool.and_eq_true] at h
    rw [hasScalar, hasScalar, hasScalar_eq_of_same value body _ h.2]
  | literal one, b, h => by
    cases b <;> simp only [same, Bool.false_eq_true] at h
    rename_i other
    rw [hasScalar, hasScalar, Bool.eq_iff_iff]
    rw [Literal.same_comm] at h
    exact ⟨Literal.same_trans h, Literal.same_trans (by rwa [Literal.same_comm])⟩
  | primitive kind, b, h => by
    cases b <;> simp only [same, Bool.false_eq_true, beq_iff_eq] at h
    rw [h]
  | array _, b, h => by
    cases b <;> simp only [same, Bool.false_eq_true] at h
    rfl
  | record _, b, h => by
    cases b <;> simp only [same, Bool.false_eq_true] at h
    rfl
  | dictionary _, b, h => by
    cases b <;> simp only [same, Bool.false_eq_true] at h
    rfl
  | tuple _, b, h => by
    cases b <;> simp only [same, Bool.false_eq_true] at h
    rfl
  | identifier _ _, b, h => by
    cases b <;> simp only [same, Bool.false_eq_true] at h
    rfl
  | provided _ _, b, h => by
    cases b <;> simp only [same, Bool.false_eq_true] at h
    rfl
  | unknown, b, h => by
    cases b <;> simp only [same, Bool.false_eq_true] at h
    rfl

theorem anyHasScalar_eq_of_same (value : Literal) : ∀ as bs : List TypeExpr,
    sameList as bs = true → anyHasScalar value as = anyHasScalar value bs
  | [], [], _ => rfl
  | [], _ :: _, h => by simp [sameList] at h
  | _ :: _, [], h => by simp [sameList] at h
  | a :: as, b :: bs, h => by
    simp only [sameList, Bool.and_eq_true] at h
    rw [anyHasScalar, anyHasScalar, hasScalar_eq_of_same value a b h.1,
      anyHasScalar_eq_of_same value as bs h.2]

theorem allHaveScalar_eq_of_same (value : Literal) : ∀ as bs : List TypeExpr,
    sameList as bs = true → allHaveScalar value as = allHaveScalar value bs
  | [], [], _ => rfl
  | [], _ :: _, h => by simp [sameList] at h
  | _ :: _, [], h => by simp [sameList] at h
  | a :: as, b :: bs, h => by
    simp only [sameList, Bool.and_eq_true] at h
    rw [allHaveScalar, allHaveScalar, hasScalar_eq_of_same value a b h.1,
      allHaveScalar_eq_of_same value as bs h.2]

end

/-- Types as the sets of their scalars. -/
def scalars : Interpretation Literal where
  values t := {value | hasScalar value t = true}
  values_same h := by
    ext value
    change hasScalar value _ = true ↔ hasScalar value _ = true
    rw [hasScalar_eq_of_same value _ _ h]
  values_union _ := by
    ext value
    change hasScalar value _ = true ↔ _
    rw [hasScalar, anyHasScalar_iff]
    exact Iff.rfl
  values_intersection _ := by
    ext value
    change hasScalar value _ = true ↔ _
    rw [hasScalar, allHaveScalar_iff]
    exact Iff.rfl

/-! ## Laws -/

/-- Groups of normal types can be put together first, what is put together out of normal types is
normal, `null` is allowed once and for all, and unions and intersections mean what they are called,
whatever types mean. -/
theorem unions_and_intersections_obey_laws :
    (∀ before group after : List TypeExpr, group ≠ [] → (∀ t ∈ group, t.Normal) →
      unionOf (before ++ [unionOf group] ++ after) = unionOf (before ++ group ++ after) ∧
      intersectionOf (before ++ [intersectionOf group] ++ after) =
        intersectionOf (before ++ group ++ after)) ∧
    (∀ types : List TypeExpr, (∀ t ∈ types, t.Normal) →
      (unionOf types).Normal ∧ (intersectionOf types).Normal) ∧
    (∀ t : TypeExpr, t.nullable.nullable = t.nullable) ∧
    ∀ {Value : Type u} (meaning : Interpretation Value) (types : List TypeExpr), types ≠ [] →
      (union [] ∉ types →
        meaning.values (unionOf types) = {v | ∃ t ∈ types, v ∈ meaning.values t}) ∧
      (intersection [] ∉ types →
        meaning.values (intersectionOf types) = {v | ∀ t ∈ types, v ∈ meaning.values t}) := by
  refine ⟨?_, ?_, nullable_nullable, ?_⟩
  · intro before group after hsome hnormal
    exact ⟨unionOf_append_unionOf before after hsome hnormal,
      intersectionOf_append_intersectionOf before after hsome hnormal⟩
  · intro types hnormal
    exact ⟨(Combines.union types).normal hnormal, (Combines.intersection types).normal hnormal⟩
  · intro Value meaning types hsome
    exact ⟨meaning.values_unionOf hsome, meaning.values_intersectionOf hsome⟩

/-- Numbers or `null`, and numbers again: `null` is a value of their union, and not of their
intersection. -/
theorem unions_and_intersections_obey_laws_overlapping :
    let group := [union [number, null], number]
    group ≠ [] ∧ (∀ t ∈ group, t.Normal) ∧
    unionOf ([string] ++ [unionOf group] ++ [null]) = unionOf ([string] ++ group ++ [null]) ∧
    intersectionOf ([string] ++ [intersectionOf group] ++ [null]) =
      intersectionOf ([string] ++ group ++ [null]) ∧
    (unionOf group).Normal ∧ (intersectionOf group).Normal ∧
    union [] ∉ group ∧ Literal.null ∈ scalars.values (unionOf group) ∧
    intersection [] ∉ group ∧ Literal.null ∉ scalars.values (intersectionOf group) := by
  intro group
  obtain ⟨hgroups, hclosed, -, hmeaning⟩ := unions_and_intersections_obey_laws
  have hsome : group ≠ [] := List.cons_ne_nil _ _
  have hnumber : number.Normal := Constant.number.inNormalForm.normal
  have hnull : null.Normal := Constant.null.inNormalForm.normal
  have hfirst : (union [number, null]).Normal :=
    (hclosed [number, null]
      (List.forall_mem_cons.mpr ⟨hnumber, List.forall_mem_singleton.mpr hnull⟩)).1
  have hnormal : ∀ t ∈ group, t.Normal :=
    List.forall_mem_cons.mpr ⟨hfirst, List.forall_mem_singleton.mpr hnumber⟩
  obtain ⟨hunion, hintersection⟩ := hgroups [string] group [null] hsome hnormal
  obtain ⟨hunionNormal, hintersectionNormal⟩ := hclosed group hnormal
  obtain ⟨hunions, hintersections⟩ := hmeaning scalars group hsome
  have hnounion : union [] ∉ group := by simp [group, number]
  have hnointersection : intersection [] ∉ group := by simp [group, number]
  refine ⟨hsome, hnormal, hunion, hintersection, hunionNormal, hintersectionNormal, hnounion, ?_,
    hnointersection, ?_⟩
  · rw [hunions hnounion]
    exact ⟨union [number, null], List.mem_cons_self, rfl⟩
  · rw [hintersections hnointersection]
    intro hall
    have hscalar : hasScalar .null number = true :=
      hall number (List.mem_cons_of_mem _ List.mem_cons_self)
    cases hscalar

end TypeExpr

end SchemaTypes
