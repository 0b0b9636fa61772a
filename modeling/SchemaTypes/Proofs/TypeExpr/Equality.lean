import SchemaTypes.TypeExpr.Basic

set_option autoImplicit false

/-!
# Equality of types

Types are compared form by form, and literals by their values: the two zeros among the doubles are
equal, so that equal types need not be the same.  Equality is an equivalence relation all the same.
-/

namespace SchemaTypes

theorem Number.equal_self (n : Number) : n.equal n = true := by
  cases n <;> simp [Number.equal, Binary64.equal]

theorem Number.equal_comm (m n : Number) : m.equal n = n.equal m := by
  cases m <;> cases n <;> simp [Number.equal, Binary64.equal, eq_comm, Bool.and_comm, BEq.comm]

theorem Number.equal_trans {m n o : Number} (hmn : m.equal n = true) (hno : n.equal o = true) :
    m.equal o = true := by
  cases m <;> cases n <;> simp only [equal, Bool.false_eq_true] at hmn <;>
    cases o <;> simp only [equal, Bool.false_eq_true] at hno
  · rw [equal, beq_iff_eq.mp hmn, hno]
  · simp only [Binary64.equal, Bool.or_eq_true, decide_eq_true_eq, Bool.and_eq_true] at hmn hno
    rcases hmn with rfl | ⟨hm, hn⟩
    · simpa [equal, Binary64.equal] using hno
    · rcases hno with rfl | ⟨-, ho⟩ <;> simp [equal, Binary64.equal, *]

theorem Literal.same_self (value : Literal) : value.same value = true := by
  cases value <;> simp [Literal.same, Number.equal_self]

theorem Literal.same_comm (a b : Literal) : a.same b = b.same a := by
  cases a <;> cases b <;> simp [Literal.same, BEq.comm, Number.equal_comm]

theorem Literal.same_trans {a b c : Literal} (hab : a.same b = true) (hbc : b.same c = true) :
    a.same c = true := by
  cases a <;> cases b <;> simp only [same, Bool.false_eq_true] at hab <;>
    cases c <;> simp only [same, Bool.false_eq_true] at hbc
  · rw [same, beq_iff_eq.mp hab, hbc]
  · exact Number.equal_trans hab hbc
  · rw [same, beq_iff_eq.mp hab, hbc]
  · rfl

namespace TypeExpr

mutual

/-- Every type equals itself. -/
theorem same_self : ∀ t : TypeExpr, same t t = true
  | array element => same_self element
  | record fields => sameFields_self fields
  | dictionary values => same_self values
  | union members => sameList_self members
  | intersection members => sameList_self members
  | tuple items => sameList_self items
  | recursive _ body => by simp [same, same_self body]
  | literal value => value.same_self
  | primitive _ => by simp [same]
  | identifier _ _ => by simp [same]
  | provided _ _ => by simp [same]
  | unknown => rfl

theorem sameList_self : ∀ types : List TypeExpr, sameList types types = true
  | [] => rfl
  | t :: rest => by simp [sameList, same_self t, sameList_self rest]

theorem sameFields_self : ∀ fields : List (FieldLabel × TypeExpr), sameFields fields fields = true
  | [] => rfl
  | (_, t) :: rest => by simp [sameFields, same_self t, sameFields_self rest]

end

mutual

/-- It does not matter which of two types is compared with the other. -/
theorem same_comm : ∀ a b : TypeExpr, same a b = same b a
  | array element, b => by
    cases b <;> simp only [same]
    exact same_comm element _
  | record fields, b => by
    cases b <;> simp only [same]
    exact sameFields_comm fields _
  | dictionary values, b => by
    cases b <;> simp only [same]
    exact same_comm values _
  | union members, b => by
    cases b <;> simp only [same]
    exact sameList_comm members _
  | intersection members, b => by
    cases b <;> simp only [same]
    exact sameList_comm members _
  | tuple items, b => by
    cases b <;> simp only [same]
    exact sameList_comm items _
  | recursive _ body, b => by
    cases b <;> simp only [same]
    rw [same_comm body, BEq.comm]
  | literal value, b => by
    cases b <;> simp only [same]
    exact value.same_comm _
  | primitive _, b => by
    cases b <;> simp only [same]
    exact BEq.comm
  | identifier _ importPath, b => by
    cases b <;> simp only [same]
    rw [BEq.comm, BEq.comm (a := importPath)]
  | provided _ backing, b => by
    cases b <;> simp only [same]
    rw [BEq.comm, BEq.comm (a := backing)]
  | unknown, b => by cases b <;> simp only [same]

theorem sameList_comm : ∀ as bs : List TypeExpr, sameList as bs = sameList bs as
  | [], [] => rfl
  | [], _ :: _ => rfl
  | _ :: _, [] => rfl
  | a :: as, b :: bs => by rw [sameList, sameList, same_comm a b, sameList_comm as bs]

theorem sameFields_comm : ∀ as bs : List (FieldLabel × TypeExpr),
    sameFields as bs = sameFields bs as
  | [], [] => rfl
  | [], _ :: _ => rfl
  | _ :: _, [] => rfl
  | (l, a) :: as, (_, b) :: bs => by
    rw [sameFields, sameFields, same_comm a b, sameFields_comm as bs, BEq.comm (a := l)]

end

mutual

/-- Types that equal the same type are equal. -/
theorem same_trans : ∀ a b c : TypeExpr, same a b = true → same b c = true → same a c = true
  | array element, b, c, hab, hbc => by
    cases b <;> simp only [same, Bool.false_eq_true] at hab
    cases c <;> simp only [same, Bool.false_eq_true] at hbc
    exact same_trans element _ _ hab hbc
  | record fields, b, c, hab, hbc => by
    cases b <;> simp only [same, Bool.false_eq_true] at hab
    cases c <;> simp only [same, Bool.false_eq_true] at hbc
    exact sameFields_trans fields _ _ hab hbc
  | dictionary values, b, c, hab, hbc => by
    cases b <;> simp only [same, Bool.false_eq_true] at hab
    cases c <;> simp only [same, Bool.false_eq_true] at hbc
    exact same_trans values _ _ hab hbc
  | union members, b, c, hab, hbc => by
    cases b <;> simp only [same, Bool.false_eq_true] at hab
    cases c <;> simp only [same, Bool.false_eq_true] at hbc
    exact sameList_trans members _ _ hab hbc
  | intersection members, b, c, hab, hbc => by
    cases b <;> simp only [same, Bool.false_eq_true] at hab
    cases c <;> simp only [same, Bool.false_eq_true] at hbc
    exact sameList_trans members _ _ hab hbc
  | tuple items, b, c, hab, hbc => by
    cases b <;> simp only [same, Bool.false_eq_true] at hab
    cases c <;> simp only [same, Bool.false_eq_true] at hbc
    exact sameList_trans items _ _ hab hbc
  | recursive _ body, b, c, hab, hbc => by
    cases b <;> simp only [same, Bool.false_eq_true, Bool.and_eq_true, beq_iff_eq] at hab
    cases c <;> simp only [same, Bool.false_eq_true, Bool.and_eq_true, beq_iff_eq] at hbc
    simp only [same, Bool.and_eq_true, beq_iff_eq]
    exact ⟨hab.1.trans hbc.1, same_trans body _ _ hab.2 hbc.2⟩
  | literal value, b, c, hab, hbc => by
    cases b <;> simp only [same, Bool.false_eq_true] at hab
    cases c <;> simp only [same, Bool.false_eq_true] at hbc
    exact Literal.same_trans hab hbc
  | primitive _, b, c, hab, hbc => by
    cases b <;> simp only [same, Bool.false_eq_true, beq_iff_eq] at hab
    rw [hab]
    exact hbc
  | identifier _ _, b, c, hab, hbc => by
    cases b <;> simp only [same, Bool.false_eq_true, Bool.and_eq_true, beq_iff_eq] at hab
    rw [hab.1, hab.2]
    exact hbc
  | provided _ _, b, c, hab, hbc => by
    cases b <;> simp only [same, Bool.false_eq_true, Bool.and_eq_true, beq_iff_eq] at hab
    rw [hab.1, hab.2]
    exact hbc
  | unknown, b, c, hab, hbc => by
    cases b <;> simp only [same, Bool.false_eq_true] at hab
    exact hbc

theorem sameList_trans : ∀ as bs cs : List TypeExpr,
    sameList as bs = true → sameList bs cs = true → sameList as cs = true
  | [], [], _, _, hbc => hbc
  | _ :: _, [], _, hab, _ => by simp [sameList] at hab
  | [], _ :: _, _, hab, _ => by simp [sameList] at hab
  | _ :: _, _ :: _, [], _, hbc => by simp [sameList] at hbc
  | a :: as, b :: bs, c :: cs, hab, hbc => by
    simp only [sameList, Bool.and_eq_true] at hab hbc ⊢
    exact ⟨same_trans a b c hab.1 hbc.1, sameList_trans as bs cs hab.2 hbc.2⟩

theorem sameFields_trans : ∀ as bs cs : List (FieldLabel × TypeExpr),
    sameFields as bs = true → sameFields bs cs = true → sameFields as cs = true
  | [], [], _, _, hbc => hbc
  | _ :: _, [], _, hab, _ => by simp [sameFields] at hab
  | [], _ :: _, _, hab, _ => by simp [sameFields] at hab
  | _ :: _, _ :: _, [], _, hbc => by simp [sameFields] at hbc
  | (_, a) :: as, (_, b) :: bs, (_, c) :: cs, hab, hbc => by
    simp only [sameFields, Bool.and_eq_true, beq_iff_eq] at hab hbc ⊢
    exact ⟨⟨hab.1.1.trans hbc.1.1, same_trans a b c hab.1.2 hbc.1.2⟩,
      sameFields_trans as bs cs hab.2 hbc.2⟩

end

end TypeExpr

end SchemaTypes
