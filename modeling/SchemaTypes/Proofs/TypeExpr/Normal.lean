import SchemaTypes.Proofs.TypeExpr.Equality
import SchemaTypes.Proofs.TypeExpr.Occurrences

set_option autoImplicit false

/-!
# Normal types

A union in normal form has at least two members, all of them different and none of them a union; an
intersection likewise.  Members are taken apart one level deep only: a union of types comes out
normal because the members of those among them that are unions are no unions themselves.
-/

namespace SchemaTypes

namespace TypeExpr

/-! ## Different members -/

/-- Two types are told apart, whichever is compared with the other. -/
def Differ (a b : TypeExpr) : Prop := same a b = false ∧ same b a = false

/-- A member that equals an earlier one is dropped, so that those which stay are different. -/
theorem pairwise_foldl_addMember (members : List TypeExpr) {seen : List TypeExpr}
    (h : seen.Pairwise Differ) : (members.foldl addMember seen).Pairwise Differ := by
  induction members generalizing seen with
  | nil => exact h
  | cons member rest ih =>
    apply ih
    unfold addMember
    split
    · exact h
    · rename_i hnew
      refine List.pairwise_append.mpr ⟨h, List.pairwise_singleton _ _, ?_⟩
      intro old hold added hadded
      obtain rfl := List.mem_singleton.mp hadded
      have hnot : same old added = false := by
        rw [List.any_eq_true] at hnew
        exact Bool.eq_false_iff.mpr fun hsame => hnew ⟨old, hold, hsame⟩
      exact ⟨hnot, (same_comm added old).trans hnot⟩

theorem pairwise_distinctMembers (members : List TypeExpr) :
    (distinctMembers members).Pairwise Differ :=
  pairwise_foldl_addMember members .nil

/-! ## Normal types -/

/-- The members of a union, or those of an intersection, in normal form. -/
structure Apart (wrap : List TypeExpr → TypeExpr) (members : List TypeExpr) : Prop where
  several : 2 ≤ members.length
  different : members.Pairwise Differ
  /-- No member could be taken apart itself. -/
  flat : ∀ inner, wrap inner ∉ members

/-- A type is in normal form at its root. -/
def Proper : TypeExpr → Prop
  | union members => Apart union members
  | intersection members => Apart intersection members
  | _ => True

/-- A type is in normal form at every depth. -/
def Normal (t : TypeExpr) : Prop := ∀ s ∈ t.occurrences, s.Proper

theorem Normal.proper {t : TypeExpr} (h : t.Normal) : t.Proper := h t (mem_occurrences_self t)

/-- The distinct members of types, wrapped, are in normal form if each of these members is and none
of them can be taken apart. -/
theorem proper_collapse {wrap : List TypeExpr → TypeExpr} {parts : TypeExpr → List TypeExpr}
    (hwrap : ∀ {members}, Apart wrap members → (wrap members).Proper) {types : List TypeExpr}
    (hproper : ∀ t ∈ types, ∀ member ∈ parts t, member.Proper)
    (hflat : ∀ t ∈ types, ∀ inner, wrap inner ∉ parts t) :
    (collapse wrap (distinctMembers (types.flatMap parts))).Proper := by
  have hsource : ∀ member ∈ distinctMembers (types.flatMap parts), ∃ t ∈ types, member ∈ parts t :=
    fun member hmember => List.mem_flatMap.mp (mem_of_mem_distinctMembers hmember)
  rcases collapse_cases wrap (distinctMembers (types.flatMap parts)) with
    hnone | hone | ⟨hwrapped, hseveral⟩
  · rw [hnone]
    trivial
  · obtain ⟨t, ht, hmember⟩ := hsource _ hone
    exact hproper t ht _ hmember
  · rw [hwrapped]
    refine hwrap ⟨hseveral, pairwise_distinctMembers _, ?_⟩
    intro inner hmem
    obtain ⟨t, ht, hmember⟩ := hsource _ hmem
    exact hflat t ht inner hmember

theorem proper_unionOf {types : List TypeExpr} (h : ∀ t ∈ types, t.Normal) :
    (unionOf types).Proper := by
  apply proper_collapse id
  · intro t ht member hmember
    exact h t ht member
      (mem_occurrences_of_mem_unionMembers hmember (mem_occurrences_self member))
  · intro t ht inner hmem
    have hproper := (h t ht).proper
    cases t with
    | union members => exact hproper.flat inner hmem
    | _ => cases List.mem_singleton.mp hmem

theorem proper_intersectionOf {types : List TypeExpr} (h : ∀ t ∈ types, t.Normal) :
    (intersectionOf types).Proper := by
  apply proper_collapse id
  · intro t ht member hmember
    exact h t ht member
      (mem_occurrences_of_mem_intersectionMembers hmember (mem_occurrences_self member))
  · intro t ht inner hmem
    have hproper := (h t ht).proper
    cases t with
    | intersection members => exact hproper.flat inner hmem
    | _ => cases List.mem_singleton.mp hmem

/-- What is put together out of normal types is normal. -/
theorem Combines.normal {types : List TypeExpr} {t : TypeExpr} (h : Combines types t)
    (hparts : ∀ part ∈ types, part.Normal) : t.Normal := by
  intro s hs
  rcases h.mem_occurrences hs with ⟨part, hpart, hin⟩ | ⟨rfl, -⟩
  · exact hparts part hpart s hin
  · cases h with
    | union => exact proper_unionOf hparts
    | intersection => exact proper_intersectionOf hparts
    | array => trivial
    | dictionary => trivial
    | tuple => trivial
    | record => trivial

/-! ## Types that schemas have -/

/-- A normal type in which neither the primitive type of integers nor the literal `null` occurs:
numbers are not told apart by type, and `null` is a primitive type. -/
structure InNormalForm (t : TypeExpr) : Prop where
  normal : t.Normal
  integerless : primitive .integer ∉ t.occurrences
  nullless : literal .null ∉ t.occurrences

/-- A type without parts is in normal form unless it is one of the two. -/
theorem InNormalForm.of_occurrences {t : TypeExpr} (halone : t.occurrences = [t])
    (hproper : t.Proper) (hinteger : t ≠ primitive .integer) (hnull : t ≠ literal .null) :
    t.InNormalForm := by
  have hself : ∀ s ∈ t.occurrences, s = t := by
    intro s hs
    rw [halone] at hs
    exact List.mem_singleton.mp hs
  refine ⟨?_, fun hmem => hinteger (hself _ hmem).symm, fun hmem => hnull (hself _ hmem).symm⟩
  intro s hs
  rw [hself s hs]
  exact hproper

theorem Combines.inNormalForm {types : List TypeExpr} {t : TypeExpr} (h : Combines types t)
    (hparts : ∀ part ∈ types, part.InNormalForm) : t.InNormalForm := by
  refine ⟨h.normal fun part hpart => (hparts part hpart).normal, ?_, ?_⟩
  · intro hmem
    rcases h.mem_occurrences hmem with ⟨part, hpart, hin⟩ | ⟨-, hform⟩
    · exact (hparts part hpart).integerless hin
    · cases hform
  · intro hmem
    rcases h.mem_occurrences hmem with ⟨part, hpart, hin⟩ | ⟨-, hform⟩
    · exact (hparts part hpart).nullless hin
    · cases hform

theorem inNormalForm_literals {values : List Literal} (h : Literal.null ∉ values) :
    (unionOf (values.map literal)).InNormalForm := by
  apply (Combines.union _).inNormalForm
  intro part hpart
  obtain ⟨value, hvalue, rfl⟩ := List.mem_map.mp hpart
  have hvalue' : literal value ≠ literal .null := by
    intro heq
    cases heq
    exact h hvalue
  exact InNormalForm.of_occurrences rfl trivial nofun hvalue'

theorem inNormalForm_unknown : InNormalForm unknown := .of_occurrences rfl trivial nofun nofun

theorem Constant.inNormalForm {t : TypeExpr} (h : t.Constant) : t.InNormalForm := by
  cases h with
  | unknown => exact inNormalForm_unknown
  | number => exact .of_occurrences rfl trivial nofun nofun
  | boolean => exact .of_occurrences rfl trivial nofun nofun
  | null => exact .of_occurrences rfl trivial nofun nofun
  | anyObject =>
    apply (Combines.dictionary TypeExpr.unknown).inNormalForm
    intro part hpart
    rw [List.mem_singleton.mp hpart]
    exact inNormalForm_unknown
  | literals values nonnull => exact inNormalForm_literals nonnull

/-- Normal form is inherited from the parts of a type. -/
theorem inherited_inNormalForm : Inherited InNormalForm where
  constant := Constant.inNormalForm
  string := .of_occurrences rfl trivial nofun nofun
  provided _ _ := .of_occurrences rfl trivial nofun nofun
  identifier _ _ := .of_occurrences rfl trivial nofun nofun
  combines := Combines.inNormalForm

/-- A declaration that refers to itself is in normal form if its body is. -/
theorem InNormalForm.recursive {body : TypeExpr} (h : body.InNormalForm) (name : String) :
    (recursive name body).InNormalForm := by
  refine ⟨?_, ?_, ?_⟩
  · intro s hs
    rw [occurrences] at hs
    rcases List.mem_cons.mp hs with rfl | hbody
    · trivial
    · exact h.normal s hbody
  · simpa [occurrences] using h.integerless
  · simpa [occurrences] using h.nullless

end TypeExpr

end SchemaTypes
