import Mathlib.Data.List.Basic
import Mathlib.Data.List.Induction
import SchemaTypes.Proofs.Enumeration
import SchemaTypes.Proofs.TypeExpr.Algebra

set_option autoImplicit false

/-!
# The members of a union

A union has the members that its parts are taken apart into; of equal ones the first stays, where it
stands.  Members can be made distinct in groups first.
-/

namespace SchemaTypes

/-! ## The first of equal types -/

namespace TypeExpr

theorem distinctMembers_append_singleton (types : List TypeExpr) (last : TypeExpr) :
    distinctMembers (types ++ [last]) =
      if ∃ earlier ∈ types, same earlier last = true then distinctMembers types
      else distinctMembers types ++ [last] := by
  have hadd : distinctMembers (types ++ [last]) = addMember (distinctMembers types) last := by
    rw [distinctMembers, List.foldl_append]
    rfl
  rw [hadd]
  split
  · rename_i hsome
    obtain ⟨earlier, hearlier, hsame⟩ := hsome
    obtain ⟨other, hother, hequal⟩ := exists_foldl_addMember types [] (Or.inr hearlier)
    exact addMember_of_mem hother (same_trans _ _ _ hequal hsame)
  · rename_i hnone
    refine if_neg fun hany => hnone ?_
    obtain ⟨earlier, hearlier, hsame⟩ := List.any_eq_true.mp hany
    exact ⟨earlier, mem_of_mem_distinctMembers hearlier, hsame⟩

/-- Of equal types at rising addresses, those stay that no earlier one equals. -/
theorem exists_kept {log : List (Address × TypeExpr)}
    (hrises : log.Pairwise fun entry later => entry.1.Before later.1) :
    ∃ kept : List (Address × TypeExpr),
      kept.map Prod.snd = distinctMembers (log.map Prod.snd) ∧ kept.Sublist log ∧
      ∀ entry, entry ∈ kept ↔ entry ∈ log ∧
        ∀ earlier ∈ log, earlier.1.Before entry.1 → same earlier.2 entry.2 = false := by
  induction log using List.reverseRecOn with
  | nil => exact ⟨[], rfl, .slnil, by simp⟩
  | append_singleton log last ih =>
    obtain ⟨hlog, -, hlast⟩ := List.pairwise_append.mp hrises
    obtain ⟨kept, htypes, hsublist, hkept⟩ := ih hlog
    have hlast : ∀ entry ∈ log, entry.1.Before last.1 :=
      fun entry hentry => hlast entry hentry last (List.mem_singleton_self last)
    -- the last entry is before none, so that it does not matter to the others
    have hothers : ∀ entry, entry ∈ log → ((∀ earlier ∈ log ++ [last],
        earlier.1.Before entry.1 → same earlier.2 entry.2 = false) ↔
          ∀ earlier ∈ log, earlier.1.Before entry.1 → same earlier.2 entry.2 = false) := by
      intro entry hentry
      rw [List.forall_mem_append, List.forall_mem_singleton]
      exact and_iff_left fun hbefore => absurd hbefore (hlast entry hentry).asymm
    have hself : (∀ earlier ∈ log ++ [last],
        earlier.1.Before last.1 → same earlier.2 last.2 = false) ↔
          ¬ ∃ earlier ∈ log.map Prod.snd, same earlier last.2 = true := by
      rw [List.forall_mem_append, List.forall_mem_singleton,
        and_iff_left fun hbefore => absurd hbefore hbefore.asymm]
      simp only [not_exists, not_and, Bool.not_eq_true, List.forall_mem_map]
      exact forall_congr' fun earlier => forall_congr' fun hmem =>
        forall_prop_of_true (hlast earlier hmem)
    have hentries : ∀ entry, (entry ∈ log ++ [last] ∧ ∀ earlier ∈ log ++ [last],
        earlier.1.Before entry.1 → same earlier.2 entry.2 = false) ↔
          entry ∈ kept ∨ entry = last ∧
            ¬ ∃ earlier ∈ log.map Prod.snd, same earlier last.2 = true := by
      intro entry
      rw [hkept, List.mem_append, List.mem_singleton, or_and_right]
      exact or_congr (and_congr_right (hothers entry))
        (and_congr_right fun hentry => hentry ▸ hself)
    rw [List.map_append, List.map_singleton, distinctMembers_append_singleton]
    split
    · rename_i hsome
      refine ⟨kept, htypes, hsublist.trans (List.sublist_append_left _ _), fun entry => ?_⟩
      rw [hentries]
      exact (or_iff_left fun h => h.2 hsome).symm
    · rename_i hnone
      refine ⟨kept ++ [last], ?_, hsublist.append (.refl _), fun entry => ?_⟩
      · rw [List.map_append, htypes, List.map_singleton]
      · rw [hentries, List.mem_append, List.mem_singleton, and_iff_left hnone]

end TypeExpr

theorem Enumerates.distinctMembers {Asks : Address → TypeExpr → Prop} {types : List TypeExpr}
    (h : Enumerates Asks types) :
    Enumerates (fun address type => Asks address type ∧
        ∀ earlier other, Asks earlier other → earlier.Before address → other.same type = false)
      (TypeExpr.distinctMembers types) := by
  obtain ⟨log, rfl, hrises, hmem⟩ := h
  obtain ⟨kept, htypes, hsublist, hkept⟩ := TypeExpr.exists_kept hrises
  refine ⟨kept, htypes, hrises.sublist hsublist, fun address type => ?_⟩
  simp only [hkept, Prod.forall, hmem]

namespace TypeExpr

/-- What types are taken apart into are the members of their union, each once. -/
theorem unionMembers_unionOf {types : List TypeExpr} (hsome : types.flatMap unionMembers ≠ [])
    (hflat : ∀ inner, union inner ∉ types.flatMap unionMembers) :
    (unionOf types).unionMembers = distinctMembers (types.flatMap unionMembers) :=
  takesApart_union.parts_collapse (distinctMembers_ne_nil hsome)
    fun inner hmem => hflat inner (mem_of_mem_distinctMembers hmem)

theorem flatMap_unionMembers {types : List TypeExpr} (hflat : ∀ inner, union inner ∉ types) :
    types.flatMap unionMembers = types := by
  rw [List.flatMap_congr fun t ht => takesApart_union.whole fun inner heq => hflat inner (heq ▸ ht)]
  exact List.flatMap_singleton' types

/-- Members can be made distinct within groups first. -/
theorem distinctMembers_flatMap {α : Type} (items : List α) (group : α → List TypeExpr) :
    distinctMembers (items.flatMap fun item => distinctMembers (group item)) =
      distinctMembers (items.flatMap group) := by
  suffices hseen : ∀ seen, (items.flatMap fun item => distinctMembers (group item)).foldl
      addMember seen = (items.flatMap group).foldl addMember seen from hseen []
  induction items with
  | nil => exact fun _ => rfl
  | cons item rest ih =>
    intro seen
    rw [List.flatMap_cons, List.flatMap_cons, List.foldl_append, List.foldl_append, ih,
      distinctMembers, foldl_foldl_addMember, List.foldl_nil]

/-- A type that equals itself only is dropped nowhere but after itself. -/
theorem mem_distinctMembers {types : List TypeExpr} {t : TypeExpr}
    (h : ∀ other, same other t = true → other = t) : t ∈ distinctMembers types ↔ t ∈ types := by
  refine ⟨mem_of_mem_distinctMembers, fun hmem => ?_⟩
  obtain ⟨other, hother, hsame⟩ := exists_foldl_addMember types [] (Or.inr hmem)
  exact h other hsame ▸ hother

theorem eq_of_same_primitive {t : TypeExpr} {kind : Primitive}
    (h : same t (primitive kind) = true) : t = primitive kind := by
  cases t <;> simp only [same, Bool.false_eq_true, beq_iff_eq] at h
  rw [h]

theorem eq_of_same_provided {t : TypeExpr} {display backing : String}
    (h : same t (provided display backing) = true) : t = provided display backing := by
  cases t <;> simp only [same, Bool.false_eq_true, Bool.and_eq_true, beq_iff_eq] at h
  rw [h.1, h.2]

/-- Neither put together out of members nor a literal. -/
def Simple : TypeExpr → Prop
  | union _ => False
  | intersection _ => False
  | literal _ => False
  | _ => True

theorem Simple.ne_union {t : TypeExpr} (h : t.Simple) {inner : List TypeExpr} :
    t ≠ union inner := by
  rintro rfl
  exact h

theorem Simple.ne_literal {t : TypeExpr} (h : t.Simple) {value : Literal} : t ≠ literal value := by
  rintro rfl
  exact h

theorem Simple.proper {t : TypeExpr} (h : t.Simple) : t.Proper := by
  cases t <;> first | exact h.elim | trivial

theorem exists_of_same_literal {t : TypeExpr} {value : Literal}
    (h : same t (literal value) = true) : ∃ other, t = literal other ∧ other.same value = true := by
  cases t <;> simp only [same, Bool.false_eq_true] at h
  exact ⟨_, rfl, h⟩

/-- The value of a literal. -/
def literal? : TypeExpr → Option Literal
  | literal value => some value
  | _ => none

theorem literal?_eq_some_iff {t : TypeExpr} {value : Literal} :
    t.literal? = some value ↔ t = literal value := by
  cases t <;> simp [literal?]

end TypeExpr

end SchemaTypes
