import SchemaTypes.Proofs.TypeExpr.Occurrences

set_option autoImplicit false

/-!
# Types that are embedded in others

What stands for a reference is copied into every type that the reference is part of, so it must not
be a declaration or contain one: neither a record nor a recursive declaration occurs in it, at any
depth.
-/

namespace SchemaTypes.TypeExpr

/-- No record and no recursive declaration occurs in the type. -/
structure Embeddable (t : TypeExpr) : Prop where
  recordless : ∀ fields, record fields ∉ t.occurrences
  unfolded : t.Unfolded

mutual

/-- A type is complex enough for a declaration exactly if a record occurs in it. -/
theorem qualifies_iff : ∀ t : TypeExpr,
    t.qualifies = true ↔ ∃ fields, record fields ∈ t.occurrences
  | record fields => by
    constructor
    · intro _
      exact ⟨fields, mem_occurrences_self _⟩
    · intro _
      rfl
  | array element => by simp [qualifies, occurrences, qualifies_iff element]
  | dictionary values => by simp [qualifies, occurrences, qualifies_iff values]
  | union members => by simp [qualifies, occurrences, anyQualifies_iff members]
  | intersection members => by simp [qualifies, occurrences, anyQualifies_iff members]
  | tuple items => by simp [qualifies, occurrences, anyQualifies_iff items]
  | recursive name body => by simp [qualifies, occurrences, qualifies_iff body]
  | primitive _ => by simp [qualifies, occurrences]
  | literal _ => by simp [qualifies, occurrences]
  | identifier _ _ => by simp [qualifies, occurrences]
  | provided _ _ => by simp [qualifies, occurrences]
  | unknown => by simp [qualifies, occurrences]

theorem anyQualifies_iff : ∀ types : List TypeExpr,
    anyQualifies types = true ↔ ∃ fields, record fields ∈ listOccurrences types
  | [] => by simp [anyQualifies, listOccurrences]
  | t :: rest => by
    simp [anyQualifies, listOccurrences, qualifies_iff t, anyQualifies_iff rest, exists_or]

end

/-- A type that is not complex enough for a declaration contains none, if no part of it is
recursive. -/
theorem embeddable_of_qualifies {t : TypeExpr} (hunfolded : t.Unfolded)
    (hsimple : t.qualifies = false) : t.Embeddable := by
  refine ⟨?_, hunfolded⟩
  intro fields hmem
  have hqualifies := (qualifies_iff t).mpr ⟨fields, hmem⟩
  rw [hsimple] at hqualifies
  cases hqualifies

end SchemaTypes.TypeExpr
