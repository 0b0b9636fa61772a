import SchemaTypes.Proofs.Reference
import SchemaTypes.Proofs.Registry.Growth

set_option autoImplicit false

/-!
# What a registry remembers

A registry remembers a reference by its declaration or by its inlined type; open references are not
remembered yet.  Growing forgets nothing.  The targets that are read while a registry grows are
accounted for if they are pairwise different and are just the references that are remembered
afterwards and were not before.
-/

namespace SchemaTypes.Registry

/-- Whether a reference has a declaration or an inlined type. -/
def Remembers (registry : Registry) (r : Reference) : Prop :=
  (∃ model, registry.models.get? r.canonical = some model) ∨
    ∃ type, registry.inlined.get? r.canonical = some type

theorem Remembers.grows {before after : Registry} {r : Reference} (h : before.Remembers r)
    (hgrows : before.Grows after) : after.Remembers r := by
  rcases h with ⟨model, hmodel⟩ | ⟨type, htype⟩
  · exact Or.inl ⟨model, OrderedMap.get?_of_prefix hgrows.models hmodel⟩
  · exact Or.inr ⟨type, OrderedMap.get?_of_prefix hgrows.inlined htype⟩

theorem remembers_iff_of_same {before after : Registry} (hmodels : after.models = before.models)
    (hinlined : after.inlined = before.inlined) (r : Reference) :
    after.Remembers r ↔ before.Remembers r := by
  unfold Remembers
  rw [hmodels, hinlined]

theorem not_remembers {registry : Registry} {r : Reference}
    (hmodels : registry.models.get? r.canonical = none)
    (hinlined : registry.inlined.get? r.canonical = none) : ¬ registry.Remembers r := by
  rintro (⟨model, hmodel⟩ | ⟨type, htype⟩)
  · rw [hmodels] at hmodel
    cases hmodel
  · rw [hinlined] at htype
    cases htype

namespace Closes

variable {before after : Registry} {r : Reference} {type answer : TypeExpr}

/-- A reference that is closed is remembered. -/
theorem remembers (h : before.Closes r type answer after)
    (hmodels : before.models.get? r.canonical = none)
    (hinlined : before.inlined.get? r.canonical = none) : after.Remembers r := by
  cases h with
  | recursive => exact Or.inl ⟨_, get?_models_declaring (by exact hmodels) _ _⟩
  | declared => exact Or.inl ⟨_, get?_models_declaring (by exact hmodels) _ _⟩
  | inlined => exact Or.inr ⟨type, OrderedMap.get?_append_singleton hinlined type⟩

/-- Closing a reference makes no difference to what is remembered of others. -/
theorem remembers_iff_of_ne (h : before.Closes r type answer after) {other : Reference}
    (hother : other ≠ r) : after.Remembers other ↔ before.Remembers other := by
  have hkey : other.canonical ≠ r.canonical := fun heq =>
    hother (Reference.eq_of_canonical_eq heq)
  obtain ⟨declared, hdeclared, hdeclaredKeys⟩ := h.models_eq
  obtain ⟨inline, hinline, hinlineKeys⟩ := h.inlined_eq
  unfold Remembers
  rw [hdeclared, hinline, get?_append_of_keys hdeclaredKeys hkey,
    get?_append_of_keys hinlineKeys hkey]

end Closes

/-! ## Targets that are read -/

/-- The references the targets of which are read between two registries: each is read once, and they
are those that are remembered afterwards and were not before. -/
structure ReadOnce (before : Registry) (read : List Reference) (after : Registry) : Prop where
  nodup : read.Nodup
  mem_iff : ∀ r, r ∈ read ↔ after.Remembers r ∧ ¬ before.Remembers r

namespace ReadOnce

variable {before middle after : Registry} {read more : List Reference}

/-- Nothing is read where nothing else is remembered. -/
theorem nil (hmodels : after.models = before.models) (hinlined : after.inlined = before.inlined) :
    before.ReadOnce [] after := by
  refine ⟨List.nodup_nil, fun r => ?_⟩
  rw [remembers_iff_of_same hmodels hinlined]
  simp

theorem trans (first : before.ReadOnce read middle) (second : middle.ReadOnce more after)
    (hfirst : before.Grows middle) (hsecond : middle.Grows after) :
    before.ReadOnce (read ++ more) after where
  nodup := by
    refine List.nodup_append.mpr ⟨first.nodup, second.nodup, ?_⟩
    rintro r hread s hmore rfl
    exact ((second.mem_iff r).mp hmore).2 ((first.mem_iff r).mp hread).1
  mem_iff r := by
    rw [List.mem_append, first.mem_iff, second.mem_iff]
    constructor
    · rintro (⟨hmiddle, hbefore⟩ | ⟨hafter, hmiddle⟩)
      · exact ⟨hmiddle.grows hsecond, hbefore⟩
      · exact ⟨hafter, fun hbefore => hmiddle (hbefore.grows hfirst)⟩
    · rintro ⟨hafter, hbefore⟩
      by_cases hmiddle : middle.Remembers r
      · exact Or.inl ⟨hmiddle, hbefore⟩
      · exact Or.inr ⟨hafter, hmiddle⟩

/-- A new reference is opened, targets are read, and it is closed: its own target was read
besides. -/
theorem closes {r : Reference} {policy : NamingPolicy} {type answer : TypeExpr}
    (h : (before.begin r.canonical policy).ReadOnce read middle) (hnew : before.New r.canonical)
    (hmodels : middle.models.get? r.canonical = none)
    (hinlined : middle.inlined.get? r.canonical = none)
    (hcloses : middle.Closes r type answer after) : before.ReadOnce (r :: read) after := by
  have hopened : ∀ other, (before.begin r.canonical policy).Remembers other ↔
      before.Remembers other := remembers_iff_of_same rfl rfl
  refine ⟨List.nodup_cons.mpr ⟨fun hmem => ?_, h.nodup⟩, fun other => ?_⟩
  · exact not_remembers hmodels hinlined ((h.mem_iff r).mp hmem).1
  · rw [List.mem_cons, h.mem_iff, hopened]
    by_cases hother : other = r
    · subst hother
      simp [hcloses.remembers hmodels hinlined, not_remembers hnew.models hnew.inlined]
    · rw [hcloses.remembers_iff_of_ne hother]
      simp [hother]

end ReadOnce

end SchemaTypes.Registry
