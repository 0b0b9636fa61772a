import Mathlib.Data.String.Basic
import SchemaTypes.Dump
import SchemaTypes.Proofs.Registry.Answers
import SchemaTypes.Proofs.TypeExpr.Mentions

set_option autoImplicit false

/-!
# Listed helpers

A dump lists helpers by the path that they are imported from.  Noting a helper lists it and no
other, whatever the order of the lists; where they rise, they go on to.  What should be listed are
the helpers that are in use: those behind the provided types in declarations, and in the types that
were given to callers.
-/

namespace SchemaTypes.Registry

/-- Whether a helper is listed under an import path. -/
def Lists (registry : Registry) (path backing : String) : Prop :=
  ∃ entry ∈ registry.dump.helpers, entry.1 = path ∧ backing ∈ entry.2

instance (registry : Registry) (path backing : String) : Decidable (registry.Lists path backing) :=
  inferInstanceAs (Decidable (∃ entry ∈ registry.dump.helpers, entry.1 = path ∧ backing ∈ entry.2))

theorem not_lists_empty (path backing : String) : ¬ empty.Lists path backing := by
  rintro ⟨entry, hentry, -⟩
  cases hentry

/-! ## Noting a helper -/

theorem mem_addSorted {item other : String} {list : List String} :
    other ∈ addSorted item list ↔ other ∈ list ∨ other = item := by
  induction list with
  | nil => simp [addSorted]
  | cons head rest ih =>
    rw [addSorted]
    split
    · rename_i hitem
      rw [hitem, iff_self_or]
      rintro rfl
      exact List.mem_cons_self
    · split
      · rw [List.mem_cons, or_comm]
      · rw [List.mem_cons, ih, List.mem_cons, or_assoc]

theorem exists_mem_addHelper {path name path' name' : String}
    {helpers : List (String × List String)} :
    (∃ entry ∈ addHelper path name helpers, entry.1 = path' ∧ name' ∈ entry.2) ↔
      (∃ entry ∈ helpers, entry.1 = path' ∧ name' ∈ entry.2) ∨ path' = path ∧ name' = name := by
  induction helpers with
  | nil => simp [addHelper, eq_comm]
  | cons entry rest ih =>
    obtain ⟨key, names⟩ := entry
    rw [addHelper]
    split
    · rename_i hpath
      simp only [List.exists_mem_cons_iff, mem_addSorted]
      grind
    · split
      · simp only [List.exists_mem_cons_iff, List.mem_singleton]
        grind
      · rw [List.exists_mem_cons_iff, ih, List.exists_mem_cons_iff, or_assoc]

/-- A noted helper is listed, and so is what was listed before. -/
theorem lists_recordHelper {registry : Registry} {path name path' name' : String} :
    (registry.recordHelper path name).Lists path' name' ↔
      registry.Lists path' name' ∨ path' = path ∧ name' = name :=
  exists_mem_addHelper

theorem Notes.lists {registry : Registry} {path name : String} (h : registry.Notes path name) :
    registry.Lists path name := by
  rw [← h.recordHelper_eq, lists_recordHelper]
  exact Or.inr ⟨rfl, rfl⟩

/-! ## Helpers in order -/

/-- Paths and helpers rise. -/
structure HelpersRise (registry : Registry) : Prop where
  paths : (registry.helpers.map Prod.fst).Pairwise (· < ·)
  names : ∀ entry ∈ registry.helpers, entry.2.Pairwise (· < ·)

/-- What is added to a rising list takes its place in it. -/
theorem pairwise_addSorted {list : List String} (h : list.Pairwise (· < ·)) (item : String) :
    (addSorted item list).Pairwise (· < ·) := by
  induction list with
  | nil => exact List.pairwise_singleton _ item
  | cons head rest ih =>
    obtain ⟨hhead, hrest⟩ := List.pairwise_cons.mp h
    rw [addSorted]
    split
    · exact h
    · rename_i hne
      split
      · rename_i hlt
        refine List.pairwise_cons.mpr ⟨List.forall_mem_cons.mpr ⟨hlt, fun other hother => ?_⟩, h⟩
        exact hlt.trans (hhead other hother)
      · rename_i hnot
        refine List.pairwise_cons.mpr ⟨fun other hother => ?_, ih hrest⟩
        rcases mem_addSorted.mp hother with hmem | rfl
        · exact hhead other hmem
        · exact lt_of_le_of_ne (not_lt.mp hnot) (Ne.symm hne)

/-- The paths that helpers are listed under are kept as the helpers of a path are. -/
theorem keys_addHelper (path name : String) (helpers : List (String × List String)) :
    (addHelper path name helpers).map Prod.fst = addSorted path (helpers.map Prod.fst) := by
  induction helpers with
  | nil => rfl
  | cons entry rest ih =>
    obtain ⟨key, names⟩ := entry
    rw [addHelper, List.map_cons, addSorted]
    split
    · rfl
    · split
      · rfl
      · rw [List.map_cons, ih]

/-- After a helper is noted, an entry is one from before, or that of the path with the helper added
to it, or it is new and has this helper alone. -/
theorem mem_addHelper {path name : String} {helpers : List (String × List String)}
    {entry : String × List String} (h : entry ∈ addHelper path name helpers) :
    entry ∈ helpers ∨ (∃ names, (path, names) ∈ helpers ∧ entry = (path, addSorted name names)) ∨
      entry = (path, [name]) := by
  induction helpers with
  | nil => exact Or.inr (Or.inr (List.mem_singleton.mp h))
  | cons first rest ih =>
    obtain ⟨key, names⟩ := first
    rw [addHelper] at h
    split at h
    · rename_i hpath
      subst hpath
      rcases List.mem_cons.mp h with rfl | hrest
      · exact Or.inr (Or.inl ⟨names, List.mem_cons_self, rfl⟩)
      · exact Or.inl (List.mem_cons_of_mem _ hrest)
    · split at h
      · rcases List.mem_cons.mp h with rfl | hold
        · exact Or.inr (Or.inr rfl)
        · exact Or.inl hold
      · rcases List.mem_cons.mp h with rfl | hrest
        · exact Or.inl List.mem_cons_self
        · rcases ih hrest with hold | ⟨names', hnames, rfl⟩ | rfl
          · exact Or.inl (List.mem_cons_of_mem _ hold)
          · exact Or.inr (Or.inl ⟨names', List.mem_cons_of_mem _ hnames, rfl⟩)
          · exact Or.inr (Or.inr rfl)

namespace HelpersRise

variable {registry after : Registry}

theorem of_empty : empty.HelpersRise := ⟨.nil, nofun⟩

theorem of_eq (h : registry.HelpersRise) (heq : after.helpers = registry.helpers) :
    after.HelpersRise := by
  refine ⟨?_, ?_⟩
  · rw [heq]
    exact h.paths
  · rw [heq]
    exact h.names

theorem recordHelper (h : registry.HelpersRise) (path name : String) :
    (registry.recordHelper path name).HelpersRise := by
  refine ⟨?_, fun entry hentry => ?_⟩
  · change ((addHelper path name registry.helpers).map Prod.fst).Pairwise (· < ·)
    rw [keys_addHelper]
    exact pairwise_addSorted h.paths path
  · rcases mem_addHelper hentry with hold | ⟨names, hnames, rfl⟩ | rfl
    · exact h.names entry hold
    · exact pairwise_addSorted (h.names _ hnames) name
    · exact List.pairwise_singleton _ name

end HelpersRise

/-! ## Helpers in use -/

/-- Whether a helper is behind a provided type in a declaration or in one of the given types. -/
def Uses (registry : Registry) (types : List TypeExpr) (backing : String) : Prop :=
  (∃ entry ∈ registry.dump.models, backing ∈ entry.2.declaration.backings) ∨
    ∃ type ∈ types, backing ∈ type.backings

instance (registry : Registry) (types : List TypeExpr) (backing : String) :
    Decidable (registry.Uses types backing) :=
  inferInstanceAs (Decidable
    ((∃ entry ∈ registry.dump.models, backing ∈ entry.2.declaration.backings) ∨
      ∃ type ∈ types, backing ∈ type.backings))

/-- What is in use stays so when declarations and types are added. -/
theorem Uses.mono {before after : Registry} {types more : List TypeExpr} {backing : String}
    (h : before.Uses types backing) (hmodels : before.models <+: after.models)
    (htypes : ∀ type ∈ types, type ∈ more) : after.Uses more backing := by
  rcases h with ⟨entry, hentry, hmem⟩ | ⟨type, htype, hmem⟩
  · exact Or.inl ⟨entry, hmodels.subset hentry, hmem⟩
  · exact Or.inr ⟨type, htypes type htype, hmem⟩

end SchemaTypes.Registry
