import Mathlib.Logic.Relation
import SchemaTypes.Proofs.Registry.Identifiers
import SchemaTypes.Proofs.TypeExpr.Occurrences

set_option autoImplicit false

/-!
# The order of declarations

A declaration mentions only what was declared before it, and recursive declarations.  The reason is
that a name is mentioned only once it is taken: when a declaration that was not named early gets its
name, nobody can have mentioned it.  A recursive declaration, on the other hand, is one that was
mentioned while it was read, and so its body leads back to it.
-/

namespace SchemaTypes

/-- Whether a declaration is recursive. -/
def TypeExpr.isRecursive : TypeExpr → Bool
  | recursive _ _ => true
  | _ => false

theorem TypeExpr.isRecursive_iff {t : TypeExpr} :
    t.isRecursive = true ↔ ∃ name body, t = .recursive name body := by
  constructor
  · intro h
    cases t with
    | recursive name body => exact ⟨name, body, rfl⟩
    | _ => cases h
  · rintro ⟨name, body, rfl⟩
    rfl

/-- Whether the declaration of an entry mentions a name. -/
def Model.Mentions (m : Model) (n : ModelName) : Prop := n ∈ m.declaration.identifiers

/-- No declaration mentions itself or a later one, unless that one is recursive. -/
structure DeclaredInOrder (models : OrderedMap String Model) : Prop where
  later : models.Pairwise fun entry next =>
    entry.2.Mentions next.2.modelName → next.2.declaration.isRecursive = true
  self : ∀ entry ∈ models, entry.2.Mentions entry.2.modelName →
    entry.2.declaration.isRecursive = true

theorem DeclaredInOrder.append_singleton {models : OrderedMap String Model}
    (h : DeclaredInOrder models) {entry : String × Model}
    (hold : ∀ old ∈ models, old.2.Mentions entry.2.modelName →
      entry.2.declaration.isRecursive = true)
    (hself : entry.2.Mentions entry.2.modelName → entry.2.declaration.isRecursive = true) :
    DeclaredInOrder (models ++ [entry]) := by
  refine ⟨?_, fun other hother => ?_⟩
  · refine List.pairwise_append.mpr ⟨h.later, List.pairwise_singleton _ _, ?_⟩
    intro old hmem next hnext
    rw [List.mem_singleton.mp hnext]
    exact hold old hmem
  · rcases List.mem_append.mp hother with hmem | hlast
    · exact h.self other hmem
    · rw [List.mem_singleton.mp hlast]
      exact hself

/-- What a declaration mentions stands before it or is recursive. -/
theorem DeclaredInOrder.lt_or_isRecursive {models : OrderedMap String Model}
    (h : DeclaredInOrder models) {i j : Nat} {entry next : String × Model}
    (hi : models[i]? = some entry) (hj : models[j]? = some next)
    (hmentions : entry.2.Mentions next.2.modelName) :
    j < i ∨ next.2.declaration.isRecursive = true := by
  obtain ⟨hilt, rfl⟩ := List.getElem?_eq_some_iff.mp hi
  obtain ⟨hjlt, rfl⟩ := List.getElem?_eq_some_iff.mp hj
  rcases Nat.lt_trichotomy j i with hbefore | rfl | hafter
  · exact Or.inl hbefore
  · exact Or.inr (h.self _ (List.getElem_mem hjlt) hmentions)
  · exact Or.inr (List.pairwise_iff_getElem.mp h.later i j hilt hjlt hafter hmentions)

/-- One declaration mentions another one that is not recursive. -/
structure MentionsPlain (models : OrderedMap String Model) (entry next : String × Model) :
    Prop where
  declared : entry ∈ models
  next_declared : next ∈ models
  mentions : entry.2.Mentions next.2.modelName
  plain : next.2.declaration.isRecursive = false

/-- Following identifiers to declarations that are not recursive leads backwards. -/
theorem DeclaredInOrder.lt_of_transGen {models : OrderedMap String Model}
    (h : DeclaredInOrder models) {entry last : String × Model}
    (hpath : Relation.TransGen (MentionsPlain models) entry last) {i j : Nat}
    (hi : models[i]? = some entry) (hj : models[j]? = some last) : j < i := by
  have hstep : ∀ {entry next : String × Model} {i j : Nat}, MentionsPlain models entry next →
      models[i]? = some entry → models[j]? = some next → j < i := by
    intro entry next i j hmentions hi hj
    rcases h.lt_or_isRecursive hi hj hmentions.mentions with hlt | hrecursive
    · exact hlt
    · rw [hmentions.plain] at hrecursive
      cases hrecursive
  induction hpath generalizing j with
  | single hmentions => exact hstep hmentions hi hj
  | tail _ hmentions ih =>
    obtain ⟨k, hk⟩ := List.getElem?_of_mem hmentions.declared
    have hfirst : k < i := ih hk
    have hsecond : j < k := hstep hmentions hk hj
    omega

/-- Every cycle of declarations contains a recursive one. -/
theorem DeclaredInOrder.acyclic {models : OrderedMap String Model} (h : DeclaredInOrder models)
    (entry : String × Model) : ¬ Relation.TransGen (MentionsPlain models) entry entry := by
  intro hpath
  obtain ⟨next, hnext, -⟩ := Relation.TransGen.head'_iff.mp hpath
  obtain ⟨i, hi⟩ := List.getElem?_of_mem hnext.declared
  exact Nat.lt_irrefl i (h.lt_of_transGen hpath hi hi)

/-! ## Following identifiers -/

/-- Whether an identifier is met in a type, or in a declaration that is met from there. -/
inductive Reaches (models : OrderedMap String Model) : TypeExpr → ModelName → Prop
  | mention {type : TypeExpr} {n : ModelName} (mentioned : n ∈ type.identifiers) :
      Reaches models type n
  | follow {type : TypeExpr} {entry : String × Model} {n : ModelName}
      (declared : entry ∈ models) (mentioned : entry.2.modelName ∈ type.identifiers)
      (reaches : Reaches models entry.2.declaration n) : Reaches models type n

/-- Every recursive declaration is met again when identifiers are followed from its body. -/
def Looped (models : OrderedMap String Model) : Prop :=
  ∀ entry ∈ models, ∀ name body, entry.2.declaration = .recursive name body →
    Reaches models body entry.2.modelName

section Reaches

variable {models after : OrderedMap String Model} {type other : TypeExpr} {n : ModelName}

theorem Reaches.mono (h : Reaches models type n) (hmodels : models <+: after) :
    Reaches after type n := by
  induction h with
  | mention mentioned => exact .mention mentioned
  | follow declared mentioned _ ih => exact .follow (hmodels.subset declared) mentioned ih

/-- What is met in a type is met in every type that has its identifiers. -/
theorem Reaches.of_subset (h : Reaches models type n)
    (hsubset : type.identifiers ⊆ other.identifiers) : Reaches models other n := by
  cases h with
  | mention mentioned => exact .mention (hsubset mentioned)
  | follow declared mentioned reaches => exact .follow declared (hsubset mentioned) reaches

/-- A type that is put together meets what its parts meet. -/
theorem Reaches.combines {types : List TypeExpr} (hcombines : TypeExpr.Combines types type)
    (hmem : other ∈ types) (h : Reaches models other n) : Reaches models type n :=
  h.of_subset fun _ hn => hcombines.mem_identifiers.mpr ⟨other, hmem, hn⟩

end Reaches

/-! ## Closing a reference -/

namespace Registry

variable {before after : Registry} {r : Reference} {type answer : TypeExpr}

/-- What the target of a closed reference meets, its answer meets. -/
theorem Closes.reaches (hcloses : before.Closes r type answer after) {n : ModelName}
    (h : Reaches before.models type n) : Reaches after.models answer n := by
  obtain ⟨added, hadded, -⟩ := hcloses.models_eq
  have hlater : Reaches after.models type n := h.mono (hadded ▸ List.prefix_append _ _)
  cases hcloses with
  | recursive =>
    refine .follow (List.mem_append_right _ (List.mem_singleton_self _))
      (List.mem_singleton_self _) ?_
    refine hlater.of_subset fun m hm => ?_
    rw [TypeExpr.identifiers]
    exact hm
  | declared =>
    exact .follow (List.mem_append_right _ (List.mem_singleton_self _))
      (List.mem_singleton_self _) hlater
  | inlined => exact hlater

/-- A closed reference is declared after all that its declaration mentions, and nobody has mentioned
it before; or it is recursive. -/
theorem Closes.declaredInOrder (hcloses : before.Closes r type answer after) (htidy : before.Tidy)
    (hmodels : before.models.get? r.canonical = none) (hknows : before.Knows type)
    (h : DeclaredInOrder before.models) : DeclaredInOrder after.models := by
  cases hcloses with
  | recursive => exact h.append_singleton (fun _ _ _ => rfl) fun _ => rfl
  | @declared _ name opened _ free =>
    have hnone := htidy.named.get?_of_free hmodels (by rw [opened]; rfl) free
    have hunknown : name ∉ before.names.keys := (OrderedMap.get?_eq_none_iff _ _).mp hnone
    refine h.append_singleton (fun old hold hmentions => ?_) fun hmentions => ?_
    · exact absurd (htidy.closed.declared old hold name hmentions) hunknown
    · exact absurd (hknows name hmentions) hunknown
  | inlined => exact h

/-- A closed reference that is declared recursive was met while it was read. -/
theorem Closes.looped (hcloses : before.Closes r type answer after) (hunfolded : type.Unfolded)
    (hmet : ∀ policy name, before.pending.get? r.canonical = some ⟨policy, some name⟩ →
      Reaches before.models type name)
    (h : Looped before.models) : Looped after.models := by
  obtain ⟨added, hadded, -⟩ := hcloses.models_eq
  have hprefix : before.models <+: after.models := hadded ▸ List.prefix_append _ _
  intro entry hentry name body hdeclaration
  cases hcloses with
  | recursive opened =>
    rcases List.mem_append.mp hentry with hold | hnew
    · exact (h entry hold name body hdeclaration).mono hprefix
    · obtain rfl := List.mem_singleton.mp hnew
      cases hdeclaration
      exact (hmet _ _ opened).mono hprefix
  | declared =>
    rcases List.mem_append.mp hentry with hold | hnew
    · exact (h entry hold name body hdeclaration).mono hprefix
    · obtain rfl := List.mem_singleton.mp hnew
      obtain rfl : type = .recursive name body := hdeclaration
      exact absurd (TypeExpr.mem_occurrences_self _) (hunfolded name body)
  | inlined => exact h entry hentry name body hdeclaration

end Registry

end SchemaTypes
