import Mathlib.Data.List.Forall2
import SchemaTypes.Proofs.OrderedMap
import SchemaTypes.Registry

set_option autoImplicit false

/-!
# Open references

While one reference is read, those that were open before stay open, in the same order and under the
same policies; at most one of them gets its name fixed, and a fixed name stays.  `StillOpen` relates
two tables of open references of which the later one is like that.
-/

namespace SchemaTypes

namespace Pending

/-- The same open reference later on, when its name may have been fixed. -/
structure Becomes (before after : String × Pending) : Prop where
  key : after.1 = before.1
  policy : after.2.policy = before.2.policy
  reserved : ∀ name, before.2.reserved = some name → after.2.reserved = some name

theorem Becomes.refl (entry : String × Pending) : Becomes entry entry :=
  ⟨rfl, rfl, fun _ h => h⟩

theorem Becomes.trans {before middle after : String × Pending} (first : Becomes before middle)
    (second : Becomes middle after) : Becomes before after :=
  ⟨second.key.trans first.key, second.policy.trans first.policy,
    fun name h => second.reserved name (first.reserved name h)⟩

end Pending

/-- The same open references, with the names fixed before and perhaps others. -/
def StillOpen (before after : OrderedMap String Pending) : Prop :=
  List.Forall₂ Pending.Becomes before after

namespace StillOpen

variable {before middle after : OrderedMap String Pending}

theorem refl (table : OrderedMap String Pending) : StillOpen table table :=
  List.forall₂_same.mpr fun entry _ => .refl entry

theorem trans (first : StillOpen before middle) (second : StillOpen middle after) :
    StillOpen before after := by
  unfold StillOpen at *
  induction first generalizing after with
  | nil => exact second
  | cons hentry _ ih =>
    cases second with
    | cons hnext hrest => exact .cons (hentry.trans hnext) (ih hrest)

/-- Nothing is open later if nothing was open before. -/
theorem eq_nil (h : StillOpen [] after) : after = [] := List.forall₂_nil_left_iff.mp h

theorem keys_eq (h : StillOpen before after) : after.keys = before.keys := by
  unfold StillOpen at h
  induction h with
  | nil => rfl
  | cons hentry _ ih =>
    simp only [OrderedMap.keys, List.map_cons] at ih ⊢
    rw [hentry.key, ih]

theorem get?_none (h : StillOpen before after) {key : String} (hnone : before.get? key = none) :
    after.get? key = none := by
  rw [OrderedMap.get?_eq_none_iff] at hnone ⊢
  rw [h.keys_eq]
  exact hnone

/-- An open reference is found again, with its policy and its name. -/
theorem get?_some (h : StillOpen before after) {key : String} {entry : Pending}
    (hsome : before.get? key = some entry) :
    ∃ later, after.get? key = some later ∧ Pending.Becomes (key, entry) (key, later) := by
  unfold StillOpen at h
  induction h with
  | nil => simp at hsome
  | @cons first later _ _ hentry _ ih =>
    obtain ⟨k, old⟩ := first
    obtain ⟨k', new⟩ := later
    obtain rfl : k' = k := hentry.key
    rw [OrderedMap.get?_cons] at hsome ⊢
    by_cases hk : k' = key
    · rw [if_pos hk] at hsome ⊢
      cases hsome
      subst hk
      exact ⟨new, rfl, hentry⟩
    · rw [if_neg hk] at hsome ⊢
      exact ih hsome

/-- Fixing the name of an open reference. -/
theorem insert_reserved {table : OrderedMap String Pending} {key : String} {policy : NamingPolicy}
    (hopen : table.get? key = some ⟨policy, none⟩) (name : ModelName) :
    StillOpen table (table.insert key ⟨policy, some name⟩) := by
  induction table with
  | nil => simp at hopen
  | cons entry rest ih =>
    obtain ⟨k, old⟩ := entry
    rw [OrderedMap.get?_cons] at hopen
    by_cases hk : k = key
    · rw [if_pos hk] at hopen
      cases hopen
      simp only [OrderedMap.insert, if_pos hk]
      exact .cons ⟨rfl, rfl, fun _ h => by cases h⟩ (refl rest)
    · rw [if_neg hk] at hopen
      simp only [OrderedMap.insert, if_neg hk]
      exact .cons (.refl _) (ih hopen)

/-- The reference that was opened last is still the last one. -/
theorem of_append {key : String} {entry : Pending}
    (h : StillOpen (before ++ [(key, entry)]) after) :
    ∃ outer later, after = outer ++ [(key, later)] ∧ StillOpen before outer ∧
      Pending.Becomes (key, entry) (key, later) := by
  unfold StillOpen at h
  induction before generalizing after with
  | nil =>
    cases h with
    | @cons _ last _ _ hlast hrest =>
      obtain ⟨k, later⟩ := last
      obtain rfl : k = key := hlast.key
      obtain rfl := List.forall₂_nil_left_iff.mp hrest
      exact ⟨[], later, rfl, .nil, hlast⟩
  | cons first rest ih =>
    cases h with
    | @cons _ next _ _ hfirst hrest =>
      obtain ⟨outer, later, rfl, houter, hlast⟩ := ih hrest
      exact ⟨next :: outer, later, rfl, .cons hfirst houter, hlast⟩

/-- Closing the reference that was opened last leaves the others open. -/
theorem erase_last {key : String} {entry : Pending} (hnew : before.get? key = none)
    (h : StillOpen (before ++ [(key, entry)]) after) : StillOpen before (after.erase key) := by
  obtain ⟨outer, later, rfl, houter, -⟩ := h.of_append
  rw [OrderedMap.erase_append_singleton (houter.get?_none hnew)]
  exact houter

/-- Forgetting what was opened since leaves the others open. -/
theorem take_length {added : OrderedMap String Pending} (h : StillOpen (before ++ added) after) :
    StillOpen before (after.take before.length) := by
  have htake := List.forall₂_take before.length h
  rwa [List.take_left] at htake

end StillOpen

/-! ## Names fixed in between -/

/-- An open reference without a name was given one in between. -/
structure Fixes (before after : OrderedMap String Pending) (key : String) (name : ModelName) :
    Prop where
  opened : ∃ policy, before.get? key = some ⟨policy, none⟩
  named : ∃ entry, after.get? key = some entry ∧ entry.reserved = some name

namespace Fixes

variable {before middle after : OrderedMap String Pending} {key : String} {name : ModelName}

theorem irrefl : ¬ Fixes before before key name := by
  rintro ⟨⟨policy, hopen⟩, entry, hentry, hreserved⟩
  rw [hopen] at hentry
  cases hentry
  cases hreserved

/-- Fixing one name fixes no other. -/
theorem of_insert {own : ModelName} {policy : NamingPolicy} {other : String}
    (h : Fixes before (before.insert key ⟨policy, some own⟩) other name) : name = own := by
  obtain ⟨⟨chosen, hopen⟩, entry, hentry, hreserved⟩ := h
  rw [OrderedMap.get?_insert] at hentry
  by_cases hkey : key = other
  · rw [if_pos hkey] at hentry
    cases hentry
    exact (Option.some.inj hreserved).symm
  · rw [if_neg hkey, hopen] at hentry
    cases hentry
    cases hreserved

/-- A name that was fixed in two steps was fixed in one of them. -/
theorem split (h : Fixes before after key name) (first : StillOpen before middle)
    (second : StillOpen middle after) :
    Fixes before middle key name ∨ Fixes middle after key name := by
  obtain ⟨⟨policy, hopen⟩, entry, hentry, hreserved⟩ := h
  obtain ⟨between, hbetween, -⟩ := first.get?_some hopen
  obtain ⟨later, hlater, hbecomes⟩ := second.get?_some hbetween
  obtain rfl : later = entry := Option.some.inj (hlater.symm.trans hentry)
  obtain ⟨chosen, fixed⟩ := between
  cases fixed with
  | none => exact Or.inr ⟨⟨chosen, hbetween⟩, later, hlater, hreserved⟩
  | some other =>
    have hsame : later.reserved = some other := hbecomes.reserved other rfl
    rw [hreserved] at hsame
    cases hsame
    exact Or.inl ⟨⟨policy, hopen⟩, ⟨chosen, some name⟩, hbetween, rfl⟩

end Fixes

end SchemaTypes
