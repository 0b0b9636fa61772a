import SchemaTypes.Proofs.OrderedMap
import SchemaTypes.Registry

set_option autoImplicit false

/-!
# What a registry answers

A registry answers a reference by the identifier of its declaration, by its inlined type, or by the
name that it has been given while it is open.  An answer that has been handed out must stay: a later
registry keeps the answers of an earlier one, and the helpers that it has noted.
-/

namespace SchemaTypes.Registry

/-! ## Answers -/

/-- What is known of the reference with this canonical form, without reading its target and without
taking a name. -/
def answer? (registry : Registry) (key : String) : Option TypeExpr :=
  match registry.models.get? key with
  | some model => some model.identifier
  | none =>
    match registry.inlined.get? key with
    | some type => some type
    | none => ((registry.pending.get? key).bind Pending.reserved).map ModelName.identifier

section Answer

variable {registry : Registry} {key : String}

theorem answer?_of_model {model : Model} (h : registry.models.get? key = some model) :
    registry.answer? key = some model.identifier := by
  unfold answer?
  rw [h]

theorem answer?_of_inlined {type : TypeExpr} (hmodels : registry.models.get? key = none)
    (h : registry.inlined.get? key = some type) : registry.answer? key = some type := by
  unfold answer?
  rw [hmodels, h]

theorem answer?_of_pending (hmodels : registry.models.get? key = none)
    (hinlined : registry.inlined.get? key = none) :
    registry.answer? key =
      ((registry.pending.get? key).bind Pending.reserved).map ModelName.identifier := by
  unfold answer?
  rw [hmodels, hinlined]

/-- A reference without an answer is new, or it is open and has no name yet. -/
theorem answer?_eq_none_iff : registry.answer? key = none ↔
    registry.models.get? key = none ∧ registry.inlined.get? key = none ∧
      (registry.pending.get? key).bind Pending.reserved = none := by
  constructor
  · intro h
    unfold answer? at h
    split at h
    · cases h
    · split at h
      · cases h
      · rename_i hmodels _ hinlined
        exact ⟨hmodels, hinlined, Option.map_eq_none_iff.mp h⟩
  · rintro ⟨hmodels, hinlined, hpending⟩
    rw [answer?_of_pending hmodels hinlined, hpending]
    rfl

end Answer

/-! ## Noted helpers -/

/-- Whether noting a helper would change nothing. -/
def Notes (registry : Registry) (path name : String) : Prop :=
  addHelper path name registry.helpers = registry.helpers

theorem Notes.recordHelper_eq {registry : Registry} {path name : String}
    (h : registry.Notes path name) : registry.recordHelper path name = registry := by
  unfold Registry.recordHelper
  rw [h]

theorem addSorted_cons_ne {item : String} {list : List String} : item :: list ≠ list := by
  intro h
  have hlength := congrArg List.length h
  simp at hlength

/-- An item that is in its place in a rising list stays there when another one comes. -/
theorem addSorted_addSorted {item other : String} {list : List String}
    (h : addSorted item list = list) :
    addSorted item (addSorted other list) = addSorted other list := by
  induction list with
  | nil => simp [addSorted] at h
  | cons head rest ih =>
    by_cases hitem : item = head
    · subst hitem
      by_cases hother : other = item
      · simp [addSorted, hother]
      · by_cases hlt : other < item
        · simp [addSorted, hother, hlt, Ne.symm hother, String.lt_asymm hlt]
        · simp [addSorted, hother, hlt]
    · simp only [addSorted, if_neg hitem] at h
      by_cases hlt : item < head
      · rw [if_pos hlt] at h
        exact absurd h addSorted_cons_ne
      · rw [if_neg hlt, List.cons.injEq] at h
        have hrest := ih h.2
        by_cases hother : other = head
        · simp [addSorted, hother, hitem, hlt, h.2]
        · by_cases hless : other < head
          · by_cases hsame : item = other
            · simp [addSorted, hother, hless, hsame]
            · have hnot : ¬ item < other := fun hbefore =>
                hlt (String.lt_trans hbefore hless)
              simp [addSorted, hother, hless, hsame, hnot, hitem, hlt, h.2]
          · simp [addSorted, hother, hless, hitem, hlt, hrest]

/-- An item that has been put in its place is there. -/
theorem addSorted_self (item : String) (list : List String) :
    addSorted item (addSorted item list) = addSorted item list := by
  induction list with
  | nil => simp [addSorted]
  | cons head rest ih =>
    by_cases hitem : item = head
    · simp [addSorted, hitem]
    · by_cases hlt : item < head
      · simp [addSorted, hitem, hlt]
      · simp [addSorted, hitem, hlt, ih]

/-- A helper that has been noted stays noted when another one is. -/
theorem addHelper_addHelper {path name path' name' : String} {helpers : List (String × List String)}
    (h : addHelper path name helpers = helpers) :
    addHelper path name (addHelper path' name' helpers) = addHelper path' name' helpers := by
  induction helpers with
  | nil => simp [addHelper] at h
  | cons entry rest ih =>
    obtain ⟨key, names⟩ := entry
    by_cases hpath : path = key
    · subst hpath
      simp only [addHelper, if_true, List.cons.injEq, Prod.mk.injEq, true_and, and_true] at h
      by_cases hother : path' = path
      · simp [addHelper, hother, addSorted_addSorted h]
      · by_cases hlt : path' < path
        · simp [addHelper, hother, hlt, Ne.symm hother, String.lt_asymm hlt, h]
        · simp [addHelper, hother, hlt, h]
    · simp only [addHelper, if_neg hpath] at h
      by_cases hlt : path < key
      · rw [if_pos hlt] at h
        have hlength := congrArg List.length h
        simp at hlength
      · rw [if_neg hlt, List.cons.injEq] at h
        have hrest := ih h.2
        by_cases hother : path' = key
        · simp [addHelper, hother, hpath, hlt, h.2]
        · by_cases hless : path' < key
          · by_cases hsame : path = path'
            · subst hsame
              exact absurd hless hlt
            · have hnot : ¬ path < path' := fun hbefore =>
                hlt (String.lt_trans hbefore hless)
              simp [addHelper, hother, hless, hsame, hnot, hpath, hlt, h.2]
          · simp [addHelper, hother, hless, hpath, hlt, hrest]

theorem addHelper_self (path name : String) (helpers : List (String × List String)) :
    addHelper path name (addHelper path name helpers) = addHelper path name helpers := by
  induction helpers with
  | nil => simp [addHelper, addSorted]
  | cons entry rest ih =>
    obtain ⟨key, names⟩ := entry
    by_cases hpath : path = key
    · simp [addHelper, hpath, addSorted_self]
    · by_cases hlt : path < key
      · simp [addHelper, hpath, hlt, addSorted]
      · simp [addHelper, hpath, hlt, ih]

/-- A helper is noted once it has been recorded. -/
theorem notes_recordHelper (registry : Registry) (path name : String) :
    (registry.recordHelper path name).Notes path name :=
  addHelper_self path name registry.helpers

theorem Notes.recordHelper {registry : Registry} {path name : String}
    (h : registry.Notes path name) (path' name' : String) :
    (registry.recordHelper path' name').Notes path name :=
  addHelper_addHelper h

/-! ## Keeping what was answered -/

/-- The later registry gives every answer of the earlier one, and has noted its helpers. -/
structure Keeps (before after : Registry) : Prop where
  answers : ∀ key type, before.answer? key = some type → after.answer? key = some type
  helpers : ∀ path name, before.Notes path name → after.Notes path name

theorem Keeps.refl (registry : Registry) : registry.Keeps registry :=
  ⟨fun _ _ h => h, fun _ _ h => h⟩

theorem Keeps.trans {before middle after : Registry} (first : before.Keeps middle)
    (second : middle.Keeps after) : before.Keeps after :=
  ⟨fun key type h => second.answers key type (first.answers key type h),
    fun path name h => second.helpers path name (first.helpers path name h)⟩

end SchemaTypes.Registry
