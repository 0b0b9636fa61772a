import SchemaTypes.Proofs.DocumentId.Lasting
import SchemaTypes.Session

set_option autoImplicit false

/-!
# Keys that are used again

The id that a document was registered under is read like any other when it is used to name the
document: as the root of a session, or to register another document.  It names the same document
exactly if it is a spelling that lasts.
-/

namespace SchemaTypes

namespace Store

/-- A document with a new id is found under it, and every other one as before. -/
theorem get?_place {key : String} {documents : List (String × Json)}
    (h : OrderedMap.get? documents key = none) (document : Json) (other : String) :
    OrderedMap.get? (place key document documents) other =
      if key = other then some document else OrderedMap.get? documents other := by
  induction documents with
  | nil => rfl
  | cons entry rest ih =>
    obtain ⟨first, value⟩ := entry
    rw [OrderedMap.get?_cons] at h
    split at h
    · cases h
    · rename_i hne
      rw [place]
      split
      · rfl
      · rw [OrderedMap.get?_cons, OrderedMap.get?_cons, ih h]
        split
        · rename_i heq
          subst heq
          rw [if_neg (Ne.symm hne)]
        · rfl

section Inserted

variable {store after : Store} {id key : String} {document : Json}
  (h : store.insert id document = .ok (key, after))

include h

/-- A document is registered under the one spelling of its id, where it is found from then on. -/
theorem of_insert : DocumentId.canonical? id = some key ∧ after.get? key = some document := by
  unfold insert at h
  split at h
  · cases h
  · rename_i spelling hspelling
    split at h
    · cases h
    · rename_i hnew
      cases h
      refine ⟨hspelling, ?_⟩
      have hnone : OrderedMap.get? store.documents key = none :=
        Option.not_isSome_iff_eq_none.mp hnew
      exact (get?_place hnone document key).trans (if_pos rfl)

theorem contains_of_insert : after.contains key = true := by
  unfold contains
  rw [(of_insert h).2]
  rfl

/-- Another document is turned away from a key that is taken exactly if it is its own spelling. -/
theorem insert_again_iff (other : Json) :
    after.insert key other = .error (.duplicateDocument key) ↔
      DocumentId.canonical? key = some key := by
  have hcontains := contains_of_insert h
  unfold insert
  constructor
  · intro hagain
    split at hagain
    · cases hagain
    · rename_i spelling hspelling
      split at hagain
      · cases hagain
        exact hspelling
      · cases hagain
  · intro hspelling
    simp only [hspelling, hcontains, if_true]

/-- A session is rooted at a key that is taken exactly if it is its own spelling. -/
theorem start_iff (config : Config) :
    (∃ session, Session.start after key config = .ok session ∧ session.root = key) ↔
      DocumentId.canonical? key = some key := by
  have hcontains := contains_of_insert h
  unfold Session.start
  constructor
  · rintro ⟨session, hstart, hroot⟩
    split at hstart
    · cases hstart
    · rename_i spelling hspelling
      split at hstart
      · cases hstart
        exact hroot ▸ hspelling
      · cases hstart
  · intro hspelling
    simp only [hspelling, hcontains, if_true]
    exact ⟨_, rfl, rfl⟩

end Inserted

/-- The key of a document names it again, as the root of a session and when it is registered a
second time, exactly if it is a spelling that lasts. -/
theorem key_names_again_iff {store after : Store} {id key : String} {document : Json}
    (h : store.insert id document = .ok (key, after)) :
    (DocumentId.canonical? key = some key ↔ DocumentId.IsLasting id.toList key.toList) ∧
    (∀ config, (∃ session, Session.start after key config = .ok session ∧ session.root = key) ↔
      DocumentId.IsLasting id.toList key.toList) ∧
    (∀ other, after.insert key other = .error (.duplicateDocument key) ↔
      DocumentId.IsLasting id.toList key.toList) := by
  have hlasting := DocumentId.canonical?_again_iff (of_insert h).1
  exact ⟨hlasting, fun config => (start_iff h config).trans hlasting,
    fun other => (insert_again_iff h other).trans hlasting⟩

/-- A dot segment is folded and a blank is unescaped in a key, which then stays as it is. -/
theorem key_names_again_unescaped :
    empty.insert "./a%20b.json" .null = .ok ("a b.json", ⟨[("a b.json", .null)]⟩) ∧
      DocumentId.canonical? "a b.json" = some "a b.json" := by
  have hkey : DocumentId.canonical? "./a%20b.json" = some "a b.json" := by decide +kernel
  have hinsert : empty.insert "./a%20b.json" .null =
      .ok ("a b.json", ⟨[("a b.json", .null)]⟩) := by
    unfold insert
    simp only [hkey]
    rfl
  have hplain : DocumentId.IsPlain "a b.json".toList := {
    whole := by decide +kernel
    undotted := by decide +kernel
    unhosted := by decide +kernel
    trimmed := by decide +kernel
    stripped := by decide +kernel
    slashed := by decide +kernel
    schemeless := by decide +kernel
    unescaped := by decide +kernel }
  have hlasting : DocumentId.IsLasting "./a%20b.json".toList "a b.json".toList := by
    have hparse : Url.parse? "./a%20b.json".toList = none := by decide +kernel
    unfold DocumentId.IsLasting
    rw [hparse]
    exact Or.inr hplain
  exact ⟨hinsert, (key_names_again_iff hinsert).1.mpr hlasting⟩

/-- Escapes are undone in a key, and once more when it is used again. -/
theorem keys_need_not_name_again : ¬ ∀ (store after : Store) (id key : String) (document : Json),
    store.insert id document = .ok (key, after) → DocumentId.canonical? key = some key := by
  have hkey : DocumentId.canonical? "a%2525.json" = some "a%25.json" := by decide +kernel
  have hagain : DocumentId.canonical? "a%25.json" = some "a%.json" := by decide +kernel
  have hinsert : empty.insert "a%2525.json" .null =
      .ok ("a%25.json", ⟨[("a%25.json", .null)]⟩) := by
    unfold insert
    simp only [hkey]
    rfl
  intro hall
  have hfixed := hall _ _ _ _ _ hinsert
  rw [hagain] at hfixed
  exact absurd hfixed (by decide)

end Store

end SchemaTypes
