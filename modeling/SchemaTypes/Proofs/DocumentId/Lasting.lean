import SchemaTypes.Proofs.DocumentId.Plain
import SchemaTypes.Proofs.Url.Files

set_option autoImplicit false

/-!
# Lasting spellings

The spelling of an id is an id itself.  It lasts if it is its own spelling.  That of a URL lasts,
unless it is a file URL that is not steady; that of a plain path need not, since its escapes are
undone and what they stood for is read anew.
-/

namespace SchemaTypes

namespace DocumentId

/-- The text of a URL in normal form is its own spelling, unless it is a file URL that is not
steady. -/
theorem canonicalChars?_text_iff {url : Url} (h : url.IsNormal) :
    canonicalChars? url.text = some url.text ↔
      (Url.Kind.of url.scheme = .file → url.IsSteady) := by
  obtain ⟨again, hread⟩ := h.exists_parse
  rw [← h.reads_back_iff]
  unfold canonicalChars?
  rw [hread]
  simp

/-- The text of a URL that is read back from it, or a plain path. -/
def IsSettled (id : List Char) : Prop :=
  (∃ url : Url, url.IsNormal ∧ (Url.Kind.of url.scheme = .file → url.IsSteady) ∧ url.text = id) ∨
    IsPlain id

/-- The settled ids are those that are their own spelling. -/
theorem canonicalChars?_eq_self_iff (id : List Char) :
    canonicalChars? id = some id ↔ IsSettled id := by
  constructor
  · intro h
    cases hparse : Url.parse? id with
    | none => exact Or.inr (IsPlain.of_canonical hparse h)
    | some url =>
      have htext : url.text = id := by
        unfold canonicalChars? at h
        rwa [hparse, Option.some.injEq] at h
      have hnormal := Url.isNormal_of_parse hparse
      rw [← htext] at h
      exact Or.inl ⟨url, hnormal, (canonicalChars?_text_iff hnormal).mp h, htext⟩
  · rintro (⟨url, hnormal, hsteady, rfl⟩ | hplain)
    · exact (canonicalChars?_text_iff hnormal).mpr hsteady
    · exact hplain.canonical

/-- Whether the spelling `key` of `id` lasts. -/
def IsLasting (id key : List Char) : Prop :=
  match Url.parse? id with
  | some url => Url.Kind.of url.scheme = .file → url.IsSteady
  | none => IsSettled key

theorem canonicalChars?_again_iff {id key : List Char} (h : canonicalChars? id = some key) :
    canonicalChars? key = some key ↔ IsLasting id key := by
  unfold IsLasting
  split
  · rename_i url hparse
    have htext : url.text = key := by
      unfold canonicalChars? at h
      rwa [hparse, Option.some.injEq] at h
    subst htext
    exact canonicalChars?_text_iff (Url.isNormal_of_parse hparse)
  · exact canonicalChars?_eq_self_iff key

/-- The spelling of an id is its own spelling exactly if it lasts. -/
theorem canonical?_again_iff {id key : String} (h : canonical? id = some key) :
    canonical? key = some key ↔ IsLasting id.toList key.toList := by
  rw [canonical?_eq_some_iff]
  exact canonicalChars?_again_iff (canonical?_eq_some_iff.mp h)

end DocumentId

end SchemaTypes
