import SchemaTypes.Text.Split

set_option autoImplicit false

/-!
# What splitting finds

A text that was put together around a separator is taken apart again: at the first occurrence if
the separator does not stand before it, and at every one if the pieces are free of it.
-/

namespace SchemaTypes.Text

variable {separator : Char} {before text first : List Char} {pieces : List (List Char)}

theorem splitFirst?_append_cons (h : separator ∉ before) (after : List Char) :
    splitFirst? separator (before ++ separator :: after) = some (before, after) := by
  induction before with
  | nil => simp [splitFirst?]
  | cons c rest ih =>
    have hc : c ≠ separator := Ne.symm (List.ne_of_not_mem_cons h)
    rw [List.cons_append, splitFirst?, if_neg hc, ih (List.not_mem_of_not_mem_cons h)]
    rfl

theorem splitFirst?_eq_none (h : separator ∉ text) : splitFirst? separator text = none := by
  induction text with
  | nil => rfl
  | cons c rest ih =>
    have hc : c ≠ separator := Ne.symm (List.ne_of_not_mem_cons h)
    rw [splitFirst?, if_neg hc, ih (List.not_mem_of_not_mem_cons h)]
    rfl

/-- Where a text is split, it is put together again around the separator. -/
theorem eq_of_splitFirst? {after : List Char}
    (h : splitFirst? separator text = some (before, after)) :
    text = before ++ separator :: after ∧ separator ∉ before := by
  induction text generalizing before with
  | nil => cases h
  | cons c rest ih =>
    rw [splitFirst?] at h
    split at h
    · rename_i hc
      cases h
      exact ⟨by rw [hc]; rfl, List.not_mem_nil⟩
    · rename_i hc
      obtain ⟨⟨first, second⟩, hrest, heq⟩ := Option.map_eq_some_iff.mp h
      cases heq
      obtain ⟨hjoin, hnot⟩ := ih hrest
      exact ⟨by rw [hjoin]; rfl, List.not_mem_cons_of_ne_of_not_mem (Ne.symm hc) hnot⟩

theorem not_mem_of_splitFirst? (h : splitFirst? separator text = none) : separator ∉ text := by
  induction text with
  | nil => exact List.not_mem_nil
  | cons c rest ih =>
    rw [splitFirst?] at h
    split at h
    · cases h
    · rename_i hc
      exact List.not_mem_cons_of_ne_of_not_mem (Ne.symm hc) (ih (Option.map_eq_none_iff.mp h))

theorem splitLast?_eq_none (h : separator ∉ text) : splitLast? separator text = none := by
  induction text with
  | nil => rfl
  | cons c rest ih =>
    rw [splitLast?, ih (List.not_mem_of_not_mem_cons h)]
    exact if_neg (Ne.symm (List.ne_of_not_mem_cons h))

theorem splitLast?_append_cons {after : List Char} (h : separator ∉ after) (before : List Char) :
    splitLast? separator (before ++ separator :: after) = some (before, after) := by
  induction before with
  | nil =>
    rw [List.nil_append, splitLast?, splitLast?_eq_none h]
    exact if_pos rfl
  | cons c rest ih =>
    rw [List.cons_append, splitLast?, ih]

theorem not_mem_of_splitLast? (h : splitLast? separator text = none) : separator ∉ text := by
  induction text with
  | nil => exact List.not_mem_nil
  | cons c rest ih =>
    rw [splitLast?] at h
    split at h
    · cases h
    · rename_i hrest
      split at h
      · cases h
      · rename_i hc
        exact List.not_mem_cons_of_ne_of_not_mem (Ne.symm hc) (ih hrest)

/-- What stands after the last separator is the end of the text, and free of the separator. -/
theorem eq_of_splitLast? {after : List Char}
    (h : splitLast? separator text = some (before, after)) :
    text = before ++ separator :: after ∧ separator ∉ after := by
  induction text generalizing before with
  | nil => cases h
  | cons c rest ih =>
    rw [splitLast?] at h
    split at h
    · rename_i first second hrest
      cases h
      obtain ⟨hjoin, hnot⟩ := ih hrest
      exact ⟨by rw [hjoin]; rfl, hnot⟩
    · rename_i hnone
      split at h
      · rename_i hc
        cases h
        exact ⟨by rw [hc]; rfl, not_mem_of_splitLast? hnone⟩
      · cases h

/-- A piece without the separator is split off where what follows it starts with the separator, or
is nothing. -/
theorem split_append (h : separator ∉ first) {rest : List Char} {pieces : List (List Char)}
    (hrest : split separator rest = [] :: pieces) :
    split separator (first ++ rest) = first :: pieces := by
  induction first with
  | nil => exact hrest
  | cons c first ih =>
    have hc : c ≠ separator := Ne.symm (List.ne_of_not_mem_cons h)
    rw [List.cons_append, split, if_neg hc, ih (List.not_mem_of_not_mem_cons h)]

/-- Pieces that are free of the separator are found again. -/
theorem split_append_flatMap (hfirst : separator ∉ first)
    (hpieces : ∀ piece ∈ pieces, separator ∉ piece) :
    split separator (first ++ pieces.flatMap (separator :: ·)) = first :: pieces := by
  refine split_append hfirst ?_
  induction pieces with
  | nil => rfl
  | cons next rest ih =>
    obtain ⟨hnext, hrest⟩ := List.forall_mem_cons.mp hpieces
    rw [List.flatMap_cons, List.cons_append, split, if_pos rfl, split_append hnext (ih hrest)]

/-- What is put together around a separator is split on both sides of it. -/
theorem split_append_cons (before after : List Char) :
    split separator (before ++ separator :: after) =
      split separator before ++ split separator after := by
  induction before with
  | nil => simp [split]
  | cons c rest ih =>
    rw [List.cons_append, split, split, ih]
    split
    · rfl
    · cases hrest : split separator rest with
      | nil => exact absurd hrest (split_ne_nil separator rest)
      | cons piece pieces => rfl

theorem split_of_not_mem (h : separator ∉ text) : split separator text = [text] := by
  have hnone : ∀ piece ∈ ([] : List (List Char)), separator ∉ piece := nofun
  have hsplit := split_append_flatMap h hnone
  rwa [List.flatMap_nil, List.append_nil] at hsplit

/-- Pieces that are free of the separator are found again where they were joined. -/
theorem split_join {pieces : List (List Char)} (hne : pieces ≠ [])
    (hpieces : ∀ piece ∈ pieces, separator ∉ piece) :
    split separator (join separator pieces) = pieces := by
  induction pieces with
  | nil => exact absurd rfl hne
  | cons first rest ih =>
    obtain ⟨hfirst, hrest⟩ := List.forall_mem_cons.mp hpieces
    cases rest with
    | nil => exact split_of_not_mem hfirst
    | cons next rest =>
      rw [join, split_append_cons, split_of_not_mem hfirst, ih (List.cons_ne_nil _ _) hrest,
        List.singleton_append]

/-- Characters are replaced in the pieces if the separator stays as it is. -/
theorem map_join {f : Char → Char} (hseparator : f separator = separator)
    (pieces : List (List Char)) :
    (join separator pieces).map f = join separator (pieces.map (List.map f)) := by
  induction pieces with
  | nil => rfl
  | cons first rest ih =>
    cases rest with
    | nil => rfl
    | cons next rest =>
      rw [join, List.map_append, List.map_cons, hseparator, ih]
      rfl

end SchemaTypes.Text
