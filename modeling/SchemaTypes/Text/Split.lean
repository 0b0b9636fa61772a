set_option autoImplicit false

/-!
# Splitting texts

Splitting a text at every, at the first or at the last occurrence of a character.
-/

namespace SchemaTypes.Text

/-- The pieces of a text between the occurrences of `separator`; at least one. -/
def split (separator : Char) : List Char → List (List Char)
  | [] => [[]]
  | c :: rest =>
    if c = separator then [] :: split separator rest
    else
      match split separator rest with
      | piece :: pieces => (c :: piece) :: pieces
      | [] => [[c]]

/-- The pieces with `separator` between them. -/
def join (separator : Char) : List (List Char) → List Char
  | [] => []
  | [piece] => piece
  | piece :: next :: rest => piece ++ separator :: join separator (next :: rest)

/-- What stands before and after the first occurrence of `separator`. -/
def splitFirst? (separator : Char) : List Char → Option (List Char × List Char)
  | [] => none
  | c :: rest =>
    if c = separator then some ([], rest)
    else (splitFirst? separator rest).map fun (before, after) => (c :: before, after)

/-- What stands before and after the last occurrence of `separator`. -/
def splitLast? (separator : Char) : List Char → Option (List Char × List Char)
  | [] => none
  | c :: rest =>
    match splitLast? separator rest with
    | some (before, after) => some (c :: before, after)
    | none => if c = separator then some ([], rest) else none

/-- The text without the leading characters for which `p` holds. -/
def trimStart (p : Char → Bool) (text : List Char) : List Char := text.dropWhile p

/-- The text without the final characters for which `p` holds. -/
def trimEnd (p : Char → Bool) (text : List Char) : List Char :=
  (text.reverse.dropWhile p).reverse

/-- The text without leading and final characters for which `p` holds. -/
def trim (p : Char → Bool) (text : List Char) : List Char := trimEnd p (trimStart p text)

/-- Replaces every occurrence of the characters `a` and `b` in a row, from the left. -/
def replacePair (a b image : Char) : List Char → List Char
  | x :: y :: rest =>
    if x = a && y = b then image :: replacePair a b image rest
    else x :: replacePair a b image (y :: rest)
  | text => text

theorem split_ne_nil (separator : Char) (text : List Char) : split separator text ≠ [] := by
  cases text with
  | nil => simp [split]
  | cons c rest =>
    simp only [split]
    split
    · simp
    · split <;> simp

/-- The pieces hold no separator. -/
theorem not_mem_of_mem_split (separator : Char) (text piece : List Char)
    (h : piece ∈ split separator text) : separator ∉ piece := by
  induction text generalizing piece with
  | nil => simp_all [split]
  | cons c rest ih =>
    simp only [split] at h
    split at h
    · rcases List.mem_cons.1 h with rfl | h
      · simp
      · exact ih piece h
    · next hc =>
      split at h
      · next first more hs =>
        rcases List.mem_cons.1 h with rfl | h
        · have := ih first (by simp [hs])
          simp [this, Ne.symm hc]
        · exact ih piece (by simp [hs, h])
      · next hs => exact absurd hs (split_ne_nil separator rest)

theorem replacePair_cons_of_ne {a b image x : Char} (h : x ≠ a) (rest : List Char) :
    replacePair a b image (x :: rest) = x :: replacePair a b image rest := by
  cases rest with
  | nil => rfl
  | cons y rest =>
    rw [replacePair, if_neg]
    simp [h]

theorem replacePair_pair (a b image : Char) (rest : List Char) :
    replacePair a b image (a :: b :: rest) = image :: replacePair a b image rest := by
  simp [replacePair]

theorem replacePair_cons_cons_of_ne {a b image y : Char} (h : y ≠ b) (rest : List Char) :
    replacePair a b image (a :: y :: rest) = a :: replacePair a b image (y :: rest) := by
  simp [replacePair, h]

end SchemaTypes.Text
