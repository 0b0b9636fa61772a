import SchemaTypes.Proofs.Text.Splitting
import SchemaTypes.Url.Reading

set_option autoImplicit false

/-!
# Parts of a text

What is dropped from a text before it is read as a URL: blanks around it, characters that count as
nothing, its query and its fragment.  Each of these only takes characters away, so what is left is
shorter, or it is the text itself.
-/

namespace SchemaTypes.Url

/-! ## Blanks and ignored characters -/

theorem trimStart_sublist (p : Char → Bool) (text : List Char) :
    (Text.trimStart p text).Sublist text := List.dropWhile_sublist p

theorem trimEnd_sublist (p : Char → Bool) (text : List Char) :
    (Text.trimEnd p text).Sublist text := by
  have hreverse := (List.dropWhile_sublist p (l := text.reverse)).reverse
  rwa [List.reverse_reverse] at hreverse

theorem trimEnd_cons {p : Char → Bool} {c : Char} (h : p c = false) (rest : List Char) :
    Text.trimEnd p (c :: rest) = c :: Text.trimEnd p rest := by
  have hlast : [c].dropWhile p = [c] := List.dropWhile_cons_of_neg (by simp [h])
  unfold Text.trimEnd
  rw [List.reverse_cons, List.dropWhile_append, hlast]
  split
  · rename_i hnil
    rw [List.isEmpty_iff.mp hnil]
    rfl
  · rw [List.reverse_append]
    rfl

theorem trim_sublist (text : List Char) : (trim text).Sublist text :=
  (trimEnd_sublist _ _).trans (trimStart_sublist _ _)

theorem strip_sublist (text : List Char) : (strip text).Sublist text := List.filter_sublist

theorem strip_append (first second : List Char) :
    strip (first ++ second) = strip first ++ strip second := List.filter_append first second

theorem strip_eq_self {text : List Char} (h : ∀ c ∈ text, isIgnored c = false) :
    strip text = text := by
  unfold strip
  rw [List.filter_eq_self]
  intro c hc
  rw [h c hc]
  rfl

theorem not_ignored_of_mem_strip {text : List Char} {c : Char} (h : c ∈ strip text) :
    isIgnored c = false := by
  have hkept := (List.mem_filter.mp h).2
  simpa using hkept

theorem not_ignored_of_printable {c : Char} (h : 0x20 ≤ c.toNat) : isIgnored c = false := by
  cases hignored : isIgnored c with
  | false => rfl
  | true =>
    simp only [isIgnored, Bool.or_eq_true, decide_eq_true_eq] at hignored
    rcases hignored with (rfl | rfl) | rfl <;> exact absurd h (by decide)

/-! ## Query and fragment -/

section Tail

variable {body : List Char} {query : Option (List Char)}

/-- Escaped in the queries of a kind of URL. -/
def querySetOf (kind : Kind) : Percent.Set :=
  if kind = .general then querySet else specialQuerySet

/-- A text that was put together from its parts is taken apart into them. -/
theorem splitTail_parts (kind : Kind) (hsign : '#' ∉ body ++ partText '?' query)
    (hmark : '?' ∉ body) (fragment : Option (List Char)) :
    splitTail kind (body ++ partText '?' query ++ partText '#' fragment) =
      ⟨body, query.map fun text => Percent.encode (querySetOf kind) (strip text),
        fragment.map fun text => Percent.encode fragmentSet (strip text)⟩ := by
  have hquery : Text.splitFirst? '?' (body ++ partText '?' query) = query.map (body, ·) := by
    cases query with
    | none => rw [partText, List.append_nil, Text.splitFirst?_eq_none hmark]; rfl
    | some text => exact Text.splitFirst?_append_cons hmark text
  unfold splitTail
  cases fragment with
  | none =>
    rw [partText, List.append_nil, Text.splitFirst?_eq_none hsign]
    simp only [hquery]
    cases query with
    | none => rw [partText, List.append_nil]; rfl
    | some text => rfl
  | some text =>
    rw [partText, Text.splitFirst?_append_cons hsign]
    simp only [hquery]
    cases query with
    | none => rw [partText, List.append_nil]; rfl
    | some text => rfl

/-- Every text is put together from such parts. -/
theorem exists_parts (text : List Char) : ∃ body query fragment,
    text = body ++ partText '?' query ++ partText '#' fragment ∧
      '#' ∉ body ++ partText '?' query ∧ '?' ∉ body := by
  have hquery : ∀ before, ∃ body query, before = body ++ partText '?' query ∧ '?' ∉ body := by
    intro before
    cases h : Text.splitFirst? '?' before with
    | none => exact ⟨before, none, (List.append_nil _).symm, Text.not_mem_of_splitFirst? h⟩
    | some parts =>
      obtain ⟨hjoin, hnot⟩ := Text.eq_of_splitFirst? h
      exact ⟨parts.1, some parts.2, hjoin, hnot⟩
  cases h : Text.splitFirst? '#' text with
  | none =>
    obtain ⟨body, query, rfl, hmark⟩ := hquery text
    exact ⟨body, query, none, (List.append_nil _).symm, Text.not_mem_of_splitFirst? h, hmark⟩
  | some parts =>
    obtain ⟨before, after⟩ := parts
    obtain ⟨rfl, hsign⟩ := Text.eq_of_splitFirst? h
    obtain ⟨body, query, rfl, hmark⟩ := hquery before
    exact ⟨body, query, some after, rfl, hsign, hmark⟩

theorem splitTail_of_not_mem (kind : Kind) (hsign : '#' ∉ body) (hmark : '?' ∉ body) :
    splitTail kind body = ⟨body, none, none⟩ := by
  have hbody : '#' ∉ body ++ partText '?' none := by rwa [partText, List.append_nil]
  have hparts := splitTail_parts kind hbody hmark none
  rwa [partText, partText, List.append_nil, List.append_nil] at hparts

/-- What stands before query and fragment has no mark in it, and is the whole text if no mark
follows. -/
theorem splitTail_body (kind : Kind) (text : List Char) : ∃ more,
    text = (splitTail kind text).body ++ more ∧
      ('#' ∉ (splitTail kind text).body ∧ '?' ∉ (splitTail kind text).body) ∧
      (more = [] ∨ ∃ mark rest, more = mark :: rest ∧ (mark = '?' ∨ mark = '#')) := by
  obtain ⟨body, query, fragment, rfl, hsign, hmark⟩ := exists_parts text
  rw [splitTail_parts kind hsign hmark fragment, List.append_assoc]
  refine ⟨_, rfl, ⟨fun hmem => hsign (List.mem_append_left _ hmem), hmark⟩, ?_⟩
  cases query with
  | some query => exact Or.inr ⟨'?', _, rfl, Or.inl rfl⟩
  | none =>
    cases fragment with
    | some fragment => exact Or.inr ⟨'#', _, rfl, Or.inr rfl⟩
    | none => exact Or.inl rfl

/-- A text without query and fragment is read whole. -/
theorem splitTail_whole {kind : Kind} {text : List Char}
    (hquery : (splitTail kind text).query = none)
    (hfragment : (splitTail kind text).fragment = none) : (splitTail kind text).body = text := by
  obtain ⟨body, query, fragment, rfl, hsign, hmark⟩ := exists_parts text
  rw [splitTail_parts kind hsign hmark fragment] at hquery hfragment ⊢
  rw [Option.map_eq_none_iff.mp hquery, Option.map_eq_none_iff.mp hfragment]
  simp [partText]

end Tail

/-! ## Schemes -/

/-- A scheme stands before the first colon. -/
theorem exists_of_splitScheme? {text scheme rest : List Char}
    (h : splitScheme? text = some (scheme, rest)) : ∃ before,
    text = before ++ ':' :: rest ∧ scheme? (strip before) = some scheme := by
  unfold splitScheme? at h
  split at h
  · cases h
  · rename_i before after hsplit
    obtain ⟨scheme, hscheme, heq⟩ := Option.map_eq_some_iff.mp h
    cases heq
    exact ⟨before, (Text.eq_of_splitFirst? hsplit).1, hscheme⟩

/-- A scheme is a letter and further characters, in lower case. -/
theorem exists_of_scheme? {text scheme : List Char} (h : scheme? text = some scheme) :
    ∃ first more, text = first :: more ∧ isLetter first = true ∧ more.all isSchemeChar = true ∧
      scheme = text.map Char.toLower := by
  unfold scheme? at h
  split at h
  · cases h
  · rename_i first more
    split at h
    · rename_i hletter
      obtain ⟨hfirst, hmore⟩ := Bool.and_eq_true_iff.mp hletter
      exact ⟨first, more, rfl, hfirst, hmore, (Option.some.inj h).symm⟩
    · cases h

theorem isSlash_of_isLetter {c : Char} (h : isLetter c = true) (kind : Kind) :
    isSlash kind c = false := by
  have hslash : c ≠ '/' := by rintro rfl; cases h
  have hback : c ≠ '\\' := by rintro rfl; cases h
  simp [isSlash, hslash, hback]

end SchemaTypes.Url
