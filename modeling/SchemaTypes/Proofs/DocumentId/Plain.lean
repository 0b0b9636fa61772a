import SchemaTypes.Proofs.Url.Escapes
import SchemaTypes.Proofs.Url.Relative

set_option autoImplicit false

/-!
# Plain ids

A plain id is a path on a fixed host.  Reading it drops blanks, query and fragment, folds dot pieces
and undoes escapes, and each of these makes it shorter.  So an id is its own spelling exactly if
there is nothing to drop, to fold or to undo.
-/

namespace SchemaTypes

namespace DocumentId

theorem canonical?_eq_some_iff {id key : String} :
    canonical? id = some key ↔ canonicalChars? id.toList = some key.toList := by
  unfold canonical?
  constructor
  · intro h
    obtain ⟨chars, hchars, rfl⟩ := Option.map_eq_some_iff.mp h
    rw [hchars, String.toList_ofList]
  · intro h
    rw [h, Option.map_some, String.ofList_toList]

/-- An id that is read as a path as it stands. -/
structure IsPlain (id : List Char) : Prop extends Url.IsTidy id where
  trimmed : Url.trim id = id
  stripped : Url.strip id = id
  slashed : Url.withSlashes .special id = id
  schemeless : Url.splitScheme? id = none
  unescaped : Percent.decode id = id

/-- The plain path of a URL is read off the text of its path before that was escaped. -/
theorem plainPath_of_encode {url : Url} {raw : List Char}
    (h : url.path.text = Percent.encode Url.pathSet ('/' :: raw)) (absolute : Bool) :
    plainPath absolute url =
      if absolute then '/' :: Percent.decode raw
      else Text.trimStart (· = '/') (Percent.decode raw) := by
  unfold plainPath
  rw [h, Percent.decode_encode_of_keepsEscapes Url.isPartSet_pathSet.toKeepsEscapes,
    Percent.decode_cons_of_ne (by decide)]
  cases absolute <;> rfl

theorem isAbsolutePath_cons (c : Char) (rest : List Char) :
    isAbsolutePath (c :: rest) = decide (c = '/') := by
  simp [isAbsolutePath]

theorem dropSlash_slash (rest : List Char) : Url.dropSlash .special ('/' :: rest) = rest := rfl

theorem withSlashes_slash (rest : List Char) :
    Url.withSlashes .special ('/' :: rest) = '/' :: Url.withSlashes .special rest := rfl

/-- Blanks and ignored characters are not dropped before a leading slash. -/
theorem exists_strip_of_isAbsolutePath {id : List Char} (h : isAbsolutePath id = true) :
    ∃ rest, Url.strip (Url.trim id) = '/' :: rest := by
  obtain ⟨rest, rfl⟩ := List.head?_eq_some_iff.mp (of_decide_eq_true h)
  have htrim : Url.trim ('/' :: rest) = '/' :: Text.trimEnd (fun c => c.toNat ≤ 0x20) rest :=
    Url.trimEnd_cons (by decide) rest
  exact ⟨_, by rw [htrim]; rfl⟩

theorem trimStart_slash {id : List Char} (h : isAbsolutePath id = false) :
    Text.trimStart (· = '/') id = id := by
  cases id with
  | nil => rfl
  | cons c rest =>
    rw [isAbsolutePath_cons, decide_eq_false_iff_not] at h
    exact List.dropWhile_cons_of_neg (by simpa using h)

/-- Every step from an id to its spelling makes it shorter or changes nothing, so none of them
changes an id that is its own spelling. -/
theorem exists_raw_of_canonical {id : List Char} (hparse : Url.parse? id = none)
    (h : canonicalChars? id = some id) : ∃ raw,
    (if isAbsolutePath id then '/' :: raw else Text.trimStart (· = '/') raw) = id ∧
      Percent.decode raw = raw ∧ raw = Url.withSlashes .special (Url.dropSlash .special id) ∧
      Url.trim id = id ∧ Url.strip id = id ∧ Url.IsTidy id ∧ Url.splitScheme? id = none := by
  unfold canonicalChars? at h
  rw [hparse] at h
  obtain ⟨url, hurl, hpath⟩ := Option.map_eq_some_iff.mp h
  obtain ⟨raw, hraw, hkept⟩ := Url.exists_path_of_join hparse hurl
  rw [plainPath_of_encode hraw] at hpath
  have hstrip := Url.strip_sublist (Url.trim id)
  have htrim := Url.trim_sublist id
  have hdecode := Percent.length_decode_le raw
  have hlength : raw.length ≤ (Url.dropSlash .special (Url.strip (Url.trim id))).length := by
    rcases hkept with ⟨rfl, -⟩ | hlt
    · exact Nat.le_of_eq (Url.length_withSlashes _ _)
    · exact Nat.le_of_lt hlt
  have hsame : (Url.strip (Url.trim id)).length = id.length ∧
      (Url.dropSlash .special (Url.strip (Url.trim id))).length ≤ (Percent.decode raw).length := by
    have hle := (hstrip.trans htrim).length_le
    have hid := congrArg List.length hpath
    cases habs : isAbsolutePath id with
    | true =>
      obtain ⟨rest, hrest⟩ := exists_strip_of_isAbsolutePath habs
      rw [hrest, dropSlash_slash] at hlength ⊢
      rw [hrest] at hle
      rw [habs, if_pos rfl, List.length_cons] at hid
      rw [List.length_cons] at hle ⊢
      omega
    | false =>
      have hdrop := (Url.dropSlash_sublist .special (Url.strip (Url.trim id))).length_le
      have hstart := (Url.trimStart_sublist (· = '/') (Percent.decode raw)).length_le
      rw [habs, if_neg Bool.false_ne_true] at hid
      omega
  have hread : Url.strip (Url.trim id) = id := (hstrip.trans htrim).eq_of_length hsame.1
  have htrimmed : Url.trim id = id :=
    htrim.eq_of_length (Nat.le_antisymm htrim.length_le (hsame.1 ▸ hstrip.length_le))
  obtain ⟨hslashes, htidy, hscheme⟩ := hkept.resolve_right (by omega)
  have hunescaped : Percent.decode raw = raw :=
    (Percent.decode_eq_or_length_lt raw).resolve_right (by omega)
  rw [hread] at hslashes htidy
  rw [htrimmed] at hread hscheme
  rw [hunescaped] at hpath
  exact ⟨raw, hpath, hunescaped, hslashes, htrimmed, hread, htidy, hscheme⟩

/-- An id that is its own spelling without being a URL is a plain path. -/
theorem IsPlain.of_canonical {id : List Char} (hparse : Url.parse? id = none)
    (h : canonicalChars? id = some id) : IsPlain id := by
  obtain ⟨raw, hpath, hunescaped, hslashes, htrimmed, hstripped, htidy, hscheme⟩ :=
    exists_raw_of_canonical hparse h
  cases habs : isAbsolutePath id with
  | true =>
    rw [habs, if_pos rfl] at hpath
    subst hpath
    refine ⟨htidy, htrimmed, hstripped, ?_, hscheme, ?_⟩
    · rw [withSlashes_slash, ← dropSlash_slash raw, ← hslashes, dropSlash_slash]
    · rw [Percent.decode_cons_of_ne (by decide), hunescaped]
  | false =>
    rw [habs, if_neg Bool.false_ne_true] at hpath
    have hdrop := Url.dropSlash_sublist .special id
    have hlength : raw.length = (Url.dropSlash .special id).length := by
      rw [hslashes, Url.length_withSlashes]
    have hstart := Url.trimStart_sublist (· = '/') raw
    rw [hpath] at hstart
    have hraw : id = raw := hstart.eq_of_length
      (Nat.le_antisymm hstart.length_le (hlength ▸ hdrop.length_le))
    have hwhole : Url.dropSlash .special id = id := hdrop.eq_of_length (by rw [← hlength, ← hraw])
    rw [hwhole, ← hraw] at hslashes
    rw [← hraw] at hunescaped
    exact ⟨htidy, htrimmed, hstripped, hslashes.symm, hscheme, hunescaped⟩

theorem dropSlash_of_slashed {id : List Char} (habs : isAbsolutePath id = false)
    (hclean : ∀ c ∈ id, Url.isIgnored c = false) (h : Url.withSlashes .special id = id) :
    Url.dropSlash .special id = id := by
  cases id with
  | nil => rfl
  | cons c rest =>
    rw [Url.dropSlash_cons (hclean c (List.mem_cons_self ..)), if_neg]
    intro hslash
    rw [isAbsolutePath_cons, decide_eq_false_iff_not] at habs
    simp only [Url.withSlashes, List.map_cons, hslash, if_true, List.cons.injEq] at h
    exact habs h.1.symm

/-- A plain path is its own spelling. -/
theorem IsPlain.canonical {id : List Char} (h : IsPlain id) : canonicalChars? id = some id := by
  have hclean : ∀ c ∈ id, Url.isIgnored c = false := by
    rw [← h.stripped]
    exact fun _ => Url.not_ignored_of_mem_strip
  obtain ⟨url, hurl, hraw⟩ := Url.readRelative_of_tidy hclean h.toIsTidy
  have hparse : Url.parse? id = none := by
    unfold Url.parse?
    rw [h.trimmed, h.schemeless]
  have hjoin : Url.join? root id = some url := by
    unfold Url.join?
    rw [h.trimmed, h.schemeless]
    have hhead : id.head? ≠ some '#' := fun hhead =>
      h.whole.1 (List.mem_of_mem_head? hhead)
    simp only [Url.readWithoutScheme?, h.stripped]
    rw [if_neg hhead, if_neg (by decide), if_neg (by decide)]
    exact hurl
  have hpath : plainPath (isAbsolutePath id) url = id := by
    rw [plainPath_of_encode hraw]
    cases habs : isAbsolutePath id with
    | true =>
      obtain ⟨rest, rfl⟩ := List.head?_eq_some_iff.mp (of_decide_eq_true habs)
      have hslashed := h.slashed
      have hunescaped := h.unescaped
      rw [withSlashes_slash, List.cons.injEq] at hslashed
      rw [Percent.decode_cons_of_ne (by decide), List.cons.injEq] at hunescaped
      rw [dropSlash_slash, hslashed.2, hunescaped.2, if_pos rfl]
    | false =>
      rw [dropSlash_of_slashed habs hclean h.slashed, h.slashed, h.unescaped,
        if_neg Bool.false_ne_true, trimStart_slash habs]
  unfold canonicalChars? ofPath?
  rw [hparse, hjoin]
  exact congrArg some hpath

end DocumentId

end SchemaTypes
