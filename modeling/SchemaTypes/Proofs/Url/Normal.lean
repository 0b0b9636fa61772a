import SchemaTypes.Proofs.Url.Authorities
import SchemaTypes.Proofs.Url.Segments

set_option autoImplicit false

/-!
# URLs in normal form

Every URL that is read is in normal form: its scheme is in lower case, its authority is one that its
scheme can have, its path is made of segments that are escaped and free of slashes, and its query
and fragment are escaped.
-/

namespace SchemaTypes.Url

/-! ## Parts -/

/-- A scheme in lower case. -/
def IsScheme (scheme : List Char) : Prop := scheme? scheme = some scheme

/-- A path outside of file URLs. -/
structure IsPath (kind : Kind) (segments : List (List Char)) : Prop where
  segment : ∀ segment ∈ segments, IsSegment kind segment
  undotted : ∀ segment ∈ segments, isDotText segment = false

/-- A query and a fragment. -/
structure IsTail (kind : Kind) (query fragment : Option (List Char)) : Prop where
  query : ∀ text, query = some text → Percent.Clean (querySetOf kind) text
  fragment : ∀ text, fragment = some text → Percent.Clean fragmentSet text

/-- A text that no blank ends. -/
def EndsVisibly (text : List Char) : Prop := ∀ c ∈ text.getLast?, 0x20 < c.toNat

/-- A URL in normal form. -/
inductive IsNormal : Url → Prop
  /-- A URL with an authority that is not a file URL. -/
  | hosted {scheme : List Char} {authority : Authority} {segments : List (List Char)}
      {query fragment : Option (List Char)} (hscheme : IsScheme scheme)
      (hkind : Kind.of scheme ≠ .file) (hauthority : authority.IsOf (Kind.of scheme) scheme)
      (hpath : IsPath (Kind.of scheme) segments)
      (hroot : Kind.of scheme = .special → segments ≠ [])
      (htail : IsTail (Kind.of scheme) query fragment) :
      IsNormal ⟨scheme, some authority, .segments segments, query, fragment⟩
  /-- A URL without an authority. -/
  | rooted {scheme : List Char} {segments : List (List Char)} {query fragment : Option (List Char)}
      (hscheme : IsScheme scheme) (hkind : Kind.of scheme = .general)
      (hpath : IsPath .general segments) (hroot : segments ≠ [])
      (htail : IsTail .general query fragment) :
      IsNormal ⟨scheme, none, .segments segments, query, fragment⟩
  /-- A URL without a hierarchy. -/
  | verbatim {scheme text : List Char} {query fragment : Option (List Char)}
      (hscheme : IsScheme scheme) (hkind : Kind.of scheme = .general)
      (htext : Percent.Clean Percent.controls text) (hmarks : '#' ∉ text ∧ '?' ∉ text)
      (hstart : text.head? ≠ some '/')
      (hend : query = none → fragment = none → EndsVisibly text)
      (htail : IsTail .general query fragment) :
      IsNormal ⟨scheme, none, .verbatim text, query, fragment⟩
  /-- A file URL. -/
  | file {host : Host} {segments : List (List Char)} {query fragment : Option (List Char)}
      (hhost : host = noHost ∨ host.IsSpecial ∧ host ≠ .name "localhost".toList)
      (hpath : ∀ segment ∈ segments, IsSegment .file segment)
      (hroot : trimRoot segments = segments) (htail : IsTail .file query fragment) :
      IsNormal ⟨"file".toList, some ⟨[], host, none⟩, .segments segments, query, fragment⟩

theorem isTail_splitTail (kind : Kind) (text : List Char) :
    IsTail kind (splitTail kind text).query (splitTail kind text).fragment := by
  obtain ⟨body, query, fragment, rfl, hsign, hmark⟩ := exists_parts text
  rw [splitTail_parts kind hsign hmark fragment]
  constructor
  · intro text htext
    obtain ⟨raw, -, rfl⟩ := Option.map_eq_some_iff.mp htext
    exact Percent.clean_encode (isPartSet_querySetOf kind).toKeepsEscapes _
  · intro text htext
    obtain ⟨raw, -, rfl⟩ := Option.map_eq_some_iff.mp htext
    exact Percent.clean_encode isPartSet_fragmentSet.toKeepsEscapes _

theorem isPath_pathFrom {kind : Kind} (hkind : kind ≠ .file) (text : List Char) :
    IsPath kind (pathFrom kind [] text) where
  segment _ := isSegment_of_mem_pathFrom
  undotted _ := undotted_of_mem_pathFrom hkind

theorem isPath_rootPath {kind : Kind} (hkind : kind ≠ .file) (text : List Char) :
    IsPath kind (rootPath kind text) ∧ (kind = .special → rootPath kind text ≠ []) := by
  unfold rootPath
  split
  · rename_i hempty
    refine ⟨⟨nofun, nofun⟩, ?_⟩
    rintro rfl
    simp at hempty
  · split
    · exact ⟨isPath_pathFrom hkind _, fun _ => pathFrom_ne_nil hkind _⟩
    · exact ⟨isPath_pathFrom hkind _, fun _ => pathFrom_ne_nil hkind _⟩

theorem endsVisibly_of_visible {text : List Char} (h : ∀ c ∈ text, 0x20 < c.toNat) :
    EndsVisibly text := fun c hc => h c (List.mem_of_getLast? hc)

theorem EndsVisibly.append {more : List Char} (h : EndsVisibly more) (hne : more ≠ [])
    (text : List Char) : EndsVisibly (text ++ more) := by
  rcases List.eq_nil_or_concat more with rfl | ⟨before, last, rfl⟩
  · exact absurd rfl hne
  · intro c hc
    rw [List.concat_eq_append, ← List.append_assoc, List.getLast?_concat] at hc
    exact h c (by rwa [List.concat_eq_append, List.getLast?_concat])

/-- The last character of an escaped text is the last one of the text, or a digit. -/
theorem EndsVisibly.encode {text : List Char} (h : EndsVisibly text) (set : Percent.Set) :
    EndsVisibly (Percent.encode set text) := by
  rcases List.eq_nil_or_concat text with rfl | ⟨before, c, rfl⟩
  · exact nofun
  · rw [List.concat_eq_append] at h ⊢
    have hc : 0x20 < c.toNat := h c (by rw [List.getLast?_concat]; rfl)
    have hdigits : ∀ n < 16, 0x20 < (Hex.upperDigit n).toNat := by decide +kernel
    have hvisible : ∀ d ∈ Percent.encode set [c], 0x20 < d.toNat := by
      intro d hd
      rcases Percent.mem_encode hd with ⟨hmem, -⟩ | rfl | ⟨n, hn, rfl⟩
      · rwa [List.mem_singleton.mp hmem]
      · decide
      · exact hdigits n hn
    have hne : Percent.encode set [c] ≠ [] := by
      have hempty := Percent.isEmpty_encode set [c]
      simpa using hempty
    have happend : Percent.encode set (before ++ [c]) =
        Percent.encode set before ++ Percent.encode set [c] := List.flatMap_append
    rw [happend]
    exact (endsVisibly_of_visible hvisible).append hne _

/-! ## URLs that are read -/

/-- What is read after two slashes is in normal form. -/
theorem isNormal_of_afterSlashes {scheme text : List Char} {url : Url} (hscheme : IsScheme scheme)
    (hkind : Kind.of scheme ≠ .file)
    (h : afterSlashes? (Kind.of scheme) scheme text = some url) : url.IsNormal := by
  unfold afterSlashes? at h
  simp only at h
  split at h
  · cases h
  · rename_i authority rest hauthority
    cases h
    obtain ⟨hpath, hroot⟩ := isPath_rootPath hkind (splitTail (Kind.of scheme)
      (rest ++ text.dropWhile fun c => !endsAuthority (Kind.of scheme) c)).body
    exact .hosted hscheme hkind (readAuthority?_isOf hauthority) hpath hroot (isTail_splitTail _ _)

theorem isNormal_of_readGeneral {scheme text : List Char} {url : Url} (hscheme : IsScheme scheme)
    (hkind : Kind.of scheme = .general) (hend : EndsVisibly text)
    (h : readGeneral? scheme text = some url) : url.IsNormal := by
  have hfile : Kind.of scheme ≠ .file := by
    rw [hkind]
    nofun
  unfold readGeneral? at h
  split at h
  · rw [← hkind] at h
    exact isNormal_of_afterSlashes hscheme hfile h
  · cases h
    exact .rooted hscheme hkind (isPath_pathFrom (by nofun) _) (pathFrom_ne_nil (by nofun) _)
      (isTail_splitTail _ _)
  · rename_i hslash
    cases h
    obtain ⟨more, htext, ⟨hsign, hmark⟩, -⟩ := splitTail_body .general text
    have hdigits : ∀ n < 16, '#' ≠ Hex.upperDigit n ∧ '?' ≠ Hex.upperDigit n := by decide +kernel
    refine .verbatim hscheme hkind (Percent.clean_encode isPartSet_controls.toKeepsEscapes _)
      ⟨Percent.not_mem_encode hsign (by decide) fun n hn => (hdigits n hn).1,
        Percent.not_mem_encode hmark (by decide) fun n hn => (hdigits n hn).2⟩
      (Percent.head?_encode_ne (by decide) fun hhead => ?_) (fun hquery hfragment => ?_)
      (isTail_splitTail _ _)
    · obtain ⟨rest, hrest⟩ := List.head?_eq_some_iff.mp hhead
      rw [hrest] at htext
      exact hslash _ htext
    · rw [splitTail_whole hquery hfragment]
      exact hend.encode _

/-! ## File URLs that are read -/

theorem trimRoot_trimRoot (segments : List (List Char)) :
    trimRoot (trimRoot segments) = trimRoot segments := by
  have hhead := List.head?_dropWhile_not List.isEmpty segments
  unfold trimRoot
  cases hdrop : segments.dropWhile List.isEmpty with
  | nil => rfl
  | cons first rest =>
    rw [hdrop] at hhead
    have hfirst : first.isEmpty = false := by simpa using hhead
    simp only
    rw [List.dropWhile_cons_of_neg (by simp [hfirst])]

theorem isNormal_fileUrl {host : Host} {segments : List (List Char)} (text : List Char)
    (hhost : host = noHost ∨ host.IsSpecial ∧ host ≠ .name "localhost".toList)
    (hpath : ∀ segment ∈ segments, IsSegment .file segment) (hroot : trimRoot segments = segments) :
    (fileUrl host segments (splitTail .file text)).IsNormal :=
  .file hhost hpath hroot (isTail_splitTail _ _)

theorem isNormal_noHost (text body : List Char) :
    (fileUrl noHost (pathFrom .file [] body) (splitTail .file text)).IsNormal :=
  isNormal_fileUrl text (Or.inl rfl) (fun _ => isSegment_of_mem_pathFrom) (trimRoot_trimRoot _)

theorem isNormal_of_fileAfterSlashes {text : List Char} {url : Url}
    (h : fileAfterSlashes? text = some url) : url.IsNormal := by
  unfold fileAfterSlashes? at h
  simp only at h
  split at h
  · cases h
    exact isNormal_noHost _ _
  · split at h
    · cases h
    · rename_i host hhost
      split at h
      · cases h
        exact isNormal_noHost _ _
      · rename_i hlocal
        cases h
        refine isNormal_fileUrl _ ?_ (fun segment hsegment => ?_) (trimRoot_trimRoot _)
        · split
          · exact Or.inl rfl
          · exact Or.inr ⟨.of_read hhost, hlocal⟩
        · rcases mem_trimRoot hsegment with hmem | rfl
          · exact isSegment_of_mem_walk hmem
          · exact isSegment_nil _

theorem isNormal_of_readFile {text : List Char} {url : Url} (h : readFile? none text = some url) :
    url.IsNormal := by
  have hroot : ∀ {url}, some (readFile?.fromRoot none text) = some url → url.IsNormal := by
    rintro _ ⟨⟩
    exact isNormal_noHost _ _
  have hbase : ∀ {url}, readFile?.fromBase none text = some url → url.IsNormal := by
    rintro _ ⟨⟩
    exact isNormal_noHost _ _
  unfold readFile? at h
  split at h
  · split at h
    · split at h
      · split at h
        · exact isNormal_of_fileAfterSlashes h
        · exact hroot h
      · exact hroot h
    · exact hbase h
  · exact hbase h

/-! ## Texts that are read -/

/-- A scheme that was read is in lower case. -/
theorem isScheme_of_scheme? {text scheme : List Char} (h : scheme? text = some scheme) :
    IsScheme scheme := by
  have hletter : ∀ c, isLetter c = true → isLetter c.toLower = true := by
    intro c hc
    by_cases hascii : c.toNat < 128
    · exact Text.of_ascii (P := fun c => isLetter c = true → isLetter c.toLower = true)
        (by decide +kernel) hascii hc
    · rwa [Text.toLower_of_not_ascii hascii]
  have hchar : ∀ c, isSchemeChar c = true → isSchemeChar c.toLower = true := by
    intro c hc
    by_cases hascii : c.toNat < 128
    · exact Text.of_ascii (P := fun c => isSchemeChar c = true → isSchemeChar c.toLower = true)
        (by decide +kernel) hascii hc
    · rwa [Text.toLower_of_not_ascii hascii]
  obtain ⟨first, more, rfl, hfirst, hmore, rfl⟩ := exists_of_scheme? h
  have hall : (more.map Char.toLower).all isSchemeChar = true := by
    rw [List.all_map, List.all_eq_true]
    exact fun c hc => hchar c (List.all_eq_true.mp hmore c hc)
  have hlower : ((first :: more).map Char.toLower).map Char.toLower =
      (first :: more).map Char.toLower := by
    rw [List.map_map]
    exact List.map_congr_left fun c _ => Text.toLower_toLower c
  unfold IsScheme scheme?
  rw [hlower]
  simp only [List.map_cons, hletter first hfirst, hall, Bool.and_self, if_true]

theorem endsVisibly_trim (text : List Char) : EndsVisibly (trim text) := by
  intro c hc
  unfold trim Text.trim Text.trimEnd at hc
  rw [List.getLast?_reverse] at hc
  have hhead := List.head?_dropWhile_not (fun c => decide (c.toNat ≤ 0x20))
    (Text.trimStart (fun c => decide (c.toNat ≤ 0x20)) text).reverse
  rw [hc] at hhead
  simpa using hhead

theorem EndsVisibly.of_append {text more : List Char} (h : EndsVisibly (text ++ more)) :
    EndsVisibly more := by
  rcases List.eq_nil_or_concat more with rfl | ⟨before, last, rfl⟩
  · exact nofun
  · rw [List.concat_eq_append] at h ⊢
    intro c hc
    rw [List.getLast?_concat] at hc
    exact h c (by rwa [← List.append_assoc, List.getLast?_concat])

theorem EndsVisibly.strip {text : List Char} (h : EndsVisibly text) :
    EndsVisibly (strip text) := by
  rcases List.eq_nil_or_concat text with rfl | ⟨before, last, rfl⟩
  · exact nofun
  · rw [List.concat_eq_append] at h ⊢
    have hlast : 0x20 < last.toNat := h last (by rw [List.getLast?_concat]; rfl)
    have hkept : Url.strip [last] = [last] := by
      refine strip_eq_self fun c hc => ?_
      rw [List.mem_singleton.mp hc]
      exact not_ignored_of_printable (Nat.le_of_lt hlast)
    rw [strip_append, hkept]
    intro c hc
    rw [List.getLast?_concat] at hc
    cases hc
    exact hlast

/-- Every URL that is read is in normal form. -/
theorem isNormal_of_parse {text : List Char} {url : Url} (h : parse? text = some url) :
    url.IsNormal := by
  unfold parse? at h
  split at h
  · rename_i scheme rest hsplit
    obtain ⟨before, htext, hname⟩ := exists_of_splitScheme? hsplit
    have hscheme := isScheme_of_scheme? hname
    have hend : EndsVisibly rest := by
      have htrim := endsVisibly_trim text
      rw [htext, List.append_cons] at htrim
      exact htrim.of_append
    unfold readWithScheme? at h
    split at h
    · exact isNormal_of_readFile h
    · rename_i hkind
      exact isNormal_of_readGeneral hscheme hkind hend.strip h
    · rename_i hkind
      simp only at h
      rw [← hkind] at h
      exact isNormal_of_afterSlashes hscheme (by rw [hkind]; nofun) h
  · cases h

end SchemaTypes.Url
