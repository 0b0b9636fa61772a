import SchemaTypes.Proofs.Url.RoundTrip

set_option autoImplicit false

/-!
# File URLs read back

A file URL in normal form may have a segment that is a dot piece, which was parted from a drive
letter, and a drive letter at its root beside a host.  Reading its text folds the one and drops the
host for the other.  It is read back exactly if it has neither.
-/

namespace SchemaTypes.Url

/-- A file URL without dot pieces, and without a drive letter at the root of a host. -/
structure IsSteady (url : Url) : Prop where
  undotted : ∀ segment ∈ url.path.list, isDotText segment = false
  undriven : hostOf url = noHost ∨ ∀ segment ∈ url.path.list.head?, isDriveLetter segment = false

/-! ## Walks along segments -/

/-- The pieces of a text without ignored characters. -/
def asPieces (segments : List (List Char)) : List Piece :=
  segments.map fun segment => ⟨segment, false⟩

theorem asPieces_cons (first : List Char) (rest : List (List Char)) :
    asPieces (first :: rest) = ⟨first, false⟩ :: asPieces rest := rfl

theorem map_text_asPieces (segments : List (List Char)) :
    (asPieces segments).map Piece.text = segments := by
  unfold asPieces
  rw [List.map_map]
  exact List.map_id _

theorem undotted_asPieces {segments : List (List Char)}
    (h : ∀ segment ∈ segments, isDotText segment = false) :
    ∀ piece ∈ asPieces segments, piece.isDots = false := by
  intro piece hpiece
  obtain ⟨segment, hsegment, rfl⟩ := List.mem_map.mp hpiece
  exact h segment hsegment

/-- No drive letter is found below the root. -/
theorem findsDrive_of_undotted {dir : List (List Char)} (hdir : dir ≠ []) {along : List Piece}
    (h : ∀ piece ∈ along, piece.isDots = false) : findsDrive dir along = false := by
  induction along generalizing dir with
  | nil => rfl
  | cons piece rest ih =>
    obtain ⟨hpiece, hrest⟩ := List.forall_mem_cons.mp h
    obtain ⟨hsingle, hdouble⟩ := Bool.or_eq_false_iff.mp hpiece
    have hroot : dir.isEmpty = false := by simpa using hdir
    have hmore : findsDrive (dir ++ segmentsIn true dir piece) rest = false :=
      ih (by simp [hdir]) hrest
    simp [findsDrive, hdouble, hsingle, hroot, hmore]

theorem rootSegments_of_undriven {first : List Char} (h : isDriveLetter first = false) :
    rootSegments ⟨first, false⟩ = [first] := by
  unfold rootSegments
  split
  · rename_i htext
    rw [if_neg]
    rw [← htext, h]
    exact Bool.false_ne_true
  · rfl
  · rfl

theorem rootSegments_ne_nil (piece : Piece) : rootSegments piece ≠ [] := by
  unfold rootSegments
  split
  · split <;> exact List.cons_ne_nil _ _
  · split <;> exact List.cons_ne_nil _ _
  · exact List.cons_ne_nil _ _

section Undotted

variable {first : List Char} {rest : List (List Char)}
  (h : ∀ segment ∈ first :: rest, isDotText segment = false)

include h

/-- A walk from the root keeps the first segment if that is no drive letter, and all others. -/
theorem walk_root (hroot : rootSegments ⟨first, false⟩ = [first]) :
    walk true [] (asPieces (first :: rest)) = first :: rest := by
  have hpieces := undotted_asPieces h
  rw [asPieces_cons] at hpieces ⊢
  obtain ⟨hfirst, hrest⟩ := List.forall_mem_cons.mp hpieces
  have hstep : stepFrom true [] ⟨first, false⟩ = [first] := by
    rw [stepFrom_of_undotted hfirst]
    exact hroot
  cases rest with
  | nil =>
    change walk true [] [⟨first, false⟩] = _
    rw [walk_singleton, hfirst, hstep]
    rfl
  | cons next more =>
    have hne : asPieces (next :: more) ≠ [] := List.cons_ne_nil _ _
    have hwalk : walk true [first] (asPieces (next :: more)) = _ :=
      walk_of_undotted (Or.inr (List.cons_ne_nil first [])) hne hrest
    rw [asPieces_cons, walk_cons_cons, hstep, ← asPieces_cons, hwalk, map_text_asPieces]
    rfl

theorem findsDrive_root : findsDrive [] (asPieces (first :: rest)) = isDriveLetter first := by
  have hpieces := undotted_asPieces h
  rw [asPieces_cons] at hpieces ⊢
  obtain ⟨hfirst, hrest⟩ := List.forall_mem_cons.mp hpieces
  obtain ⟨hsingle, hdouble⟩ := Bool.or_eq_false_iff.mp hfirst
  have hmore : findsDrive ([] ++ segmentsIn true [] ⟨first, false⟩) (asPieces rest) = false :=
    findsDrive_of_undotted (rootSegments_ne_nil _) hrest
  rw [findsDrive, hsingle, hdouble, hmore]
  simp

end Undotted

/-- Without ignored characters no dot piece is parted from a drive letter. -/
theorem undotted_of_mem_walk {segments : List (List Char)} {segment : List Char}
    (h : segment ∈ walk true [] (asPieces segments)) : isDotText segment = false := by
  rcases mem_walk h with hdir | rfl | ⟨piece, hpiece, hdots, above, hmem⟩
  · cases hdir
  · rfl
  · obtain ⟨source, -, rfl⟩ := List.mem_map.mp hpiece
    have hself : segment ∈ [source] → isDotText segment = false := fun hmem => by
      rwa [List.mem_singleton.mp hmem]
    unfold segmentsIn at hmem
    split at hmem
    · unfold rootSegments at hmem
      split at hmem
      · split at hmem
        · rw [List.mem_singleton.mp hmem]
          simp [isDotText, Piece.isDots, Piece.isSingleDot, Piece.isDoubleDot]
        · exact hself hmem
      · exact hself hmem
      · exact hself hmem
    · exact hself hmem

/-! ## Texts of file URLs -/

theorem isDriveLetter_eq_false {text : List Char}
    (h : ∀ c ∈ text, c ≠ ':' ∧ c ≠ '|') : isDriveLetter text = false := by
  unfold isDriveLetter
  split
  · rename_i letter mark
    obtain ⟨hcolon, hbar⟩ := h mark (by simp)
    simp [hcolon, hbar]
  · rfl

/-- No host is a drive letter. -/
theorem Host.IsSpecial.undriven {host : Host} (h : host.IsSpecial) :
    isDriveLetter host.text = false := by
  have hname : ∀ {c}, isForbiddenName c = false → c ≠ ':' ∧ c ≠ '|' := by
    intro c hc
    constructor <;> rintro rfl <;> exact absurd hc (by decide)
  cases h with
  | @name name h =>
    have hallowed : ∀ c ∈ name, isForbiddenName c = false := by simpa using h.allowed
    exact isDriveLetter_eq_false fun c hc => hname (hallowed c hc)
  | ipv4 h => exact isDriveLetter_eq_false fun c hc => hname (of_mem_ipv4Text hc).2.1
  | @ipv6 pieces hlength hwords =>
    unfold isDriveLetter
    split
    · rename_i letter mark htext
      have hletter : letter = '[' := (List.cons.inj htext).1.symm
      rw [hletter]
      rfl
    · rfl

/-- The two slashes of a file URL are found again. -/
theorem parse?_file {rest : List Char} (h : Visible rest) :
    parse? ("file".toList ++ ':' :: '/' :: '/' :: rest) = fileAfterSlashes? rest := by
  have hscheme : IsScheme "file".toList := rfl
  have hslashes : Visible ('/' :: '/' :: rest) := .cons (by decide) (.cons (by decide) h)
  have hkind : Kind.of "file".toList = .file := by decide
  rw [parse?_of_scheme hscheme (endsVisibly_of_visible hslashes)]
  unfold readWithScheme?
  rw [hkind]
  rfl

/-- A file URL is written behind two slashes. -/
theorem text_fileUrl (host : Host) (segments : List (List Char)) (tail : Tail) :
    (fileUrl host segments tail).text =
      "file".toList ++ ':' :: '/' :: '/' ::
        (host.text ++ ((Path.segments segments).text ++ tailText tail.query tail.fragment)) := by
  rw [text_eq]
  simp [fileUrl, beforePath, Authority.text]

/-- Beside the same query and fragment, equal texts have equal texts of host and path. -/
theorem append_eq_of_text_fileUrl {host other : Host} {segments more : List (List Char)}
    {tail : Tail} (h : (fileUrl host segments tail).text = (fileUrl other more tail).text) :
    host.text ++ (Path.segments segments).text = other.text ++ (Path.segments more).text := by
  rw [text_fileUrl, text_fileUrl] at h
  simpa [← List.append_assoc] using h

/-- The path of a file URL in normal form. -/
structure IsFilePath (segments : List (List Char)) : Prop where
  segment : ∀ segment ∈ segments, IsSegment .file segment
  root : trimRoot segments = segments

theorem IsFilePath.ne_nil {segments : List (List Char)} (h : IsFilePath segments) :
    segments ≠ [] := by
  rintro rfl
  cases h.root

theorem IsNormal.exists_fileUrl {url : Url} (h : url.IsNormal)
    (hfile : Kind.of url.scheme = .file) : ∃ host segments tail, url = fileUrl host segments tail ∧
      (host = noHost ∨ host.IsSpecial ∧ host ≠ .name "localhost".toList) ∧
      IsFilePath segments ∧ IsTail .file tail.query tail.fragment := by
  cases h with
  | hosted hscheme hkind => exact absurd hfile hkind
  | rooted hscheme hkind => exact absurd (hkind.symm.trans hfile) (by decide)
  | verbatim hscheme hkind => exact absurd (hkind.symm.trans hfile) (by decide)
  | @file host segments query fragment hhost hpath hroot htail =>
    exact ⟨host, segments, ⟨[], query, fragment⟩, rfl, hhost, ⟨hpath, hroot⟩, htail⟩

theorem IsNormal.isFilePath {host : Host} {segments : List (List Char)} {tail : Tail}
    (h : (fileUrl host segments tail).IsNormal) : IsFilePath segments := by
  cases h with
  | file _ hpath hroot => exact ⟨hpath, hroot⟩
  | hosted _ hkind => exact absurd (by decide) hkind

section File

variable {segments : List (List Char)} {tail : Tail} (hpath : IsFilePath segments)
  (htail : IsTail .file tail.query tail.fragment)

include hpath htail

theorem splitTail_segments :
    splitTail .file ((Path.segments segments).text ++ tailText tail.query tail.fragment) =
      ⟨(Path.segments segments).text, tail.query, tail.fragment⟩ :=
  htail.read (not_mem_segments hpath.segment (by decide) (by decide))
    (not_mem_segments hpath.segment (by decide) (by decide))

theorem visible_file {host : Host} (hhost : Visible host.text) : Visible
    (host.text ++ ((Path.segments segments).text ++ tailText tail.query tail.fragment)) :=
  hhost.append ((visible_segments hpath.segment).append htail.visible)

/-- Without a host the path is walked from an empty piece before its first slash. -/
theorem parse?_unhosted : parse? (fileUrl noHost segments tail).text =
    some (fileUrl noHost (trimRoot (walk true [] (asPieces ([] :: segments)))) tail) := by
  have hsplit := splitTail_segments hpath htail
  have hpieces : pieces .file ([] ++ (Path.segments segments).text) = asPieces ([] :: segments) :=
    pieces_join (List.forall_mem_cons.mpr ⟨isSegment_nil _, hpath.segment⟩)
  have hstart : strip (((Path.segments segments).text ++
      tailText tail.query tail.fragment).takeWhile fun c => !endsAuthority .file c) = [] := by
    obtain ⟨first, rest, rfl⟩ := List.exists_cons_of_ne_nil hpath.ne_nil
    rfl
  rw [List.nil_append] at hpieces
  have hnone : Visible noHost.text := List.forall_mem_nil _
  have hvisible := visible_file hpath htail hnone
  rw [text_fileUrl, parse?_file hvisible]
  change fileAfterSlashes? ((Path.segments segments).text ++ _) = _
  unfold fileAfterSlashes?
  simp only [hstart, hsplit]
  rw [if_pos (by decide)]
  unfold pathFrom
  simp only [hpieces, decide_true, if_true]
  rfl

/-- Behind a host the path is walked from its first segment. -/
theorem parse?_hosted {host : Host} (hhost : host.IsSpecial)
    (hlocal : host ≠ .name "localhost".toList) : parse? (fileUrl host segments tail).text =
      some (fileUrl (if findsDrive [] (asPieces segments) then noHost else host)
        (trimRoot (walk true [] (asPieces segments))) tail) := by
  have hsplit := splitTail_segments hpath htail
  have hchars : ∀ c ∈ host.text, endsAuthority .file c = false ∧ 0x20 < c.toNat := fun c hc =>
    of_isAuthorityChar (isAuthorityChar_of_isHostChar (hhost.isHostText.chars c hc)) .file
  have hvisible := visible_file hpath htail fun c hc => (hchars c hc).2
  obtain ⟨first, rest, rfl⟩ := List.exists_cons_of_ne_nil hpath.ne_nil
  have hpieces : pieces .file (first ++ (Path.segments rest).text) = asPieces (first :: rest) :=
    pieces_join hpath.segment
  have hends : ∀ c ∈ host.text, (!endsAuthority .file c) = true := fun c hc => by
    rw [(hchars c hc).1]
    rfl
  have hslash : ∀ c ∈ ((Path.segments (first :: rest)).text ++
      tailText tail.query tail.fragment).head?, (!endsAuthority .file c) = false := by
    rintro c ⟨⟩
    rfl
  obtain ⟨htake, hdrop⟩ := takeWhile_append_stop hends hslash
  have hstrip : strip host.text = host.text :=
    strip_of_printable fun c hc => Nat.le_of_lt (hchars c hc).2
  have hname : (isDriveLetter host.text || host.text.isEmpty) = false := by
    rw [hhost.undriven, Bool.false_or]
    simpa using hhost.text_ne_nil
  have hroot : dropSlash .file (Path.segments (first :: rest)).text =
      first ++ (Path.segments rest).text := by
    rw [text_segments_cons, dropSlash_cons (by decide), if_pos (by decide)]
  rw [text_fileUrl, parse?_file hvisible]
  unfold fileAfterSlashes?
  simp only [htake, hdrop, hstrip, hname, hhost.read, hsplit, hlocal, hroot, hpieces]
  rfl

end File

/-! ## File URLs read back -/

theorem Host.IsSpecial.ne_noHost {host : Host} (h : host.IsSpecial) : host ≠ noHost := by
  rintro rfl
  exact h.text_ne_nil rfl

/-- A path starts with a slash, which no host does. -/
theorem text_segments_ne {host : Host} (h : host.IsSpecial) {segments : List (List Char)}
    (hne : segments ≠ []) (rest : List Char) :
    (Path.segments segments).text ≠ host.text ++ rest := by
  obtain ⟨c, more, htext⟩ := List.exists_cons_of_ne_nil h.text_ne_nil
  obtain ⟨first, others, rfl⟩ := List.exists_cons_of_ne_nil hne
  intro heq
  rw [htext, text_segments_cons, List.cons_append] at heq
  have hslash : '/' ∈ host.text := by
    rw [htext, ← (List.cons.inj heq).1]
    exact List.mem_cons_self
  exact absurd (h.isHostText.chars '/' hslash) (by decide)

/-- A steady file URL in normal form is read back from its text. -/
theorem IsSteady.read {url : Url} (hsteady : url.IsSteady) (h : url.IsNormal)
    (hfile : Kind.of url.scheme = .file) : parse? url.text = some url := by
  obtain ⟨host, segments, tail, rfl, hhost, hpath, htail⟩ := h.exists_fileUrl hfile
  have hundotted : ∀ segment ∈ segments, isDotText segment = false := hsteady.undotted
  rcases hhost with rfl | ⟨hhost, hlocal⟩
  · rw [parse?_unhosted hpath htail, walk_root (List.forall_mem_cons.mpr ⟨rfl, hundotted⟩) rfl]
    exact congrArg (fun list => some (fileUrl noHost list tail)) hpath.root
  · obtain ⟨first, rest, rfl⟩ := List.exists_cons_of_ne_nil hpath.ne_nil
    have hdrive : isDriveLetter first = false :=
      hsteady.undriven.resolve_left hhost.ne_noHost first rfl
    rw [parse?_hosted hpath htail hhost hlocal, findsDrive_root hundotted, hdrive,
      walk_root hundotted (rootSegments_of_undriven hdrive), hpath.root]
    rfl

/-- A path that a walk leaves as it is has no dot pieces. -/
theorem undotted_of_walk {segments walked : List (List Char)}
    (h : trimRoot (walk true [] (asPieces segments)) = walked) :
    ∀ segment ∈ walked, isDotText segment = false := by
  intro segment hsegment
  rw [← h] at hsegment
  rcases mem_trimRoot hsegment with hmem | rfl
  · exact undotted_of_mem_walk hmem
  · rfl

/-- A file URL in normal form that is read as a URL with the same text is steady. -/
theorem IsSteady.of_read {url again : Url} (h : url.IsNormal)
    (hfile : Kind.of url.scheme = .file) (hread : parse? url.text = some again)
    (htext : again.text = url.text) : url.IsSteady := by
  obtain ⟨host, segments, tail, rfl, hhost, hpath, htail⟩ := h.exists_fileUrl hfile
  have hagain := isNormal_of_parse hread
  rcases hhost with rfl | ⟨hhost, hlocal⟩
  · rw [parse?_unhosted hpath htail, Option.some.injEq] at hread
    subst hread
    have hsame := text_segments_inj hagain.isFilePath.segment hpath.segment
      (append_eq_of_text_fileUrl htext)
    exact ⟨undotted_of_walk hsame, Or.inl rfl⟩
  · rw [parse?_hosted hpath htail hhost hlocal, Option.some.injEq] at hread
    subst hread
    have htexts := append_eq_of_text_fileUrl htext
    cases hdrive : findsDrive [] (asPieces segments) with
    | true =>
      rw [hdrive] at htexts
      exact absurd htexts (text_segments_ne hhost hagain.isFilePath.ne_nil _)
    | false =>
      rw [hdrive] at htexts
      have hsame := text_segments_inj hagain.isFilePath.segment hpath.segment
        (List.append_cancel_left htexts)
      have hundotted := undotted_of_walk hsame
      refine ⟨hundotted, Or.inr ?_⟩
      obtain ⟨first, rest, rfl⟩ := List.exists_cons_of_ne_nil hpath.ne_nil
      rintro segment ⟨⟩
      rw [← findsDrive_root hundotted, hdrive]

/-- The text of a URL in normal form is read as some URL. -/
theorem IsNormal.exists_parse {url : Url} (h : url.IsNormal) :
    ∃ again, parse? url.text = some again := by
  by_cases hfile : Kind.of url.scheme = .file
  · obtain ⟨host, segments, tail, rfl, hhost, hpath, htail⟩ := h.exists_fileUrl hfile
    rcases hhost with rfl | ⟨hhost, hlocal⟩
    · exact ⟨_, parse?_unhosted hpath htail⟩
    · exact ⟨_, parse?_hosted hpath htail hhost hlocal⟩
  · exact ⟨url, h.read hfile⟩

/-- A URL in normal form is read as one with the same text, unless it is a file URL that is not
steady. -/
theorem IsNormal.reads_back_iff {url : Url} (h : url.IsNormal) :
    (∃ again, parse? url.text = some again ∧ again.text = url.text) ↔
      (Kind.of url.scheme = .file → url.IsSteady) := by
  constructor
  · rintro ⟨again, hread, htext⟩ hfile
    exact .of_read h hfile hread htext
  · intro hsteady
    refine ⟨url, ?_, rfl⟩
    by_cases hfile : Kind.of url.scheme = .file
    · exact (hsteady hfile).read h hfile
    · exact h.read hfile

/-- A drive letter that an empty segment parts from the host is left at the root beside it, and
takes its place when the URL is read again. -/
example : (parse? "file://h//C:/x".toList).map text = some "file://h/C:/x".toList ∧
    (parse? "file://h/C:/x".toList).map text = some "file:///C:/x".toList := by decide +kernel

end SchemaTypes.Url
