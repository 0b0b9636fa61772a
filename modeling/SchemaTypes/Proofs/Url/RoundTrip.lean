import SchemaTypes.Proofs.Url.Normal

set_option autoImplicit false

/-!
# URLs read back

A URL in normal form that is not a file URL is read back from its text.
-/

namespace SchemaTypes.Url

/-! ## Visible characters -/

/-- A text without blanks. -/
def Visible (text : List Char) : Prop := ∀ c ∈ text, 0x20 < c.toNat

theorem Visible.append {text more : List Char} (h : Visible text) (hmore : Visible more) :
    Visible (text ++ more) := List.forall_mem_append.mpr ⟨h, hmore⟩

theorem Visible.cons {c : Char} {text : List Char} (hc : 0x20 < c.toNat) (h : Visible text) :
    Visible (c :: text) := List.forall_mem_cons.mpr ⟨hc, h⟩

theorem visible_of_clean {set : Percent.Set} (hset : IsPartSet set) (hblank : set ' ' = true)
    {text : List Char} (h : Percent.Clean set text) : Visible text := by
  intro c hc
  have hprintable := (hset.printable h hc).1
  have hne : c.toNat ≠ 0x20 := by
    intro heq
    rw [Char.toNat_inj.mp (heq.trans rfl : c.toNat = ' '.toNat)] at hc
    exact h.not_mem hblank hc
  omega

theorem strip_of_printable {text : List Char} (h : ∀ c ∈ text, 0x20 ≤ c.toNat) :
    strip text = text := strip_eq_self fun c hc => not_ignored_of_printable (h c hc)

/-! ## Tails read back -/

/-- The text of a query and a fragment. -/
def tailText (query fragment : Option (List Char)) : List Char :=
  partText '?' query ++ partText '#' fragment

theorem eq_none_of_partText {mark : Char} {part : Option (List Char)}
    (h : partText mark part = []) : part = none := by
  cases part with
  | none => rfl
  | some text => cases h

theorem text_eq (url : Url) : url.text = url.scheme ++ ':' ::
    (url.beforePath ++ (url.path.text ++ tailText url.query url.fragment)) := by
  simp [Url.text, tailText]

section Tail

variable {kind : Kind} {query fragment : Option (List Char)} (h : IsTail kind query fragment)

include h

theorem IsTail.visible : Visible (tailText query fragment) := by
  refine Visible.append ?_ ?_
  · cases query with
    | none => exact nofun
    | some text =>
      exact .cons (by decide)
        (visible_of_clean (isPartSet_querySetOf kind) (by cases kind <;> decide) (h.query text rfl))
  · cases fragment with
    | none => exact nofun
    | some text =>
      exact .cons (by decide)
        (visible_of_clean isPartSet_fragmentSet (by decide) (h.fragment text rfl))

omit h in
theorem head?_tailText {c : Char} (hc : c ∈ (tailText query fragment).head?) :
    c = '?' ∨ c = '#' := by
  cases query with
  | some text => exact Or.inl (Option.some.inj hc).symm
  | none =>
    cases fragment with
    | some text => exact Or.inr (Option.some.inj hc).symm
    | none => cases hc

/-- Query and fragment are read back behind a text without their marks. -/
theorem IsTail.read {body : List Char} (hsign : '#' ∉ body) (hmark : '?' ∉ body) :
    splitTail kind (body ++ tailText query fragment) = ⟨body, query, fragment⟩ := by
  have hwhole : '#' ∉ body ++ partText '?' query := by
    intro hmem
    rcases List.mem_append.mp hmem with hmem | hmem
    · exact hsign hmem
    · cases query with
      | none => cases hmem
      | some text =>
        have hset : querySetOf kind '#' = true := by cases kind <;> decide
        exact (h.query text rfl).not_mem hset
          (List.mem_of_ne_of_mem (by decide) hmem)
  have hquery : query.map (fun text => Percent.encode (querySetOf kind) (strip text)) = query := by
    cases query with
    | none => rfl
    | some text =>
      have hclean := h.query text rfl
      rw [Option.map_some, strip_of_printable fun c hc =>
        ((isPartSet_querySetOf kind).printable hclean hc).1, Percent.encode_of_clean hclean]
  have hfragment :
      fragment.map (fun text => Percent.encode fragmentSet (strip text)) = fragment := by
    cases fragment with
    | none => rfl
    | some text =>
      have hclean := h.fragment text rfl
      rw [Option.map_some, strip_of_printable fun c hc =>
        (isPartSet_fragmentSet.printable hclean hc).1, Percent.encode_of_clean hclean]
  rw [tailText, ← List.append_assoc, splitTail_parts kind hwhole hmark, hquery, hfragment]

end Tail

/-! ## Paths read back -/

section Segments

variable {kind : Kind} {segments : List (List Char)}
  (h : ∀ segment ∈ segments, IsSegment kind segment)

include h

theorem visible_segments : Visible (Path.segments segments).text := by
  intro c hc
  rcases mem_text_segments hc with rfl | ⟨segment, hsegment, hmem⟩
  · decide
  · exact visible_of_clean isPartSet_pathSet (by decide) (h segment hsegment).clean c hmem

theorem not_mem_segments {c : Char} (hslash : c ≠ '/') (hset : pathSet c = true) :
    c ∉ (Path.segments segments).text := by
  intro hc
  rcases mem_text_segments hc with rfl | ⟨segment, hsegment, hmem⟩
  · exact hslash rfl
  · exact (h segment hsegment).clean.not_mem hset hmem

end Segments

/-- A path is read back behind an authority. -/
theorem IsPath.read {kind : Kind} {segments : List (List Char)} (h : IsPath kind segments)
    (hkind : kind ≠ .file) (hroot : kind = .special → segments ≠ []) :
    rootPath kind (Path.segments segments).text = segments := by
  cases segments with
  | nil =>
    have hgeneral : kind = .general := by
      cases kind with
      | special => exact absurd rfl (hroot rfl)
      | file => exact absurd rfl hkind
      | general => rfl
    rw [hgeneral]
    rfl
  | cons first rest =>
    have hdrop : dropSlash kind ('/' :: (first ++ (Path.segments rest).text)) =
        first ++ (Path.segments rest).text := by
      rw [dropSlash_cons (by decide), if_pos (by cases kind <;> rfl)]
    rw [text_segments_cons]
    unfold rootPath
    rw [if_neg (by simp), if_neg (by simp), hdrop]
    exact pathFrom_join h.segment hkind h.undotted

/-! ## Authorities read back -/

theorem takeWhile_append_stop {p : Char → Bool} {text rest : List Char}
    (htext : ∀ c ∈ text, p c = true) (hrest : ∀ c ∈ rest.head?, p c = false) :
    (text ++ rest).takeWhile p = text ∧ (text ++ rest).dropWhile p = rest := by
  rw [List.takeWhile_append_of_pos htext, List.dropWhile_append_of_pos htext]
  cases rest with
  | nil => exact ⟨List.append_nil _, rfl⟩
  | cons c more =>
    have hc : ¬p c = true := by simp [hrest c rfl]
    rw [List.takeWhile_cons_of_neg hc, List.dropWhile_cons_of_neg hc, List.append_nil]
    exact ⟨rfl, rfl⟩

theorem of_isAuthorityChar {c : Char} (h : isAuthorityChar c = true) (kind : Kind) :
    endsAuthority kind c = false ∧ 0x20 < c.toNat := by
  have hascii : c.toNat < 0x80 := by
    simp only [isAuthorityChar, isHostChar, Bool.or_eq_true, Bool.and_eq_true,
      decide_eq_true_eq] at h
    rcases h with ⟨⟨-, hlow⟩, -⟩ | rfl
    · exact hlow
    · decide
  refine Text.of_ascii (P := fun c => isAuthorityChar c = true →
    endsAuthority kind c = false ∧ 0x20 < c.toNat) ?_ hascii h
  cases kind <;> decide +kernel

section Hosted

variable {kind : Kind} {scheme : List Char} {authority : Authority}
  {segments : List (List Char)} {query fragment : Option (List Char)}
  (hauthority : authority.IsOf kind scheme) (hpath : IsPath kind segments)
  (htail : IsTail kind query fragment)

include hauthority hpath htail

/-- What follows two slashes is read back. -/
theorem afterSlashes?_text (hkind : kind ≠ .file) (hroot : kind = .special → segments ≠ []) :
    afterSlashes? kind scheme
        (authority.text ++ ((Path.segments segments).text ++ tailText query fragment)) =
      some ⟨scheme, some authority, .segments segments, query, fragment⟩ := by
  have hchars : ∀ c ∈ authority.text, (!endsAuthority kind c) = true := by
    intro c hc
    rw [(of_isAuthorityChar (hauthority.chars hc) kind).1]
    rfl
  have hend : ∀ c ∈ ((Path.segments segments).text ++ tailText query fragment).head?,
      (!endsAuthority kind c) = false := by
    intro c hc
    cases segments with
    | nil => rcases head?_tailText hc with rfl | rfl <;> cases kind <;> rfl
    | cons first rest =>
      cases hc
      cases kind <;> rfl
  obtain ⟨htake, hdrop⟩ := takeWhile_append_stop hchars hend
  have hbody := htail.read (not_mem_segments hpath.segment (by decide) (by decide) (c := '#'))
    (not_mem_segments hpath.segment (by decide) (by decide))
  unfold afterSlashes?
  simp only [htake, hdrop, hauthority.read, List.nil_append, hbody, hpath.read hkind hroot]

theorem visible_hosted : Visible
    (authority.text ++ ((Path.segments segments).text ++ tailText query fragment)) :=
  Visible.append (fun _ hc => (of_isAuthorityChar (hauthority.chars hc) kind).2)
    ((visible_segments hpath.segment).append htail.visible)

end Hosted

/-! ## Texts read back -/

theorem trim_of_ends {text : List Char} (hstart : ∀ c ∈ text.head?, 0x20 < c.toNat)
    (hend : EndsVisibly text) : trim text = text := by
  have hkept : ∀ {list : List Char}, (∀ c ∈ list.head?, 0x20 < c.toNat) →
      list.dropWhile (fun c => decide (c.toNat ≤ 0x20)) = list := by
    intro list hhead
    cases list with
    | nil => rfl
    | cons c rest =>
      have hc := hhead c rfl
      exact List.dropWhile_cons_of_neg (by simpa using hc)
  have hlast : ∀ c ∈ text.reverse.head?, 0x20 < c.toNat := by
    rw [List.head?_reverse]
    exact hend
  unfold trim Text.trim Text.trimStart Text.trimEnd
  rw [hkept hstart, hkept hlast, List.reverse_reverse]

section Scheme

variable {scheme : List Char} (hscheme : IsScheme scheme)

include hscheme

theorem IsScheme.chars {c : Char} (hc : c ∈ scheme) : isSchemeChar c = true := by
  obtain ⟨first, more, rfl, hfirst, hmore, -⟩ := exists_of_scheme? hscheme
  rcases List.mem_cons.mp hc with rfl | hc
  · have hletter : c.isAlpha = true := hfirst
    simp [isSchemeChar, Char.isAlphanum, hletter]
  · exact List.all_eq_true.mp hmore c hc

theorem IsScheme.visible : Visible scheme := by
  intro c hc
  have hchar := hscheme.chars hc
  by_cases hascii : c.toNat < 128
  · exact Text.of_ascii (P := fun c => isSchemeChar c = true → 0x20 < c.toNat)
      (by decide +kernel) hascii hchar
  · omega

/-- A text is taken apart after its scheme. -/
theorem parse?_of_scheme {rest : List Char} (hend : EndsVisibly rest) :
    parse? (scheme ++ ':' :: rest) = readWithScheme? none scheme rest := by
  have hcolon : ':' ∉ scheme := fun hmem => absurd (hscheme.chars hmem) (by decide)
  have hstart : ∀ c ∈ (scheme ++ ':' :: rest).head?, 0x20 < c.toNat := by
    obtain ⟨first, more, rfl, -⟩ := exists_of_scheme? hscheme
    rintro c ⟨⟩
    exact hscheme.visible _ List.mem_cons_self
  have hlast : EndsVisibly (scheme ++ ':' :: rest) := by
    refine EndsVisibly.append ?_ (List.cons_ne_nil _ _) _
    cases rest with
    | nil => exact endsVisibly_of_visible (Visible.cons (by decide) nofun)
    | cons c rest => exact hend.append (List.cons_ne_nil c rest) [':']
  have hstrip : strip scheme = scheme :=
    strip_of_printable fun c hc => Nat.le_of_lt (hscheme.visible c hc)
  have hsplit : splitScheme? (scheme ++ ':' :: rest) = some (scheme, rest) := by
    unfold splitScheme?
    rw [Text.splitFirst?_append_cons hcolon]
    simp only [hstrip]
    rw [hscheme]
    rfl
  unfold parse?
  rw [trim_of_ends hstart hlast, hsplit]

end Scheme

/-! ## URLs read back -/

theorem readWithScheme?_slashes {scheme rest : List Char} (hkind : Kind.of scheme ≠ .file)
    (hvisible : Visible rest)
    (hstart : Kind.of scheme = .special → ∀ c ∈ rest.head?, isSlash .special c = false) :
    readWithScheme? none scheme ('/' :: '/' :: rest) =
      afterSlashes? (Kind.of scheme) scheme rest := by
  have hall : Visible ('/' :: '/' :: rest) := .cons (by decide) (.cons (by decide) hvisible)
  have hstrip := strip_of_printable fun c hc => Nat.le_of_lt (hall c hc)
  unfold readWithScheme?
  split
  · rename_i hfile
    exact absurd hfile hkind
  · rename_i hgeneral
    rw [hstrip, hgeneral]
    rfl
  · rename_i hspecial
    have hslashes : ('/' :: '/' :: rest).takeWhile (fun c => c = '/' || c = '\\') = ['/', '/'] := by
      rw [List.takeWhile_cons_of_pos (by decide), List.takeWhile_cons_of_pos (by decide)]
      cases rest with
      | nil => rfl
      | cons c more =>
        have hc : (decide (c = '/') || decide (c = '\\')) = false := hstart hspecial c rfl
        rw [List.takeWhile_cons_of_neg (by simp [hc])]
    rw [hspecial]
    simp only [hstrip, hslashes]
    rfl

/-- A dot at the start of a path stands for nothing. -/
theorem pathFrom_dot {segments : List (List Char)} (hpath : IsPath .general segments)
    (hroot : segments ≠ []) :
    pathFrom .general [] ('.' :: (Path.segments segments).text) = segments := by
  have hdot : IsSegment .general ['.'] :=
    ⟨List.forall_mem_singleton.mpr (by decide), List.forall_mem_singleton.mpr (by decide)⟩
  have hjoin : pieces .general (['.'] ++ (Path.segments segments).text) =
      (['.'] :: segments).map fun segment => ⟨segment, false⟩ :=
    pieces_join (List.forall_mem_cons.mpr ⟨hdot, hpath.segment⟩)
  have hundotted : ∀ piece ∈ segments.map (fun segment => (⟨segment, false⟩ : Piece)),
      piece.isDots = false := by
    intro piece hpiece
    obtain ⟨segment, hsegment, rfl⟩ := List.mem_map.mp hpiece
    exact hpath.undotted segment hsegment
  obtain ⟨first, rest, rfl⟩ := List.exists_cons_of_ne_nil hroot
  rw [pathFrom_eq_walk (by nofun)]
  rw [List.singleton_append] at hjoin
  rw [hjoin, List.map_cons, List.map_cons, walk_cons_cons]
  rw [List.map_cons] at hundotted
  have hstep : stepFrom false [] ⟨['.'], false⟩ = [] := rfl
  rw [hstep, walk_of_undotted (Or.inl rfl) (List.cons_ne_nil _ _) hundotted]
  simp [Function.comp_def]

theorem readGeneral?_slash {rest : List Char} (h : ∀ more, rest ≠ '/' :: more)
    (scheme : List Char) :
    readGeneral? scheme ('/' :: rest) =
      some ⟨scheme, none, .segments (pathFrom .general [] (splitTail .general rest).body),
        (splitTail .general rest).query, (splitTail .general rest).fragment⟩ := by
  unfold readGeneral?
  split
  · rename_i heq
    exact absurd (List.cons.inj heq).2 (h _)
  · rename_i heq
    rw [← (List.cons.inj heq).2]
  · rename_i hslash
    exact absurd rfl (hslash rest)

theorem tailText_ne_slash (query fragment : Option (List Char)) (more : List Char) :
    tailText query fragment ≠ '/' :: more := by
  intro heq
  have hslash : '/' ∈ (tailText query fragment).head? := by
    rw [heq]
    rfl
  rcases head?_tailText hslash with h | h <;> exact absurd h (by decide)

/-- A URL without an authority is read back behind its scheme. -/
theorem readGeneral?_rooted {scheme : List Char} {segments : List (List Char)}
    {query fragment : Option (List Char)} (hpath : IsPath .general segments)
    (hroot : segments ≠ []) (htail : IsTail .general query fragment) :
    readGeneral? scheme ((match (Path.segments segments).text with
      | '/' :: '/' :: _ => ['/', '.']
      | _ => []) ++ ((Path.segments segments).text ++ tailText query fragment)) =
      some ⟨scheme, none, .segments segments, query, fragment⟩ := by
  have hsign : '#' ∉ (Path.segments segments).text :=
    not_mem_segments hpath.segment (by decide) (by decide)
  have hmark : '?' ∉ (Path.segments segments).text :=
    not_mem_segments hpath.segment (by decide) (by decide)
  obtain ⟨first, rest, rfl⟩ := List.exists_cons_of_ne_nil hroot
  rw [text_segments_cons] at hsign hmark ⊢
  have hread : splitTail .general (first ++ (Path.segments rest).text ++ tailText query fragment) =
      ⟨first ++ (Path.segments rest).text, query, fragment⟩ :=
    htail.read (List.not_mem_of_not_mem_cons hsign) (List.not_mem_of_not_mem_cons hmark)
  split
  · rename_i more htext
    -- The path starts with two slashes, and a dot between them and the scheme keeps a host from
    -- being read.
    have hdot : splitTail .general
        ('.' :: (Path.segments (first :: rest)).text ++ tailText query fragment) =
        ⟨'.' :: (Path.segments (first :: rest)).text, query, fragment⟩ :=
      htail.read (List.not_mem_cons_of_ne_of_not_mem (by decide) hsign)
        (List.not_mem_cons_of_ne_of_not_mem (by decide) hmark)
    have hpathFrom := pathFrom_dot hpath hroot
    rw [text_segments_cons] at hdot hpathFrom
    change readGeneral? scheme ('/' :: ('.' :: '/' :: (first ++ (Path.segments rest).text) ++
      tailText query fragment)) = _
    rw [readGeneral?_slash (by simp), hdot, hpathFrom]
  · rename_i hslashes
    have hstart : ∀ more, first ++ (Path.segments rest).text ++ tailText query fragment ≠
        '/' :: more := by
      intro more heq
      cases first with
      | cons c chars =>
        have hc := (hpath.segment _ List.mem_cons_self).whole c List.mem_cons_self
        rw [(List.cons.inj heq).1] at hc
        cases hc
      | nil =>
        cases rest with
        | nil => exact tailText_ne_slash _ _ _ heq
        | cons second others => exact hslashes _ rfl
    have hpathFrom := pathFrom_join hpath.segment (by nofun) hpath.undotted
    change readGeneral? scheme ('/' :: (first ++ (Path.segments rest).text ++
      tailText query fragment)) = _
    rw [readGeneral?_slash hstart, hread, hpathFrom]

theorem readGeneral?_verbatim {scheme text : List Char} {query fragment : Option (List Char)}
    (htext : Percent.Clean Percent.controls text) (hmarks : '#' ∉ text ∧ '?' ∉ text)
    (hstart : text.head? ≠ some '/') (htail : IsTail .general query fragment) :
    readGeneral? scheme (text ++ tailText query fragment) =
      some ⟨scheme, none, .verbatim text, query, fragment⟩ := by
  have hhead : ∀ rest, text ++ tailText query fragment ≠ '/' :: rest := by
    intro rest heq
    cases text with
    | nil => exact tailText_ne_slash _ _ _ heq
    | cons c more =>
      rw [List.cons_append, List.cons.injEq] at heq
      exact hstart (congrArg some heq.1)
  unfold readGeneral?
  split
  · rename_i heq
    exact absurd heq (hhead _)
  · rename_i heq
    exact absurd heq (hhead _)
  · simp only [htail.read hmarks.1 hmarks.2, Percent.encode_of_clean htext]

theorem readWithScheme?_general {scheme rest : List Char} (hkind : Kind.of scheme = .general)
    (h : ∀ c ∈ rest, 0x20 ≤ c.toNat) :
    readWithScheme? none scheme rest = readGeneral? scheme rest := by
  unfold readWithScheme?
  rw [hkind]
  simp only [strip_of_printable h]

/-- No slash stands between the two slashes of a special URL and its host. -/
theorem head?_authority {scheme : List Char} {authority : Authority}
    (h : authority.IsOf .special scheme) (rest : List Char) {c : Char}
    (hc : c ∈ (authority.text ++ rest).head?) : isSlash .special c = false := by
  have hhost : authority.host.text ≠ [] := Host.IsSpecial.text_ne_nil h.host
  have hne : authority.text ≠ [] := by
    rw [Authority.text_eq]
    simp [hhost]
  obtain ⟨first, more, htext⟩ := List.exists_cons_of_ne_nil hne
  rw [htext] at hc
  cases hc
  have hchar := h.chars (htext ▸ List.mem_cons_self : c ∈ authority.text)
  have hends := (of_isAuthorityChar hchar .special).1
  simp only [endsAuthority, Bool.or_eq_false_iff] at hends
  exact hends.1.1

theorem parse?_text_hosted {scheme : List Char} {authority : Authority}
    {segments : List (List Char)} {query fragment : Option (List Char)} (hscheme : IsScheme scheme)
    (hkind : Kind.of scheme ≠ .file) (hauthority : authority.IsOf (Kind.of scheme) scheme)
    (hpath : IsPath (Kind.of scheme) segments)
    (hroot : Kind.of scheme = .special → segments ≠ [])
    (htail : IsTail (Kind.of scheme) query fragment) :
    parse? (text ⟨scheme, some authority, .segments segments, query, fragment⟩) =
      some ⟨scheme, some authority, .segments segments, query, fragment⟩ := by
  have hvisible := visible_hosted hauthority hpath htail
  have hslashes : Visible ('/' :: '/' :: (authority.text ++ ((Path.segments segments).text ++
      tailText query fragment))) := .cons (by decide) (.cons (by decide) hvisible)
  rw [text_eq]
  change parse? (scheme ++ ':' :: ('/' :: '/' :: (authority.text ++
    ((Path.segments segments).text ++ tailText query fragment)))) = _
  rw [parse?_of_scheme hscheme (endsVisibly_of_visible hslashes),
    readWithScheme?_slashes hkind hvisible, afterSlashes?_text hauthority hpath htail hkind hroot]
  intro hspecial c hc
  rw [hspecial] at hauthority
  exact head?_authority hauthority _ hc

theorem parse?_text_rooted {scheme : List Char} {segments : List (List Char)}
    {query fragment : Option (List Char)} (hscheme : IsScheme scheme)
    (hkind : Kind.of scheme = .general) (hpath : IsPath .general segments)
    (hroot : segments ≠ []) (htail : IsTail .general query fragment) :
    parse? (text ⟨scheme, none, .segments segments, query, fragment⟩) =
      some ⟨scheme, none, .segments segments, query, fragment⟩ := by
  have hvisible : Visible ((match (Path.segments segments).text with
      | '/' :: '/' :: _ => ['/', '.']
      | _ => []) ++ ((Path.segments segments).text ++ tailText query fragment)) := by
    refine Visible.append ?_ ((visible_segments hpath.segment).append htail.visible)
    split
    · exact .cons (by decide) (.cons (by decide) nofun)
    · exact nofun
  rw [text_eq]
  change parse? (scheme ++ ':' :: ((match (Path.segments segments).text with
    | '/' :: '/' :: _ => ['/', '.']
    | _ => []) ++ ((Path.segments segments).text ++ tailText query fragment))) = _
  rw [parse?_of_scheme hscheme (endsVisibly_of_visible hvisible),
    readWithScheme?_general hkind fun c hc => Nat.le_of_lt (hvisible c hc),
    readGeneral?_rooted hpath hroot htail]

theorem parse?_text_verbatim {scheme path : List Char} {query fragment : Option (List Char)}
    (hscheme : IsScheme scheme) (hkind : Kind.of scheme = .general)
    (hpath : Percent.Clean Percent.controls path) (hmarks : '#' ∉ path ∧ '?' ∉ path)
    (hstart : path.head? ≠ some '/')
    (hend : query = none → fragment = none → EndsVisibly path)
    (htail : IsTail .general query fragment) :
    parse? (text ⟨scheme, none, .verbatim path, query, fragment⟩) =
      some ⟨scheme, none, .verbatim path, query, fragment⟩ := by
  have hprintable : ∀ c ∈ path ++ tailText query fragment, 0x20 ≤ c.toNat := by
    intro c hc
    rcases List.mem_append.mp hc with hc | hc
    · exact (isPartSet_controls.printable hpath hc).1
    · exact Nat.le_of_lt (htail.visible c hc)
  have hends : EndsVisibly (path ++ tailText query fragment) := by
    by_cases htailed : tailText query fragment = []
    · rw [htailed, List.append_nil]
      obtain ⟨hquery, hfragment⟩ := List.append_eq_nil_iff.mp htailed
      exact hend (eq_none_of_partText hquery) (eq_none_of_partText hfragment)
    · exact (endsVisibly_of_visible htail.visible).append htailed _
  have hbefore : beforePath ⟨scheme, none, .verbatim path, query, fragment⟩ = [] := by
    unfold beforePath
    cases path with
    | nil => rfl
    | cons c more =>
      have hc : c ≠ '/' := fun hc => hstart (congrArg some hc)
      simp [Path.text, hc]
  rw [text_eq, hbefore, List.nil_append]
  change parse? (scheme ++ ':' :: (path ++ tailText query fragment)) = _
  rw [parse?_of_scheme hscheme hends, readWithScheme?_general hkind hprintable,
    readGeneral?_verbatim hpath hmarks hstart htail]

/-- A URL in normal form that is not a file URL is read back from its text. -/
theorem IsNormal.read {url : Url} (h : url.IsNormal) (hfile : Kind.of url.scheme ≠ .file) :
    parse? url.text = some url := by
  cases h with
  | hosted hscheme hkind hauthority hpath hroot htail =>
    exact parse?_text_hosted hscheme hkind hauthority hpath hroot htail
  | rooted hscheme hkind hpath hroot htail =>
    exact parse?_text_rooted hscheme hkind hpath hroot htail
  | verbatim hscheme hkind hpath hmarks hstart hend htail =>
    exact parse?_text_verbatim hscheme hkind hpath hmarks hstart hend htail
  | file hhost hpath hroot htail =>
    have hkind : Kind.of "file".toList = .file := by decide
    exact absurd hkind hfile

end SchemaTypes.Url
