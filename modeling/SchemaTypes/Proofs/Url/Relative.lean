import SchemaTypes.DocumentId
import SchemaTypes.Proofs.Url.Paths

set_option autoImplicit false

/-!
# Paths on the fixed host

What a text without a scheme means relative to the URL that plain paths are read from.  Its path is
the text itself, with its slashes put right, or it is shorter: query and fragment are dropped, dot
pieces are folded, and what stands after two slashes up to the path is a host.
-/

namespace SchemaTypes.Url

/-! ## What follows an authority -/

/-- Host and port make up the text that they were split from. -/
theorem splitPort_join (inside : Bool) (text : List Char) :
    (splitPort inside text).1 ++ partText ':' (splitPort inside text).2 = text := by
  induction text generalizing inside with
  | nil => rfl
  | cons c rest ih =>
    rw [splitPort]
    split
    · rename_i hcolon
      simp only [Bool.and_eq_true, decide_eq_true_eq] at hcolon
      rw [hcolon.1]
      rfl
    · exact congrArg (c :: ·) (ih _)

theorem length_le_of_readPort? {text rest : List Char} {port : Option Nat}
    (h : readPort? text = some (port, rest)) : rest.length ≤ text.length := by
  unfold readPort? at h
  simp only at h
  split at h
  · cases h
  · cases h
    exact (List.dropWhile_sublist _).length_le

theorem length_le_of_readHost? {kind : Kind} {scheme user text rest : List Char}
    {authority : Authority} (h : readHost? kind scheme user text = some (authority, rest)) :
    rest.length ≤ text.length := by
  unfold readHost? at h
  have hjoin := congrArg List.length (splitPort_join false text)
  simp only at h
  split at h
  · cases h
  · split at h
    · cases h
    · split at h
      · cases h
      · rename_i hport
        cases h
        have hrest := length_le_of_readPort? hport
        cases hsplit : (splitPort false text).2 with
        | none =>
          rw [hsplit] at hrest
          exact Nat.le_trans hrest (Nat.zero_le _)
        | some portText =>
          rw [hsplit] at hrest hjoin
          simp only [partText, List.length_append, List.length_cons, Option.getD_some]
            at hrest hjoin
          omega

/-- What follows an authority is no longer than the text that was read. -/
theorem length_le_of_readAuthority? {kind : Kind} {scheme text rest : List Char} {isLast : Bool}
    {authority : Authority} (h : readAuthority? kind scheme text isLast = some (authority, rest)) :
    rest.length ≤ text.length := by
  unfold readAuthority? at h
  split at h
  · exact length_le_of_readHost? h
  · rename_i after hsplit
    have htext := (Text.eq_of_splitLast? hsplit).1
    split at h
    · cases h
    · have hrest := length_le_of_readHost? h
      simp only [htext, List.nil_append, List.length_cons]
      omega
  · rename_i user after _ hsplit
    have htext := (Text.eq_of_splitLast? hsplit).1
    have hrest := length_le_of_readHost? h
    simp only [htext, List.length_append, List.length_cons]
    omega

/-! ## Paths that are read -/

/-- No path is longer than the text it is read from. -/
theorem exists_rootPath {kind : Kind} (hkind : kind = .special) (text : List Char) : ∃ raw,
    (Path.segments (rootPath kind text)).text = Percent.encode pathSet ('/' :: raw) ∧
      raw.length ≤ text.length := by
  subst hkind
  have hpath : rootPath .special text = pathFrom .special [] (dropSlash .special text) := rfl
  obtain ⟨raw, hraw, hlength, -⟩ :=
    exists_pathFrom Kind.special_ne_file (dropSlash .special text)
  rw [hpath]
  exact ⟨raw, hraw, Nat.le_trans hlength (dropSlash_sublist .special text).length_le⟩

theorem exists_path_afterSlashes {scheme text : List Char} {url : Url}
    (h : afterSlashes? .special scheme text = some url) : ∃ raw,
    url.path.text = Percent.encode pathSet ('/' :: raw) ∧ raw.length ≤ text.length := by
  unfold afterSlashes? at h
  simp only at h
  split at h
  · cases h
  · rename_i authority rest hauthority
    cases h
    obtain ⟨raw, hraw, hlength⟩ := exists_rootPath rfl (splitTail .special (rest ++
      text.dropWhile fun c => !endsAuthority .special c)).body
    refine ⟨raw, hraw, ?_⟩
    obtain ⟨more, htext, -⟩ := splitTail_body .special (rest ++
      text.dropWhile fun c => !endsAuthority .special c)
    have hbody := congrArg List.length htext
    have hrest := length_le_of_readAuthority? hauthority
    have hjoin := congrArg List.length
      (List.takeWhile_append_dropWhile (p := fun c => !endsAuthority .special c) (l := text))
    rw [List.length_append] at hjoin
    rw [List.length_append, List.length_append] at hbody
    omega

/-! ## Reading against the fixed host -/

/-- Whether a text starts with two slashes, behind which a host is read. -/
def startsWithHost (kind : Kind) : List Char → Bool
  | first :: second :: _ => isSlash kind first && isSlash kind second
  | _ => false

theorem isSlash_special (c : Char) :
    isSlash .special c = (decide (c = '/') || decide (c = '\\')) := rfl

theorem length_le_dropSlash (kind : Kind) {text : List Char}
    (hclean : ∀ c ∈ text, isIgnored c = false) :
    text.length ≤ (dropSlash kind text).length + 1 := by
  cases text with
  | nil => exact Nat.zero_le _
  | cons c rest =>
    rw [dropSlash_cons (hclean c (List.mem_cons_self ..))]
    split
    · exact Nat.le_refl _
    · exact Nat.le_succ _

theorem dropSlash_append_cons {kind : Kind} {body : List Char} {mark : Char}
    (hbody : ∀ c ∈ body, isIgnored c = false) (hmark : mark = '?' ∨ mark = '#')
    (rest : List Char) :
    dropSlash kind (body ++ mark :: rest) = dropSlash kind body ++ mark :: rest := by
  cases body with
  | nil => rcases hmark with rfl | rfl <;> cases kind <;> rfl
  | cons c body =>
    have hc := hbody c (List.mem_cons_self ..)
    rw [List.cons_append, dropSlash_cons hc, dropSlash_cons hc]
    split <;> rfl

theorem strip_withSlashes {kind : Kind} {text : List Char}
    (h : ∀ c ∈ text, isIgnored c = false) :
    strip (withSlashes kind text) = withSlashes kind text := by
  refine strip_eq_self fun c hc => ?_
  obtain ⟨d, hd, rfl⟩ := List.mem_map.mp hc
  split
  · rfl
  · exact h d hd

/-- A text that names no host has a path that is read from what stands before its query. -/
theorem path_of_readRelative {text first : List Char}
    (hbody : (splitTail .special text).body = first) (hclean : ∀ c ∈ first, isIgnored c = false)
    (hhost : startsWithHost .special first = false) :
    (readRelative? DocumentId.root text).map Url.path =
      some (.segments (pathFrom .special [] (dropSlash .special first))) := by
  have hkind : Kind.of DocumentId.root.scheme = .special := by decide
  unfold readRelative?
  simp only [hkind, hbody, ← isSlash_special]
  cases first with
  | nil => rfl
  | cons c rest =>
    rw [dropSlash_cons (hclean c (List.mem_cons_self ..))]
    cases hc : isSlash .special c with
    | false => simp [hc]; rfl
    | true =>
      cases rest with
      | nil => simp [hc]; rfl
      | cons second rest =>
        have hsecond : isSlash .special second = false := by
          simpa [startsWithHost, hc] using hhost
        simp [hc, hsecond]; rfl

/-- A text that names a host leaves at most what stands behind two slashes for the path. -/
theorem exists_path_of_host {text first : List Char} {url : Url}
    (hbody : (splitTail .special text).body = first)
    (hhost : startsWithHost .special first = true)
    (h : readRelative? DocumentId.root text = some url) : ∃ raw,
    url.path.text = Percent.encode pathSet ('/' :: raw) ∧ raw.length + 2 ≤ text.length := by
  have hkind : Kind.of DocumentId.root.scheme = .special := by decide
  obtain ⟨more, htext, -⟩ := splitTail_body .special text
  rw [hbody] at htext
  unfold readRelative? at h
  simp only [hkind, hbody, ← isSlash_special] at h
  match first, hhost with
  | c :: second :: rest, hhost =>
    obtain ⟨hc, hsecond⟩ := Bool.and_eq_true_iff.mp hhost
    subst htext
    simp only [hc, hsecond, if_true] at h
    split at h
    · obtain ⟨raw, hraw, hlength⟩ := exists_path_afterSlashes h
      refine ⟨raw, hraw, ?_⟩
      simp at hlength ⊢
      omega
    · obtain ⟨raw, hraw, hlength⟩ := exists_path_afterSlashes h
      refine ⟨raw, hraw, ?_⟩
      have hdrop :=
        (List.dropWhile_sublist (l := rest ++ more) fun c => isSlash .special c).length_le
      simp [hc, hsecond] at hlength hdrop ⊢
      omega

/-- A text that is read as a path as it stands, but for the spelling of its slashes. -/
structure IsTidy (text : List Char) : Prop where
  whole : '#' ∉ text ∧ '?' ∉ text
  undotted : ∀ piece ∈ pieces .special (dropSlash .special text), piece.isDots = false
  unhosted : startsWithHost .special text = false

/-- The path of a text without a scheme is the text, or it is shorter. -/
theorem exists_path_of_readRelative {text : List Char}
    (hclean : ∀ c ∈ text, isIgnored c = false) {url : Url}
    (h : readRelative? DocumentId.root text = some url) : ∃ raw,
    url.path.text = Percent.encode pathSet ('/' :: raw) ∧
      raw.length ≤ (dropSlash .special text).length ∧
      (raw = withSlashes .special (dropSlash .special text) ∧ IsTidy text ∨
        raw.length < (dropSlash .special text).length) := by
  obtain ⟨more, htext, hwhole, hmore⟩ := splitTail_body .special text
  generalize hbody : (splitTail .special text).body = body at htext hwhole
  cases hhost : startsWithHost .special body with
  | true =>
    obtain ⟨raw, hraw, hlength⟩ := exists_path_of_host hbody hhost h
    have hdrop := length_le_dropSlash .special hclean
    exact ⟨raw, hraw, by omega, Or.inr (by omega)⟩
  | false =>
    have hbodyClean : ∀ c ∈ body, isIgnored c = false := fun c hc =>
      hclean c (by rw [htext]; exact List.mem_append_left _ hc)
    have hpath := path_of_readRelative hbody hbodyClean hhost
    rw [h, Option.map_some, Option.some.injEq] at hpath
    rw [hpath]
    obtain ⟨raw, hraw, hlength, hkept⟩ :=
      exists_pathFrom Kind.special_ne_file (dropSlash .special body)
    refine ⟨raw, hraw, ?_⟩
    rcases hmore with rfl | ⟨mark, rest, rfl, hmark⟩
    · rw [List.append_nil] at htext
      subst htext
      refine ⟨hlength, ?_⟩
      rcases hkept with ⟨rfl, hundotted⟩ | hlt
      · have hdrop : ∀ c ∈ dropSlash .special text, isIgnored c = false := fun c hc =>
          hclean c ((dropSlash_sublist _ _).subset hc)
        exact Or.inl ⟨strip_withSlashes hdrop, hwhole, hundotted, hhost⟩
      · exact Or.inr hlt
    · rw [htext, dropSlash_append_cons hbodyClean hmark, List.length_append, List.length_cons]
      exact ⟨by omega, Or.inr (by omega)⟩

/-- A tidy text is read as it stands. -/
theorem readRelative_of_tidy {text : List Char} (hclean : ∀ c ∈ text, isIgnored c = false)
    (h : IsTidy text) : ∃ url, readRelative? DocumentId.root text = some url ∧
      url.path.text =
        Percent.encode pathSet ('/' :: withSlashes .special (dropSlash .special text)) := by
  have hbody : (splitTail .special text).body = text := by
    rw [splitTail_of_not_mem _ h.whole.1 h.whole.2]
  have hpath := path_of_readRelative hbody hclean h.unhosted
  obtain ⟨url, hurl, hsegments⟩ := Option.map_eq_some_iff.mp hpath
  have hdrop : ∀ c ∈ dropSlash .special text, isIgnored c = false := fun c hc =>
    hclean c ((dropSlash_sublist _ _).subset hc)
  refine ⟨url, hurl, ?_⟩
  rw [hsegments, pathFrom_of_undotted Kind.special_ne_file h.undotted, strip_withSlashes hdrop]

/-! ## Texts with a scheme -/

/-- A base makes a difference to a text with a scheme only if that is its own scheme. -/
theorem readRelative_of_readWithScheme {base url : Url} (hbase : Kind.of base.scheme = .special)
    {scheme text : List Char} (hnone : readWithScheme? none scheme text = none)
    (h : readWithScheme? (some base) scheme text = some url) :
    readRelative? base (strip text) = some url := by
  unfold readWithScheme? at hnone h
  split at h
  · rename_i hkind
    have hne : base.scheme ≠ scheme := by
      rintro rfl
      rw [hbase] at hkind
      cases hkind
    simp only [hkind, if_neg hne] at hnone h
    rw [hnone] at h
    cases h
  · rename_i hkind
    simp only [hkind] at hnone
    rw [hnone] at h
    cases h
  · rename_i hkind
    simp only [hkind] at hnone h
    split at h
    · exact h
    · rw [hnone] at h
      cases h

/-- What is read against the fixed host has the text itself for its path, which then has no scheme,
or something shorter. -/
theorem exists_path_of_join {id : List Char} {url : Url} (hparse : parse? id = none)
    (h : join? DocumentId.root id = some url) : ∃ raw,
    url.path.text = Percent.encode pathSet ('/' :: raw) ∧
      (raw = withSlashes .special (dropSlash .special (strip (trim id))) ∧
          IsTidy (strip (trim id)) ∧ splitScheme? (trim id) = none ∨
        raw.length < (dropSlash .special (strip (trim id))).length) := by
  have hclean : ∀ c ∈ strip (trim id), isIgnored c = false := fun _ => not_ignored_of_mem_strip
  unfold parse? at hparse
  unfold join? at h
  cases hscheme : splitScheme? (trim id) with
  | none =>
    rw [hscheme] at h
    simp only [readWithoutScheme?] at h
    split at h
    · rename_i hhead
      cases h
      obtain ⟨rest, hrest⟩ := List.head?_eq_some_iff.mp hhead
      refine ⟨[], rfl, Or.inr ?_⟩
      rw [hrest, dropSlash_cons (by decide)]
      exact Nat.succ_pos _
    · rw [if_neg (by decide), if_neg (by decide)] at h
      obtain ⟨raw, hraw, -, hkept⟩ := exists_path_of_readRelative hclean h
      refine ⟨raw, hraw, ?_⟩
      rcases hkept with ⟨heq, htidy⟩ | hlt
      · exact Or.inl ⟨heq, htidy, rfl⟩
      · exact Or.inr hlt
  | some parts =>
    obtain ⟨scheme, rest⟩ := parts
    rw [hscheme] at h hparse
    have hrelative := readRelative_of_readWithScheme (by decide) hparse h
    obtain ⟨before, htext, hname⟩ := exists_of_splitScheme? hscheme
    obtain ⟨first, more, hbefore, hletter, -⟩ := exists_of_scheme? hname
    obtain ⟨raw, hraw, hlength, -⟩ :=
      exists_path_of_readRelative (fun _ => not_ignored_of_mem_strip) hrelative
    have hdrop := (dropSlash_sublist .special (strip rest)).length_le
    have hstrip : strip (trim id) = first :: (more ++ ':' :: strip rest) := by
      rw [htext, strip_append, hbefore]
      rfl
    have hfirst : isIgnored first = false :=
      hclean first (by rw [hstrip]; exact List.mem_cons_self ..)
    refine ⟨raw, hraw, Or.inr ?_⟩
    rw [hstrip, dropSlash_cons hfirst, isSlash_of_isLetter hletter]
    simp
    omega

end SchemaTypes.Url
