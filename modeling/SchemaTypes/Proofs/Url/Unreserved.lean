import SchemaTypes.Proofs.Url.RoundTrip

set_option autoImplicit false

/-!
# Paths that are read as written

A text of unreserved characters and slashes has no scheme, no query and no fragment; nothing is
trimmed, escaped or unescaped in it, and none of its segments is a drive letter.  Relative to a URL
it is therefore nothing but a path, and walking along it pushes its segments on those of the
directory one by one.
-/

namespace SchemaTypes.Url

variable {text segment : List Char} {dir segments : List (List Char)} {c : Char}

/-! ## Unreserved characters -/

/-- An ASCII letter, a digit or one of four marks; none of them means anything in a URL. -/
def isUnreserved (c : Char) : Bool := c.isAlphanum || "-_.~".toList.contains c

/-- A text of unreserved characters and slashes. -/
def IsPathText (text : List Char) : Prop := ∀ c ∈ text, c = '/' ∨ isUnreserved c = true

/-- The characters of the text are looked at, not all that there are. -/
instance (text : List Char) : Decidable (IsPathText text) := List.decidableBAll _ _

/-- A character that is visible, stays as it is in a path, and is none of those that part a URL. -/
structure IsPathChar (c : Char) : Prop where
  visible : 0x20 < c.toNat
  clean : c.toNat < 0x80 ∧ pathSet c = false
  plain : c ∉ ['%', ':', '|', '#', '?', '\\']

theorem isPathChar_of_unreserved (h : c = '/' ∨ isUnreserved c = true) : IsPathChar c := by
  have hascii : c.toNat < 0x80 := by
    rcases h with rfl | h
    · decide
    simp only [isUnreserved, Bool.or_eq_true, List.contains_eq_mem, decide_eq_true_eq] at h
    rcases h with halphanum | hmark
    · exact Text.toNat_lt_of_isAlphanum halphanum
    · have hmarks : ("-_.~".toList.all fun d => d.toNat < 0x80) = true := by decide
      exact of_decide_eq_true (List.all_eq_true.mp hmarks c hmark)
  obtain ⟨hvisible, hset, hplain⟩ := Text.of_ascii
    (P := fun c => c = '/' ∨ isUnreserved c = true →
      0x20 < c.toNat ∧ pathSet c = false ∧ c ∉ ['%', ':', '|', '#', '?', '\\'])
    (by decide +kernel) hascii h
  exact ⟨hvisible, ⟨hascii, hset⟩, hplain⟩

namespace IsPathText

theorem append {more : List Char} (h : IsPathText text) (hmore : IsPathText more) :
    IsPathText (text ++ more) := List.forall_mem_append.mpr ⟨h, hmore⟩

theorem not_mem (h : IsPathText text) (hc : c ∈ ['%', ':', '|', '#', '?', '\\']) : c ∉ text :=
  fun hmem => (isPathChar_of_unreserved (h c hmem)).plain hc

theorem visible (h : IsPathText text) : Visible text := fun c hmem =>
  (isPathChar_of_unreserved (h c hmem)).visible

theorem clean (h : IsPathText text) : Percent.Clean pathSet text := fun c hmem =>
  (isPathChar_of_unreserved (h c hmem)).clean

theorem trim (h : IsPathText text) : trim text = text :=
  trim_of_ends (fun c hc => h.visible c (List.mem_of_mem_head? hc))
    fun c hc => h.visible c (List.mem_of_mem_getLast? hc)

theorem not_ignored (h : IsPathText text) : ∀ c ∈ text, isIgnored c = false := fun c hmem =>
  not_ignored_of_printable (Nat.le_of_lt (h.visible c hmem))

/-- Of the two characters that end a segment there is only the slash. -/
theorem isSlash_eq (h : IsPathText text) (hc : c ∈ text) :
    isSlash .special c = decide (c = '/') := by
  have hback : c ≠ '\\' := fun heq => h.not_mem (by decide) (heq ▸ hc)
  simp [isSlash, Kind.hasBackslash, hback]

theorem splitScheme? (h : IsPathText text) : splitScheme? text = none := by
  unfold Url.splitScheme?
  rw [Text.splitFirst?_eq_none (h.not_mem (by decide))]

theorem parse? (h : IsPathText text) : parse? text = none := by
  unfold Url.parse?
  rw [h.trim, h.splitScheme?]

theorem of_mem_split (h : IsPathText text) (hmem : segment ∈ Text.split '/' text) :
    IsPathText segment := by
  have hjoin := text_segments_split text
  intro c hc
  have htext : c ∈ (Path.segments (Text.split '/' text)).text :=
    List.mem_flatMap.mpr ⟨segment, hmem, List.mem_cons_of_mem _ hc⟩
  rw [hjoin] at htext
  exact (List.mem_cons.mp htext).elim Or.inl (h c)

/-- The pieces of such a text are its segments. -/
theorem pieces (h : IsPathText text) :
    pieces .special text = (Text.split '/' text).map fun segment => ⟨segment, false⟩ := by
  have hslashed : text.map (fun c => if isSlash .special c then '/' else c) = text := by
    refine (List.map_congr_left fun c hc => ?_).trans (List.map_id text)
    by_cases hslash : c = '/' <;> simp [h.isSlash_eq hc, hslash]
  unfold Url.pieces
  rw [hslashed]
  refine List.map_congr_left fun segment hmem => ?_
  have hsegment := h.of_mem_split hmem
  unfold Piece.ofText
  rw [strip_eq_self hsegment.not_ignored, Percent.encode_of_clean hsegment.clean,
    startIsParted_of_not_ignored hsegment.not_ignored]

end IsPathText

/-! ## Segments pushed one by one -/

/-- Where a segment leads to: `.` to the directory itself, `..` to the one above it, if there is
one, and any other segment into it. -/
def push (dir : List (List Char)) (segment : List Char) : List (List Char) :=
  if segment = ['.'] then dir
  else if segment = ['.', '.'] then dir.dropLast
  else dir ++ [segment]

theorem isSingleDot_iff (h : '%' ∉ segment) :
    Piece.isSingleDot ⟨segment, false⟩ = true ↔ segment = ['.'] := by
  unfold Piece.isSingleDot
  split <;> simp_all

theorem isDoubleDot_iff (h : '%' ∉ segment) :
    Piece.isDoubleDot ⟨segment, false⟩ = true ↔ segment = ['.', '.'] := by
  unfold Piece.isDoubleDot
  split <;> simp_all

theorem isDotText_iff (h : '%' ∉ segment) :
    isDotText segment = true ↔ segment = ['.'] ∨ segment = ['.', '.'] := by
  unfold isDotText Piece.isDots
  rw [Bool.or_eq_true, isSingleDot_iff h, isDoubleDot_iff h]

theorem startsWithDriveLetter_eq_false (hcolon : ':' ∉ text) (hbar : '|' ∉ text) :
    startsWithDriveLetter text = false := by
  have hmark : ∀ letter mark, mark ∈ text → isDriveLetter [letter, mark] = false := by
    intro letter mark hmem
    have h1 : mark ≠ ':' := fun heq => hcolon (heq ▸ hmem)
    have h2 : mark ≠ '|' := fun heq => hbar (heq ▸ hmem)
    simp [isDriveLetter, h1, h2]
  unfold startsWithDriveLetter
  split
  · exact hmark _ _ (by simp)
  · rw [hmark _ _ (by simp), Bool.false_and]
  · rfl

theorem parent_eq_dropLast (hdir : ∀ segment ∈ dir, IsPathText segment) :
    parent dir = dir.dropLast := by
  unfold parent
  split
  · rename_i hnone
    rw [List.getLast?_eq_none_iff.mp hnone]
    rfl
  · rename_i last hlast
    have hpath := hdir last (List.mem_of_getLast? hlast)
    have hslash : IsPathText (last ++ ['/']) := hpath.append (by simp [IsPathText])
    rw [startsWithDriveLetter_eq_false (hslash.not_mem (by decide)) (hslash.not_mem (by decide))]
    rfl

theorem stepFrom_eq_push (hdir : ∀ segment ∈ dir, IsPathText segment) (h : IsPathText segment) :
    stepFrom false dir ⟨segment, false⟩ = push dir segment := by
  have hpercent : '%' ∉ segment := h.not_mem (by decide)
  unfold stepFrom push
  rw [parent_eq_dropLast hdir]
  simp only [isDoubleDot_iff hpercent, isSingleDot_iff hpercent]
  by_cases hsingle : segment = ['.']
  · simp [hsingle]
  · simp [hsingle, segmentsIn]

theorem mem_push {other : List Char} (h : other ∈ push dir segment) :
    other ∈ dir ∨ other = segment := by
  unfold push at h
  split at h
  · exact Or.inl h
  split at h
  · exact Or.inl ((List.dropLast_sublist dir).subset h)
  · exact (List.mem_append.mp h).imp_right List.mem_singleton.mp

/-- Nothing but what was there and what was pushed is there. -/
theorem mem_foldl_push (h : segment ∈ segments.foldl push dir) :
    segment ∈ dir ∨ segment ∈ segments := by
  induction segments generalizing dir with
  | nil => exact Or.inl h
  | cons first rest ih =>
    rcases ih h with hdir | hrest
    · exact (mem_push hdir).imp_right fun heq => List.mem_cons.mpr (Or.inl heq)
    · exact Or.inr (List.mem_cons_of_mem first hrest)

/-- A walk pushes the segments one by one; a dot segment at its end leaves a directory, which is
written with a slash. -/
theorem walk_eq_foldl_push (hdir : ∀ segment ∈ dir, IsPathText segment)
    (hsegments : ∀ segment ∈ segments, IsPathText segment) (hne : segments ≠ []) :
    walk false dir (segments.map fun segment => ⟨segment, false⟩) =
      segments.foldl push dir ++ if isDotText (segments.getLast hne) then [[]] else [] := by
  induction segments generalizing dir with
  | nil => exact absurd rfl hne
  | cons segment rest ih =>
    obtain ⟨hsegment, hrest⟩ := List.forall_mem_cons.mp hsegments
    cases rest with
    | nil =>
      rw [List.map_singleton, walk_singleton, stepFrom_eq_push hdir hsegment]
      simp only [Piece.isDots_eq, List.foldl_cons, List.foldl_nil, List.getLast_singleton]
      by_cases hdots : isDotText segment = true <;> simp [hdots]
    | cons next rest =>
      have hpushed : ∀ other ∈ push dir segment, IsPathText other := fun other hother =>
        (mem_push hother).elim (hdir other) fun heq => heq ▸ hsegment
      have hwalk := ih hpushed hrest (List.cons_ne_nil _ _)
      rw [List.map_cons] at hwalk
      rw [List.map_cons, List.map_cons, walk_cons_cons, stepFrom_eq_push hdir hsegment, hwalk,
        List.getLast_cons (List.cons_ne_nil _ _)]
      rfl

/-- Segments that are no dot segments stay, in order. -/
theorem foldl_push_of_undotted (h : ∀ segment ∈ segments, isDotText segment = false)
    (hpercent : ∀ segment ∈ segments, '%' ∉ segment) :
    segments.foldl push dir = dir ++ segments := by
  induction segments generalizing dir with
  | nil => exact (List.append_nil dir).symm
  | cons segment rest ih =>
    obtain ⟨hsegment, hrest⟩ := List.forall_mem_cons.mp h
    obtain ⟨hfirst, hothers⟩ := List.forall_mem_cons.mp hpercent
    have hdots := mt (isDotText_iff hfirst).mpr (Bool.eq_false_iff.mp hsegment)
    obtain ⟨hsingle, hdouble⟩ := not_or.mp hdots
    rw [List.foldl_cons, push, if_neg hsingle, if_neg hdouble, ih hrest hothers, List.append_assoc,
      List.singleton_append]

/-- A last segment that is no dot segment is entered. -/
theorem foldl_push_ne_nil (hlast : segments.getLast? = some segment)
    (hsingle : segment ≠ ['.']) (hdouble : segment ≠ ['.', '.']) :
    segments.foldl push dir ≠ [] := by
  obtain ⟨before, rfl⟩ := List.getLast?_eq_some_iff.mp hlast
  rw [List.foldl_append, List.foldl_cons, List.foldl_nil, push, if_neg hsingle, if_neg hdouble]
  exact List.append_ne_nil_of_right_ne_nil _ (List.cons_ne_nil _ _)

theorem head?_of_dropLast {α : Type} {list : List α} {first : α}
    (h : list.dropLast.head? = some first) : list.head? = some first := by
  obtain ⟨more, hmore⟩ := List.dropLast_prefix list
  obtain ⟨rest, hrest⟩ := List.head?_eq_some_iff.mp h
  rw [← hmore, hrest]
  rfl

/-- Where the first segment is not empty, it is not after others that are not empty were pushed. -/
theorem head?_foldl_push (hdir : dir.head? ≠ some []) (h : ∀ segment ∈ segments, segment ≠ []) :
    (segments.foldl push dir).head? ≠ some [] := by
  induction segments generalizing dir with
  | nil => exact hdir
  | cons segment rest ih =>
    obtain ⟨hsegment, hrest⟩ := List.forall_mem_cons.mp h
    refine ih ?_ hrest
    unfold push
    split
    · exact hdir
    split
    · exact fun hhead => hdir (head?_of_dropLast hhead)
    · cases dir with
      | nil => simpa using hsegment
      | cons first others => exact hdir

end SchemaTypes.Url
