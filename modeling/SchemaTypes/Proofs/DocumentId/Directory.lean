import SchemaTypes.Proofs.DocumentId.Plain
import SchemaTypes.Proofs.Url.Unreserved

set_option autoImplicit false

/-!
# References in a directory

A reference to another document is read in the directory of the document that it stands in.  Where
nothing in the two ids means anything but itself, that comes to the same as registering a document
under the directory and the reference put together, though the one joins URLs twice and the other
once: the segments of the reference are pushed on those of the directory.
-/

namespace SchemaTypes.DocumentId

open Url (IsPathText push isDotText walk)

variable {id document current text : List Char} {segments list : List (List Char)} {base : Url}

/-! ## Directories -/

/-- The part of an id up to its last slash; nothing if it has none. -/
def directory (id : List Char) : List Char :=
  match Text.splitLast? '/' id with
  | some (before, _) => before ++ ['/']
  | none => []

/-- What stands between the slashes of an id, but for a slash at its start. -/
def segmentsOf (id : List Char) : List (List Char) :=
  Text.split '/' (if isAbsolutePath id then id.tail else id)

/-- The segments of the directory of an id. -/
def directorySegments (id : List Char) : List (List Char) := (segmentsOf id).dropLast

theorem segmentsOf_slash (rest : List Char) : segmentsOf ('/' :: rest) = Text.split '/' rest := rfl

theorem segmentsOf_relative (h : isAbsolutePath id = false) :
    segmentsOf id = Text.split '/' id := by
  unfold segmentsOf
  rw [h, if_neg Bool.false_ne_true]

theorem directory_isPrefix (id : List Char) : directory id <+: id := by
  unfold directory
  split
  · rename_i before after hsplit
    obtain ⟨hid, -⟩ := Text.eq_of_splitLast? hsplit
    exact ⟨after, by rw [hid, List.append_assoc, List.singleton_append]⟩
  · exact List.nil_prefix

theorem directory_slash (rest : List Char) : directory ('/' :: rest) = '/' :: directory rest := by
  unfold directory
  rw [Text.splitLast?]
  cases Text.splitLast? '/' rest <;> rfl

/-- Where a text does not start with a slash, neither does what follows its directory. -/
theorem isAbsolutePath_append (hid : isAbsolutePath id = false)
    (hdocument : isAbsolutePath document = false) :
    isAbsolutePath (directory id ++ document) = false := by
  cases hdirectory : directory id with
  | nil => exact hdocument
  | cons c rest =>
    obtain ⟨more, hmore⟩ := directory_isPrefix id
    rw [hdirectory] at hmore
    rw [← hmore, List.cons_append, isAbsolutePath_cons] at hid
    rw [List.cons_append, isAbsolutePath_cons, hid]

/-- What follows a directory is split off from its segments. -/
theorem split_directory_append (id document : List Char) :
    Text.split '/' (directory id ++ document) =
      (Text.split '/' id).dropLast ++ Text.split '/' document := by
  unfold directory
  split
  · rename_i before after hsplit
    obtain ⟨hid, hafter⟩ := Text.eq_of_splitLast? hsplit
    rw [hid, Text.split_append_cons, Text.split_of_not_mem hafter, List.dropLast_concat,
      List.append_assoc, List.singleton_append, Text.split_append_cons]
  · rename_i hsplit
    rw [Text.split_of_not_mem (Text.not_mem_of_splitLast? hsplit)]
    rfl

/-! ## Paths that are joined -/

theorem isPathText_of_mem_segmentsOf (h : IsPathText id) :
    ∀ segment ∈ segmentsOf id, IsPathText segment := by
  intro segment hmem
  have hcore : IsPathText (if isAbsolutePath id then id.tail else id) := by
    split
    · exact fun c hc => h c (List.mem_of_mem_tail hc)
    · exact h
  exact hcore.of_mem_split hmem

theorem isPathText_of_mem_directorySegments (h : IsPathText id) :
    ∀ segment ∈ directorySegments id, IsPathText segment := fun segment hmem =>
  isPathText_of_mem_segmentsOf h segment ((List.dropLast_sublist _).subset hmem)

theorem dropSlash_eq (h : IsPathText id) :
    Url.dropSlash .special id = if isAbsolutePath id then id.tail else id := by
  cases id with
  | nil => rfl
  | cons c rest =>
    rw [Url.dropSlash_cons (h.not_ignored c List.mem_cons_self), h.isSlash_eq List.mem_cons_self,
      isAbsolutePath_cons]
    rfl

/-- A text that does not start with two slashes names no host. -/
theorem startsWithHost_eq (h : IsPathText text) :
    Url.startsWithHost .special text = (isAbsolutePath text && isAbsolutePath text.tail) := by
  match text with
  | [] => rfl
  | [c] => exact (Bool.and_false _).symm
  | c :: second :: rest =>
    have hsecond := h.isSlash_eq (List.mem_cons_of_mem c List.mem_cons_self)
    rw [Url.startsWithHost, h.isSlash_eq List.mem_cons_self, hsecond, List.tail_cons,
      isAbsolutePath_cons, isAbsolutePath_cons]

section Join

variable (hspecial : Url.Kind.of base.scheme = .special) (hpath : base.path = .segments list)

include hspecial hpath

/-- A text of a path has nothing in front of the path and nothing behind it. -/
theorem join?_eq_readRelative? (h : IsPathText text) :
    base.join? text = Url.readRelative? base text := by
  have hhead : text.head? ≠ some '#' := fun hhead =>
    h.not_mem (by decide) (List.mem_of_mem_head? hhead)
  unfold Url.join?
  rw [h.trim, h.splitScheme?]
  simp only [Url.readWithoutScheme?, Url.strip_eq_self h.not_ignored, Url.canBeBase, hpath,
    hspecial, if_neg hhead]
  rfl

/-- A relative text is walked along from the directory of the base. -/
theorem join?_relative (h : IsPathText text) (hne : text ≠ [])
    (hrelative : isAbsolutePath text = false) :
    base.join? text = some { base with
      path := .segments (walk false list.dropLast (Url.pieces .special text))
      query := none
      fragment := none } := by
  obtain ⟨c, rest, rfl⟩ := List.exists_cons_of_ne_nil hne
  have hback : c ≠ '\\' := by
    rintro rfl
    exact h.not_mem (by decide) List.mem_cons_self
  rw [isAbsolutePath_cons, decide_eq_false_iff_not] at hrelative
  have htail := Url.splitTail_of_not_mem .special (h.not_mem (by decide)) (h.not_mem (by decide))
  rw [join?_eq_readRelative? hspecial hpath h]
  simp [Url.readRelative?, hspecial, htail, hrelative, hback, Url.withPath, hpath, Url.Path.list,
    Url.pathFrom_eq_walk Url.Kind.special_ne_file]

/-- An absolute text is walked along from the root. -/
theorem join?_absolute {rest : List Char} (h : IsPathText ('/' :: rest))
    (hrest : isAbsolutePath rest = false) :
    base.join? ('/' :: rest) = some { base with
      path := .segments (walk false [] (Url.pieces .special rest))
      query := none
      fragment := none } := by
  have htail := Url.splitTail_of_not_mem .special (h.not_mem (by decide)) (h.not_mem (by decide))
  rw [join?_eq_readRelative? hspecial hpath h]
  unfold Url.readRelative?
  simp only [hspecial, htail]
  cases rest with
  | nil => simp [Url.withPath, Url.pathFrom_eq_walk Url.Kind.special_ne_file]
  | cons second rest =>
    have hback : second ≠ '\\' := by
      rintro rfl
      exact h.not_mem (by decide) (List.mem_cons_of_mem _ List.mem_cons_self)
    rw [isAbsolutePath_cons, decide_eq_false_iff_not] at hrest
    simp [hrest, hback, Url.withPath, Url.pathFrom_eq_walk Url.Kind.special_ne_file]

end Join

/-- On the fixed host a path is walked along from the root. -/
theorem join?_root (h : IsPathText id) (hhost : isAbsolutePath id = true →
      isAbsolutePath id.tail = false) :
    root.join? id = some { root with
      path := .segments
        (walk false [] ((segmentsOf id).map fun segment => ⟨segment, false⟩)) } := by
  have hspecial : Url.Kind.of root.scheme = .special := by decide
  cases id with
  | nil =>
    rw [join?_eq_readRelative? hspecial rfl h]
    rfl
  | cons c rest =>
    by_cases hc : c = '/'
    · subst hc
      have hrest : isAbsolutePath rest = false := hhost rfl
      have hcore : IsPathText rest := fun d hd => h d (List.mem_cons_of_mem _ hd)
      rw [join?_absolute hspecial rfl h hrest, hcore.pieces, segmentsOf_slash]
      rfl
    · have hrelative : isAbsolutePath (c :: rest) = false := by
        rw [isAbsolutePath_cons, decide_eq_false hc]
      rw [join?_relative hspecial rfl h (List.cons_ne_nil c rest) hrelative, h.pieces,
        segmentsOf_relative hrelative]
      rfl

/-- An id that is its own spelling is walked along without coming back, and so the directory that it
stands in is where references in it start. -/
theorem join?_current (h : IsPathText current) (hcurrent : canonicalChars? current = some current) :
    (isAbsolutePath current = true → isAbsolutePath current.tail = false) ∧
    (∀ segment ∈ segmentsOf current, isDotText segment = false) ∧
    root.join? current = some { root with path := .segments (segmentsOf current) } := by
  have hplain := IsPlain.of_canonical h.parse? hcurrent
  have hhost : isAbsolutePath current = true → isAbsolutePath current.tail = false := by
    intro habsolute
    have hunhosted := hplain.unhosted
    rwa [startsWithHost_eq h, habsolute, Bool.true_and] at hunhosted
  have hpieces : (Url.pieces .special (Url.dropSlash .special current)) =
      (segmentsOf current).map fun segment => ⟨segment, false⟩ := by
    have hcore : IsPathText (Url.dropSlash .special current) := fun c hc =>
      h c ((Url.dropSlash_sublist .special current).subset hc)
    rw [hcore.pieces, dropSlash_eq h, segmentsOf]
  have hundotted : ∀ piece ∈ (segmentsOf current).map fun segment => (⟨segment, false⟩ : Url.Piece),
      piece.isDots = false := hpieces ▸ hplain.undotted
  have hne : (segmentsOf current).map (fun segment => (⟨segment, false⟩ : Url.Piece)) ≠ [] := by
    rw [ne_eq, List.map_eq_nil_iff]
    exact Text.split_ne_nil _ _
  refine ⟨hhost, fun segment hmem => hundotted _ (List.mem_map_of_mem hmem), ?_⟩
  rw [join?_root h hhost, Url.walk_of_undotted (Or.inl rfl) hne hundotted, List.map_map,
    List.nil_append]
  exact congrArg (fun list => some { root with path := .segments list }) (List.map_id _)

/-- What follows the directory of an id is read from the segments of the directory, and is absolute
exactly if the id is. -/
theorem directory_append (hrelative : isAbsolutePath document = false)
    (hhost : isAbsolutePath current = true → isAbsolutePath current.tail = false) :
    segmentsOf (directory current ++ document) =
        directorySegments current ++ Text.split '/' document ∧
      isAbsolutePath (directory current ++ document) = isAbsolutePath current ∧
      (isAbsolutePath current = true →
        isAbsolutePath (directory current ++ document).tail = false) := by
  cases habsolute : isAbsolutePath current with
  | true =>
    obtain ⟨rest, rfl⟩ := List.head?_eq_some_iff.mp (of_decide_eq_true habsolute)
    rw [directory_slash, directorySegments, List.cons_append, segmentsOf_slash, segmentsOf_slash]
    exact ⟨split_directory_append rest document, rfl, fun _ =>
      isAbsolutePath_append (hhost habsolute) hrelative⟩
  | false =>
    have happend := isAbsolutePath_append habsolute hrelative
    rw [directorySegments, segmentsOf_relative happend, segmentsOf_relative habsolute]
    exact ⟨split_directory_append current document, happend, nofun⟩

/-! ## Plain paths of segments -/

/-- The plain path that segments make up. -/
def spelled (absolute : Bool) (segments : List (List Char)) : List Char :=
  (if absolute then ['/'] else []) ++ Text.join '/' segments

theorem text_segments_eq_join : ∀ {segments : List (List Char)}, segments ≠ [] →
    (Url.Path.segments segments).text = '/' :: Text.join '/' segments
  | [], hne => absurd rfl hne
  | [first], _ => by simp [Text.join]
  | first :: next :: rest, _ => by
    rw [Url.text_segments_cons, text_segments_eq_join (List.cons_ne_nil next rest), Text.join]

theorem isAbsolutePath_join (hstart : segments.head? ≠ some [])
    (h : ∀ segment ∈ segments, '/' ∉ segment) :
    isAbsolutePath (Text.join '/' segments) = false := by
  match segments, hstart, h with
  | [], _, _ => rfl
  | [] :: _, hstart, _ => exact absurd rfl hstart
  | (c :: first) :: rest, _, h =>
    have hc : c ≠ '/' := by
      rintro rfl
      exact h _ List.mem_cons_self List.mem_cons_self
    have hjoin : ∃ more, Text.join '/' ((c :: first) :: rest) = c :: more := by
      cases rest with
      | nil => exact ⟨first, rfl⟩
      | cons next rest => exact ⟨_, rfl⟩
    obtain ⟨more, hmore⟩ := hjoin
    rw [hmore, isAbsolutePath_cons, decide_eq_false hc]

/-- Slashes at the start of a plain path that is not absolute are those of empty segments. -/
theorem plainPath_eq_spelled {url : Url} (hpath : url.path = .segments segments)
    (hne : segments ≠ []) (h : ∀ segment ∈ segments, IsPathText segment)
    (hslash : ∀ segment ∈ segments, '/' ∉ segment) {absolute : Bool}
    (hstart : absolute = false → segments.head? ≠ some []) :
    plainPath absolute url = spelled absolute segments := by
  have hpercent : '%' ∉ (Url.Path.segments segments).text := by
    intro hmem
    rcases Url.mem_text_segments hmem with hc | ⟨segment, hsegment, hc⟩
    · exact absurd hc (by decide)
    · exact (h segment hsegment).not_mem (by decide) hc
  have hdecode : Percent.decode url.path.text = '/' :: Text.join '/' segments := by
    rw [hpath, Percent.decode_of_not_mem hpercent, text_segments_eq_join hne]
  unfold plainPath spelled
  simp only [hdecode]
  cases absolute with
  | true => rfl
  | false =>
    have hjoin := trimStart_slash (isAbsolutePath_join (hstart rfl) hslash)
    rw [if_neg Bool.false_ne_true, if_neg Bool.false_ne_true, List.nil_append]
    exact hjoin

/-! ## References in a directory -/

/-- The first segment of a text that does not start with a slash is empty only if nothing comes
after it. -/
theorem head?_directorySegments (h : isAbsolutePath id = false) :
    (directorySegments id).head? ≠ some [] := by
  intro hhead
  rw [directorySegments, segmentsOf_relative h] at hhead
  cases id with
  | nil => cases hhead
  | cons c rest =>
    rw [isAbsolutePath_cons, decide_eq_false_iff_not] at h
    have hfirst := Url.head?_of_dropLast hhead
    rw [Text.split, if_neg h] at hfirst
    split at hfirst <;> cases hfirst

/-- The directory of an id without dot segments is walked along as it stands. -/
theorem walk_directorySegments (hcurrent : IsPathText current)
    (hundotted : ∀ segment ∈ segmentsOf current, isDotText segment = false)
    (hdocument : IsPathText document) :
    walk false [] ((directorySegments current ++ Text.split '/' document).map
        fun segment => ⟨segment, false⟩) =
      walk false (directorySegments current)
        ((Text.split '/' document).map fun segment => ⟨segment, false⟩) := by
  have hsplit := Text.split_ne_nil '/' document
  have hdirectory := isPathText_of_mem_directorySegments hcurrent
  have hof : ∀ segment ∈ Text.split '/' document, IsPathText segment :=
    fun _ => hdocument.of_mem_split
  have hstays : (directorySegments current).foldl push [] = directorySegments current :=
    Url.foldl_push_of_undotted
      (fun segment hmem => hundotted segment ((List.dropLast_sublist _).subset hmem))
      (fun segment hmem => (hdirectory segment hmem).not_mem (by decide))
  rw [Url.walk_eq_foldl_push (fun _ hmem => absurd hmem List.not_mem_nil)
      (List.forall_mem_append.mpr ⟨hdirectory, hof⟩)
      (List.append_ne_nil_of_right_ne_nil _ hsplit),
    Url.walk_eq_foldl_push hdirectory hof hsplit, List.foldl_append, hstays,
    List.getLast_append_of_ne_nil _ hsplit]

/-- In the directory of an id that is its own spelling, a reference and what follows the directory
are read by the same walk. -/
theorem exists_relativeChars? (hdocument : IsPathText document) (hne : document ≠ [])
    (hrelative : isAbsolutePath document = false) (hcurrent : IsPathText current)
    (hcanonical : canonicalChars? current = some current) : ∃ url : Url,
    url.path = .segments (walk false (directorySegments current)
      ((Text.split '/' document).map fun segment => ⟨segment, false⟩)) ∧
    relativeChars? document current = some (plainPath (isAbsolutePath current) url) ∧
    canonicalChars? (directory current ++ document) =
      some (plainPath (isAbsolutePath current) url) := by
  obtain ⟨hhost, hundotted, hbase⟩ := join?_current hcurrent hcanonical
  obtain ⟨hsegments, habsolute, hunhosted⟩ := directory_append hrelative hhost
  have hspecial : Url.Kind.of root.scheme = .special := by decide
  refine ⟨{ root with path := .segments (walk false (directorySegments current)
    ((Text.split '/' document).map fun segment => ⟨segment, false⟩)) }, rfl, ?_, ?_⟩
  · have hjoin : ({ root with path := .segments (segmentsOf current) } : Url).join? document = _ :=
      join?_relative hspecial rfl hdocument hne hrelative
    rw [hdocument.pieces] at hjoin
    unfold relativeChars?
    simp only [hdocument.parse?, hcurrent.parse?, hrelative, Bool.false_eq_true, if_false, hbase,
      hjoin, Option.map_some]
    rfl
  · have hprefix : IsPathText (directory current) := fun c hc =>
      hcurrent c ((directory_isPrefix current).subset hc)
    have htext := hprefix.append hdocument
    have hjoin := join?_root htext (fun h => hunhosted (habsolute ▸ h))
    rw [hsegments, walk_directorySegments hcurrent hundotted hdocument] at hjoin
    unfold canonicalChars? ofPath?
    simp only [htext.parse?, hjoin, habsolute, Option.map_some]

/-- A reference to another document by a path that is not absolute, made in a document with an id
that is its own spelling: if there are only unreserved characters and slashes in the two, the
reference means just the id that a document registered under the directory and the reference put
together would get.  If moreover the reference has no empty segment and no dot segment at its end,
the segments of this id are those of the directory, on which those of the reference are pushed one
by one; and it is absolute exactly if the id of the document is. -/
theorem references_are_relative_to_directories (document current : String)
    (hdocument : IsPathText document.toList) (hne : document ≠ "")
    (hrelative : isAbsolutePath document.toList = false) (hcurrent : IsPathText current.toList)
    (hcanonical : canonical? current = some current) : ∃ id,
    relative? document current = some id ∧
    canonical? (String.ofList (directory current.toList) ++ document) = some id ∧
    ((∀ segment ∈ Text.split '/' document.toList, segment ≠ []) →
      (Text.split '/' document.toList).getLast? ≠ some ['.'] →
      (Text.split '/' document.toList).getLast? ≠ some ['.', '.'] →
      id = String.ofList (spelled (isAbsolutePath current.toList)
        ((Text.split '/' document.toList).foldl push (directorySegments current.toList)))) := by
  have hchars : document.toList ≠ [] := fun hnil => hne (String.toList_eq_nil_iff.mp hnil)
  obtain ⟨url, hpath, hrelativeId, hcanonicalId⟩ := exists_relativeChars? hdocument hchars hrelative
    hcurrent (canonical?_eq_some_iff.mp hcanonical)
  refine ⟨String.ofList (plainPath (isAbsolutePath current.toList) url), ?_, ?_, ?_⟩
  · unfold relative?
    rw [hrelativeId, Option.map_some]
  · rw [canonical?_eq_some_iff, String.toList_append, String.toList_ofList, String.toList_ofList]
    exact hcanonicalId
  · intro hnonempty hsingle hdouble
    have hsplit := Text.split_ne_nil '/' document.toList
    have hof : ∀ segment ∈ Text.split '/' document.toList, IsPathText segment :=
      fun _ => hdocument.of_mem_split
    have hdirectory := isPathText_of_mem_directorySegments hcurrent
    have hslash : ∀ segment ∈ directorySegments current.toList, '/' ∉ segment := fun segment hmem =>
      Text.not_mem_of_mem_split _ _ _ ((List.dropLast_sublist _).subset hmem)
    have hlast := List.getLast?_eq_some_getLast hsplit
    rw [hlast, ne_eq, Option.some.injEq] at hsingle hdouble
    have hdots : ¬ isDotText ((Text.split '/' document.toList).getLast hsplit) = true := fun h =>
      ((Url.isDotText_iff ((hof _ (List.getLast_mem hsplit)).not_mem (by decide))).mp h).elim
        hsingle hdouble
    rw [Url.walk_eq_foldl_push hdirectory hof hsplit, if_neg hdots, List.append_nil] at hpath
    congr 1
    refine plainPath_eq_spelled hpath (Url.foldl_push_ne_nil hlast hsingle hdouble)
      (fun segment hmem => ?_) (fun segment hmem => ?_) (fun habsolute => ?_)
    · exact (Url.mem_foldl_push hmem).elim (hdirectory segment) (hof segment)
    · exact (Url.mem_foldl_push hmem).elim (hslash segment) (Text.not_mem_of_mem_split _ _ _)
    · exact Url.head?_foldl_push (head?_directorySegments habsolute) hnonempty

/-- A reference to a file in a directory beside that of the document. -/
theorem references_are_relative_to_directories_beside :
    canonical? "specs/v1/api.yaml" = some "specs/v1/api.yaml" ∧
      relative? "../shared/./types.json" "specs/v1/api.yaml" = some "specs/shared/types.json" ∧
      canonical? "specs/v1/../shared/./types.json" = some "specs/shared/types.json" := by
  have hcanonical : canonical? "specs/v1/api.yaml" = some "specs/v1/api.yaml" := by decide +kernel
  have hdocument : IsPathText "../shared/./types.json".toList := by decide +kernel
  have hcurrent : IsPathText "specs/v1/api.yaml".toList := by decide +kernel
  obtain ⟨id, hrelative, hjoined, hsegments⟩ := references_are_relative_to_directories
    "../shared/./types.json" "specs/v1/api.yaml" hdocument (by decide) (by decide) hcurrent
    hcanonical
  have hid := hsegments (by decide +kernel) (by decide +kernel) (by decide +kernel)
  have hspelled : String.ofList (spelled (isAbsolutePath "specs/v1/api.yaml".toList)
      ((Text.split '/' "../shared/./types.json".toList).foldl push
        (directorySegments "specs/v1/api.yaml".toList))) = "specs/shared/types.json" := by
    decide +kernel
  have hdirectory : String.ofList (directory "specs/v1/api.yaml".toList) ++
      "../shared/./types.json" = "specs/v1/../shared/./types.json" := by
    decide +kernel
  rw [hspelled] at hid
  rw [hdirectory] at hjoined
  exact ⟨hcanonical, hid ▸ hrelative, hid ▸ hjoined⟩

end SchemaTypes.DocumentId
