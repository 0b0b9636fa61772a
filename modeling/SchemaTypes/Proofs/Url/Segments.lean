import SchemaTypes.Proofs.Url.Escapes
import SchemaTypes.Proofs.Url.Paths

set_option autoImplicit false

/-!
# Segments

What a path is made of: segments that are escaped, hold no slash and, outside of file URLs, are no
dot pieces.  Such segments are read back from the text of the path.
-/

namespace SchemaTypes.Url

/-- Whether a text between slashes stands for no segment. -/
def isDotText (text : List Char) : Bool := Piece.isDots ⟨text, false⟩

theorem Piece.isDots_eq (piece : Piece) : piece.isDots = isDotText piece.text := rfl

/-- A segment that paths of a kind can have. -/
structure IsSegment (kind : Kind) (segment : List Char) : Prop where
  clean : Percent.Clean pathSet segment
  whole : ∀ c ∈ segment, isSlash kind c = false

theorem isSegment_nil (kind : Kind) : IsSegment kind [] where
  clean := nofun
  whole := nofun

theorem mem_text_segments {list : List (List Char)} {c : Char}
    (h : c ∈ (Path.segments list).text) : c = '/' ∨ ∃ segment ∈ list, c ∈ segment := by
  obtain ⟨segment, hsegment, hc⟩ := List.mem_flatMap.mp h
  rcases List.mem_cons.mp hc with rfl | hc
  · exact Or.inl rfl
  · exact Or.inr ⟨segment, hsegment, hc⟩

/-! ## Segments that are read -/

theorem mem_parent {dir : List (List Char)} {segment : List Char} (h : segment ∈ parent dir) :
    segment ∈ dir := by
  unfold parent at h
  split at h
  · cases h
  · split at h
    · exact h
    · exact List.dropLast_subset _ h

theorem mem_stepFrom {file : Bool} {dir : List (List Char)} {piece : Piece} {segment : List Char}
    (h : segment ∈ stepFrom file dir piece) :
    segment ∈ dir ∨ piece.isDots = false ∧ segment ∈ segmentsIn file dir piece := by
  cases hdots : piece.isDots with
  | false =>
    rw [stepFrom_of_undotted hdots] at h
    exact (List.mem_append.mp h).imp_right fun hmem => ⟨rfl, hmem⟩
  | true =>
    left
    unfold stepFrom at h
    split at h
    · exact mem_parent h
    · rename_i hdouble
      have hsingle : piece.isSingleDot = true := by simpa [Piece.isDots, hdouble] using hdots
      rwa [if_pos hsingle] at h

/-- A walk comes to segments of the directory, to empty ones and to those of its pieces. -/
theorem mem_walk {file : Bool} {dir : List (List Char)} {along : List Piece} {segment : List Char}
    (h : segment ∈ walk file dir along) : segment ∈ dir ∨ segment = [] ∨
      ∃ piece ∈ along, piece.isDots = false ∧ ∃ above, segment ∈ segmentsIn file above piece := by
  have hconcat : ∀ {dir : List (List Char)}, segment ∈ dir ++ [[]] → segment ∈ dir ∨ segment = [] :=
    fun h => (List.mem_append.mp h).imp_right List.mem_singleton.mp
  induction along generalizing dir with
  | nil => exact (hconcat h).imp_right Or.inl
  | cons piece rest ih =>
    have hstep : segment ∈ stepFrom file dir piece → segment ∈ dir ∨ segment = [] ∨
        ∃ found ∈ piece :: rest, found.isDots = false ∧
          ∃ above, segment ∈ segmentsIn file above found := by
      intro hmem
      rcases mem_stepFrom hmem with hdir | ⟨hdots, hpiece⟩
      · exact Or.inl hdir
      · exact Or.inr (Or.inr ⟨piece, List.mem_cons_self, hdots, dir, hpiece⟩)
    cases rest with
    | nil =>
      rw [walk_singleton] at h
      split at h
      · rcases hconcat h with hmem | hnil
        · exact hstep hmem
        · exact Or.inr (Or.inl hnil)
      · exact hstep h
    | cons next rest =>
      rw [walk_cons_cons] at h
      rcases ih h with hmem | hnil | ⟨found, hfound, hmore⟩
      · exact hstep hmem
      · exact Or.inr (Or.inl hnil)
      · exact Or.inr (Or.inr ⟨found, List.mem_cons_of_mem _ hfound, hmore⟩)

/-- The characters of a segment are those of its piece; only a drive letter gets a colon. -/
theorem mem_of_mem_segmentsIn {file : Bool} {above : List (List Char)} {piece : Piece}
    {segment : List Char} (h : segment ∈ segmentsIn file above piece) {c : Char}
    (hc : c ∈ segment) :
    c ∈ piece.text ∨ c = ':' := by
  have hself : segment ∈ [piece.text] → c ∈ piece.text ∨ c = ':' := fun hmem =>
    Or.inl (List.mem_singleton.mp hmem ▸ hc)
  unfold segmentsIn at h
  split at h
  · unfold rootSegments at h
    split at h
    · rename_i letter mark htext
      split at h
      · rw [List.mem_singleton.mp h] at hc
        rw [htext]
        rcases List.mem_cons.mp hc with rfl | hc
        · exact Or.inl List.mem_cons_self
        · exact Or.inr (List.mem_singleton.mp hc)
      · exact hself h
    · rename_i letter mark rest _ htext
      split at h
      · left
        rw [htext]
        rcases List.mem_cons.mp h with rfl | h
        · rcases List.mem_cons.mp hc with rfl | hc
          · exact List.mem_cons_self
          · rw [List.mem_singleton.mp hc]
            exact List.mem_cons_of_mem _ List.mem_cons_self
        · rw [List.mem_singleton.mp h] at hc
          exact List.mem_cons_of_mem _ (List.mem_cons_of_mem _ hc)
      · exact hself h
    · exact hself h
  · exact hself h

/-- Between slashes there are no slashes. -/
theorem whole_of_mem_pieces {kind : Kind} {text : List Char} {piece : Piece}
    (h : piece ∈ pieces kind text) {c : Char} (hc : c ∈ piece.text) : isSlash kind c = false := by
  obtain ⟨raw, hraw, rfl⟩ := List.mem_map.mp h
  have hnot : '/' ∉ raw := Text.not_mem_of_mem_split _ _ _ hraw
  have hsource : ∀ d ∈ raw, d ∈ withSlashes kind text := by
    intro d hd
    have hmem : d ∈ (Path.segments (Text.split '/' (withSlashes kind text))).text :=
      List.mem_flatMap.mpr ⟨raw, hraw, List.mem_cons_of_mem _ hd⟩
    rw [text_segments_split] at hmem
    rcases List.mem_cons.mp hmem with rfl | hmem
    · exact absurd hd hnot
    · exact hmem
  rcases Percent.mem_encode hc with ⟨hmem, -⟩ | rfl | ⟨n, hn, rfl⟩
  · have hd := (strip_sublist raw).subset hmem
    obtain ⟨d, -, hdc⟩ := List.mem_map.mp (hsource c hd)
    split at hdc
    · subst hdc
      exact absurd hd hnot
    · rename_i hslash
      subst hdc
      simpa using hslash
  · cases kind <;> rfl
  · have hdigits : ∀ m < 16, isSlash kind (Hex.upperDigit m) = false := by
      cases kind <;> decide +kernel
    exact hdigits n hn

theorem isSegment_of_mem_walk {kind : Kind} {file : Bool} {text segment : List Char}
    (h : segment ∈ walk file [] (pieces kind text)) : IsSegment kind segment := by
  rcases mem_walk h with hdir | rfl | ⟨piece, hpiece, -, above, hmem⟩
  · cases hdir
  · exact isSegment_nil kind
  · have hclean : Percent.Clean pathSet piece.text := by
      obtain ⟨raw, -, rfl⟩ := List.mem_map.mp hpiece
      exact Percent.clean_encode isPartSet_pathSet.toKeepsEscapes _
    refine ⟨fun c hc => ?_, fun c hc => ?_⟩
    · rcases mem_of_mem_segmentsIn hmem hc with hc | rfl
      · exact hclean c hc
      · decide
    · rcases mem_of_mem_segmentsIn hmem hc with hc | rfl
      · exact whole_of_mem_pieces hpiece hc
      · cases kind <;> rfl

theorem mem_trimRoot {list : List (List Char)} {segment : List Char} (h : segment ∈ trimRoot list) :
    segment ∈ list ∨ segment = [] := by
  unfold trimRoot at h
  split at h
  · exact Or.inr (List.mem_singleton.mp h)
  · exact Or.inl ((List.dropWhile_sublist _).subset h)

/-- What a path is read as are segments that paths of its kind can have. -/
theorem isSegment_of_mem_pathFrom {kind : Kind} {text segment : List Char}
    (h : segment ∈ pathFrom kind [] text) : IsSegment kind segment := by
  unfold pathFrom at h
  simp only at h
  split at h
  · rcases mem_trimRoot h with hmem | rfl
    · exact isSegment_of_mem_walk hmem
    · exact isSegment_nil kind
  · exact isSegment_of_mem_walk h

/-- Outside of file URLs dot pieces are folded. -/
theorem undotted_of_mem_pathFrom {kind : Kind} (hkind : kind ≠ .file) {text segment : List Char}
    (h : segment ∈ pathFrom kind [] text) : isDotText segment = false := by
  rw [pathFrom_eq_walk hkind] at h
  rcases mem_walk h with hdir | rfl | ⟨piece, -, hdots, above, hmem⟩
  · cases hdir
  · rfl
  · rwa [List.mem_singleton.mp hmem, ← Piece.isDots_eq]

theorem pathFrom_ne_nil {kind : Kind} (hkind : kind ≠ .file) (text : List Char) :
    pathFrom kind [] text ≠ [] := by
  obtain ⟨raw, hraw, -⟩ := exists_pathFrom hkind text
  intro hnil
  rw [hnil] at hraw
  cases hraw

/-! ## Segments read back -/

theorem startIsParted_of_not_ignored {text : List Char} (h : ∀ c ∈ text, isIgnored c = false) :
    startIsParted text = false := by
  match text, h with
  | [], _ => rfl
  | [c], h =>
    have hc := h c List.mem_cons_self
    simp [startIsParted, hc]
  | c :: d :: more, h =>
    obtain ⟨hc, hd, hmore⟩ : isIgnored c = false ∧ isIgnored d = false ∧
        ∀ e ∈ more, isIgnored e = false := by simpa using h
    cases more with
    | nil => simp [startIsParted, hc, hd]
    | cons e more =>
      have he := hmore e List.mem_cons_self
      simp [startIsParted, hc, hd, he]

theorem IsSegment.not_slash {kind : Kind} {segment : List Char} (h : IsSegment kind segment) :
    '/' ∉ segment := fun hmem => absurd (h.whole '/' hmem) (by cases kind <;> decide)

/-- Segments are told apart by the slashes of their text. -/
theorem text_segments_inj {kind : Kind} {first second : List (List Char)}
    (hfirst : ∀ segment ∈ first, IsSegment kind segment)
    (hsecond : ∀ segment ∈ second, IsSegment kind segment)
    (h : (Path.segments first).text = (Path.segments second).text) : first = second := by
  have hsplit : ∀ {list : List (List Char)}, (∀ segment ∈ list, IsSegment kind segment) →
      Text.split '/' (Path.segments list).text = [] :: list := fun hlist =>
    Text.split_append_flatMap List.not_mem_nil fun segment hsegment =>
      (hlist segment hsegment).not_slash
  have hlists := congrArg (Text.split '/') h
  rw [hsplit hfirst, hsplit hsecond] at hlists
  exact List.tail_eq_of_cons_eq hlists

section Join

variable {kind : Kind} {first : List Char} {rest : List (List Char)}
  (h : ∀ segment ∈ first :: rest, IsSegment kind segment)

include h

/-- Segments are found between the slashes of their text. -/
theorem pieces_join : pieces kind (first ++ (Path.segments rest).text) =
    (first :: rest).map fun segment => ⟨segment, false⟩ := by
  have hwhole : ∀ segment ∈ first :: rest, '/' ∉ segment := fun segment hsegment =>
    (h segment hsegment).not_slash
  have hslashes : withSlashes kind (first ++ (Path.segments rest).text) =
      first ++ (Path.segments rest).text := by
    have hkept : ∀ c ∈ first ++ (Path.segments rest).text,
        (if isSlash kind c then '/' else c) = c := by
      intro c hc
      have htext : c ∈ (Path.segments (first :: rest)).text := by
        rw [text_segments_cons]
        exact List.mem_cons_of_mem _ hc
      rcases mem_text_segments htext with rfl | ⟨segment, hsegment, hmem⟩
      · exact ite_self _
      · rw [(h segment hsegment).whole c hmem]
        rfl
    unfold withSlashes
    rw [List.map_congr_left hkept]
    exact List.map_id' _
  have hpiece : ∀ segment ∈ first :: rest, Piece.ofText segment = ⟨segment, false⟩ := by
    intro segment hsegment
    have hclean := (h segment hsegment).clean
    have hignored : ∀ c ∈ segment, isIgnored c = false := fun _ hc =>
      not_ignored_of_printable (isPartSet_pathSet.printable hclean hc).1
    unfold Piece.ofText
    rw [strip_eq_self hignored, Percent.encode_of_clean hclean,
      startIsParted_of_not_ignored hignored]
  obtain ⟨hfirst, hrest⟩ := List.forall_mem_cons.mp hwhole
  change (Text.split '/' (withSlashes kind _)).map Piece.ofText = _
  rw [hslashes]
  have hsplit := Text.split_append_flatMap hfirst hrest
  change Text.split '/' (first ++ (Path.segments rest).text) = _ at hsplit
  rw [hsplit]
  exact List.map_congr_left hpiece

/-- Segments that are no dot pieces are read back from their text. -/
theorem pathFrom_join (hkind : kind ≠ .file)
    (hundotted : ∀ segment ∈ first :: rest, isDotText segment = false) :
    pathFrom kind [] (first ++ (Path.segments rest).text) = first :: rest := by
  rw [pathFrom_eq_walk hkind, pieces_join h, walk_of_undotted (Or.inl rfl) (by simp)]
  · rw [List.map_map]
    exact List.map_id _
  · intro piece hpiece
    obtain ⟨segment, hsegment, rfl⟩ := List.mem_map.mp hpiece
    exact hundotted segment hsegment

end Join

end SchemaTypes.Url
