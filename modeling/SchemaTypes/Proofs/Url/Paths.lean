import SchemaTypes.Proofs.Text.Decoding
import SchemaTypes.Proofs.Url.Parts

set_option autoImplicit false

/-!
# Walking along paths

Outside of file URLs a walk keeps every piece, or it meets a dot piece and comes to something
shorter.  So the text of a path, before its characters are escaped, is the text that was read with
its slashes put right, or it is shorter than that.
-/

namespace SchemaTypes.Url

/-! ## Texts of paths -/

/-- A text in which every character that ends a path segment is a slash. -/
def withSlashes (kind : Kind) (text : List Char) : List Char :=
  text.map fun c => if isSlash kind c then '/' else c

theorem length_withSlashes (kind : Kind) (text : List Char) :
    (withSlashes kind text).length = text.length := List.length_map _

/-- Segments are escaped one by one, since slashes are not. -/
theorem text_segments_map_encode (raws : List (List Char)) :
    (Path.segments (raws.map (Percent.encode pathSet))).text =
      Percent.encode pathSet (Path.segments raws).text := by
  induction raws with
  | nil => rfl
  | cons raw rest ih =>
    simp only [Path.text, List.map_cons, List.flatMap_cons] at ih ⊢
    have hslash : Percent.encode pathSet ('/' :: raw) = '/' :: Percent.encode pathSet raw := rfl
    rw [ih, ← hslash]
    unfold Percent.encode
    rw [List.flatMap_append]

@[simp] theorem text_segments_nil : (Path.segments []).text = [] := rfl

@[simp] theorem text_segments_cons (first : List Char) (rest : List (List Char)) :
    (Path.segments (first :: rest)).text = '/' :: (first ++ (Path.segments rest).text) := rfl

theorem text_segments_append (first second : List (List Char)) :
    (Path.segments (first ++ second)).text =
      (Path.segments first).text ++ (Path.segments second).text := List.flatMap_append

/-- What lies between slashes makes up the text. -/
theorem text_segments_split (text : List Char) :
    (Path.segments (Text.split '/' text)).text = '/' :: text := by
  induction text with
  | nil => rfl
  | cons c rest ih =>
    rw [Text.split]
    split
    · rename_i hc
      rw [text_segments_cons, ih, hc, List.nil_append]
    · split
      · rename_i piece pieces hsplit
        rw [hsplit, text_segments_cons, List.cons.injEq] at ih
        rw [text_segments_cons, List.cons_append, ih.2]
      · rename_i hsplit
        exact absurd hsplit (Text.split_ne_nil '/' rest)

/-- The directory above one with escaped segments has escaped segments, and is no longer. -/
theorem exists_parent (dir : List (List Char)) :
    ∃ above, parent (dir.map (Percent.encode pathSet)) = above.map (Percent.encode pathSet) ∧
      (Path.segments above).text.length ≤ (Path.segments dir).text.length := by
  unfold parent
  split
  · exact ⟨[], rfl, Nat.zero_le _⟩
  · split
    · exact ⟨dir, rfl, Nat.le_refl _⟩
    · refine ⟨dir.dropLast, by rw [List.map_dropLast], ?_⟩
      rcases List.eq_nil_or_concat dir with rfl | ⟨before, last, rfl⟩
      · exact Nat.le_refl _
      · rw [List.concat_eq_append, List.dropLast_concat, text_segments_append, List.length_append]
        omega

/-! ## Dot pieces -/

/-- A piece that stands for no segment. -/
def Piece.isDots (piece : Piece) : Bool := piece.isSingleDot || piece.isDoubleDot

theorem Piece.text_ne_nil {piece : Piece} (h : piece.isDots = true) : piece.text ≠ [] := by
  intro hempty
  simp [isDots, isSingleDot, isDoubleDot, hempty] at h

/-- Where a piece leads to from a directory. -/
def stepFrom (file : Bool) (dir : List (List Char)) (piece : Piece) : List (List Char) :=
  if piece.isDoubleDot then parent dir
  else if piece.isSingleDot then dir
  else dir ++ segmentsIn file dir piece

theorem walk_singleton (file : Bool) (dir : List (List Char)) (piece : Piece) :
    walk file dir [piece] =
      if piece.isDots then stepFrom file dir piece ++ [[]] else stepFrom file dir piece := by
  unfold walk Piece.isDots stepFrom
  cases piece.isDoubleDot <;> cases piece.isSingleDot <;> rfl

theorem walk_cons_cons (file : Bool) (dir : List (List Char)) (piece next : Piece)
    (rest : List Piece) :
    walk file dir (piece :: next :: rest) = walk file (stepFrom file dir piece) (next :: rest) := by
  rw [walk]
  unfold stepFrom
  cases piece.isDoubleDot <;> cases piece.isSingleDot <;> rfl

theorem stepFrom_of_undotted {piece : Piece} (h : piece.isDots = false) (file : Bool)
    (dir : List (List Char)) : stepFrom file dir piece = dir ++ segmentsIn file dir piece := by
  obtain ⟨hsingle, hdouble⟩ := Bool.or_eq_false_iff.mp h
  simp [stepFrom, hsingle, hdouble]

/-- Where no piece is a dot piece, a walk keeps all of them; at the root of a file path a piece may
be a drive letter. -/
theorem walk_of_undotted {file : Bool} {dir : List (List Char)} {along : List Piece}
    (hdir : file = false ∨ dir ≠ []) (hne : along ≠ [])
    (h : ∀ piece ∈ along, piece.isDots = false) :
    walk file dir along = dir ++ along.map Piece.text := by
  induction along generalizing dir with
  | nil => exact absurd rfl hne
  | cons piece rest ih =>
    obtain ⟨hpiece, hrest⟩ := List.forall_mem_cons.mp h
    have hstep : stepFrom file dir piece = dir ++ [piece.text] := by
      rw [stepFrom_of_undotted hpiece]
      unfold segmentsIn
      rcases hdir with rfl | hdir
      · rfl
      · rw [if_neg (by simp [hdir])]
    cases rest with
    | nil => simp [walk_singleton, hpiece, hstep]
    | cons next rest =>
      rw [walk_cons_cons, hstep, ih (Or.inr (by simp)) (List.cons_ne_nil _ _) hrest,
        List.append_assoc]
      rfl

/-- A step along an escaped piece keeps it, or it leads to something shorter. -/
theorem exists_stepFrom {piece : Piece} {raw : List Char}
    (h : piece.text = Percent.encode pathSet raw) (dir : List (List Char)) :
    ∃ next, stepFrom false (dir.map (Percent.encode pathSet)) piece =
        next.map (Percent.encode pathSet) ∧
      (next = dir ++ [raw] ∧ piece.isDots = false ∨
        piece.isDots = true ∧
          (Path.segments next).text.length < (Path.segments dir).text.length + raw.length) := by
  cases hdots : piece.isDots with
  | false =>
    refine ⟨dir ++ [raw], ?_, Or.inl ⟨rfl, rfl⟩⟩
    rw [stepFrom_of_undotted hdots, List.map_append, List.map_singleton, ← h]
    rfl
  | true =>
    have hraw : 0 < raw.length := by
      rw [List.length_pos_iff]
      rintro rfl
      exact piece.text_ne_nil hdots h
    obtain ⟨above, habove, hlength⟩ := exists_parent dir
    unfold stepFrom
    split
    · exact ⟨above, habove, Or.inr ⟨rfl, by omega⟩⟩
    · rename_i hdouble
      have hsingle : piece.isSingleDot = true := by
        simpa [Piece.isDots, hdouble] using hdots
      rw [if_pos hsingle]
      exact ⟨dir, rfl, Or.inr ⟨rfl, by omega⟩⟩

/-- A walk along escaped pieces keeps them all, or it comes to something shorter. -/
theorem exists_walk {along : List Piece} {raws : List (List Char)} (hne : along ≠ [])
    (h : along.map Piece.text = raws.map (Percent.encode pathSet)) (dir : List (List Char)) :
    ∃ out, walk false (dir.map (Percent.encode pathSet)) along =
        out.map (Percent.encode pathSet) ∧ out ≠ [] ∧
      (out = dir ++ raws ∧ (∀ piece ∈ along, piece.isDots = false) ∨
        (Path.segments out).text.length <
          (Path.segments dir).text.length + (Path.segments raws).text.length) := by
  induction along generalizing raws dir with
  | nil => exact absurd rfl hne
  | cons piece rest ih =>
    obtain ⟨raw, others, rfl, hpiece, hrest⟩ := List.map_eq_cons_iff.mp h.symm
    obtain ⟨next, hstep, hnext⟩ := exists_stepFrom hpiece.symm dir
    cases rest with
    | nil =>
      obtain rfl := List.map_eq_nil_iff.mp hrest
      rcases hnext with ⟨rfl, hdots⟩ | ⟨hdots, hlt⟩
      · refine ⟨dir ++ [raw], ?_, by simp, Or.inl ⟨rfl, by simpa using hdots⟩⟩
        simp only [walk_singleton, hdots, Bool.false_eq_true, if_false, hstep]
      · refine ⟨next ++ [[]], ?_, by simp, Or.inr ?_⟩
        · simp only [walk_singleton, hdots, if_true, hstep, List.map_append]
          rfl
        · simp [text_segments_append]
          omega
    | cons second rest =>
      obtain ⟨out, hout, houtNe, hkept⟩ := ih (List.cons_ne_nil _ _) hrest.symm next
      rw [← hstep, ← walk_cons_cons] at hout
      refine ⟨out, hout, houtNe, ?_⟩
      rcases hnext with ⟨rfl, hdots⟩ | ⟨-, hlt⟩
      · rcases hkept with ⟨rfl, hundotted⟩ | hlt
        · exact Or.inl ⟨by simp, List.forall_mem_cons.mpr ⟨hdots, hundotted⟩⟩
        · right
          simp [text_segments_append] at hlt ⊢
          omega
      · right
        rcases hkept with ⟨rfl, -⟩ | hshort
        · simp [text_segments_append]
          omega
        · simp
          omega

/-! ## Reading a path -/

theorem dropSlash_cons {kind : Kind} {c : Char} (h : isIgnored c = false) (rest : List Char) :
    dropSlash kind (c :: rest) = if isSlash kind c then rest else c :: rest := by
  unfold dropSlash
  rw [List.dropWhile_cons_of_neg (by simp [h])]

theorem dropSlash_sublist (kind : Kind) (text : List Char) :
    (dropSlash kind text).Sublist text := by
  unfold dropSlash
  split
  · rename_i c rest hdrop
    split
    · have hrest : rest.Sublist (c :: rest) := List.sublist_cons_self c rest
      rw [← hdrop] at hrest
      exact hrest.trans (List.dropWhile_sublist _)
    · exact List.Sublist.refl _
  · exact List.nil_sublist _

theorem text_segments_map_strip (list : List (List Char)) :
    (Path.segments (list.map strip)).text = strip (Path.segments list).text := by
  induction list with
  | nil => rfl
  | cons first rest ih =>
    rw [List.map_cons, text_segments_cons, text_segments_cons, ih, ← strip_append]
    rfl

/-- What the pieces of a path are before they are escaped. -/
def rawPieces (kind : Kind) (text : List Char) : List (List Char) :=
  (Text.split '/' (withSlashes kind text)).map strip

theorem pieces_map_text (kind : Kind) (text : List Char) :
    (pieces kind text).map Piece.text = (rawPieces kind text).map (Percent.encode pathSet) := by
  unfold pieces rawPieces
  rw [List.map_map, List.map_map]
  rfl

theorem pieces_ne_nil (kind : Kind) (text : List Char) : pieces kind text ≠ [] := by
  unfold pieces
  rw [ne_eq, List.map_eq_nil_iff]
  exact Text.split_ne_nil _ _

theorem text_rawPieces (kind : Kind) (text : List Char) :
    (Path.segments (rawPieces kind text)).text = '/' :: strip (withSlashes kind text) := by
  unfold rawPieces
  rw [text_segments_map_strip, text_segments_split]
  rfl

theorem Kind.special_ne_file : Kind.special ≠ .file := nofun

section Reading

variable {kind : Kind} (hkind : kind ≠ .file)

include hkind

theorem pathFrom_eq_walk (dir : List (List Char)) (text : List Char) :
    pathFrom kind dir text = walk false dir (pieces kind text) := by
  unfold pathFrom
  simp [hkind]

/-- A text without dot pieces is read as its pieces. -/
theorem pathFrom_of_undotted {text : List Char}
    (h : ∀ piece ∈ pieces kind text, piece.isDots = false) :
    (Path.segments (pathFrom kind [] text)).text =
      Percent.encode pathSet ('/' :: strip (withSlashes kind text)) := by
  rw [pathFrom_eq_walk hkind, walk_of_undotted (Or.inl rfl) (pieces_ne_nil kind text) h,
    List.nil_append, pieces_map_text, text_segments_map_encode, text_rawPieces]

/-- A text is read as its pieces, or as something shorter. -/
theorem exists_pathFrom (text : List Char) : ∃ raw,
    (Path.segments (pathFrom kind [] text)).text = Percent.encode pathSet ('/' :: raw) ∧
      raw.length ≤ text.length ∧
      (raw = strip (withSlashes kind text) ∧ (∀ piece ∈ pieces kind text, piece.isDots = false) ∨
        raw.length < text.length) := by
  have hstrip := (strip_sublist (withSlashes kind text)).length_le
  rw [length_withSlashes] at hstrip
  obtain ⟨out, hout, hne, hkept⟩ :=
    exists_walk (pieces_ne_nil kind text) (pieces_map_text kind text) []
  rw [pathFrom_eq_walk hkind]
  obtain ⟨first, rest, rfl⟩ := List.exists_cons_of_ne_nil hne
  refine ⟨first ++ (Path.segments rest).text, ?_, ?_⟩
  · rw [List.map_nil] at hout
    rw [hout, text_segments_map_encode, text_segments_cons]
  · rcases hkept with ⟨heq, hundotted⟩ | hlt
    · rw [List.nil_append] at heq
      have htext := text_rawPieces kind text
      rw [← heq, text_segments_cons, List.cons.injEq] at htext
      exact ⟨htext.2 ▸ hstrip, Or.inl ⟨htext.2, hundotted⟩⟩
    · rw [text_rawPieces] at hlt
      simp only [text_segments_nil, text_segments_cons, List.length_cons, List.length_nil] at hlt
      exact ⟨by omega, Or.inr (by omega)⟩

end Reading

end SchemaTypes.Url
