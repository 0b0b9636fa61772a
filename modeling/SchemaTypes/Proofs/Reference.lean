import SchemaTypes.Proofs.Text.Escapes
import SchemaTypes.Proofs.Text.Splitting
import SchemaTypes.Reference

set_option autoImplicit false

/-!
# Canonical forms

A written token holds neither `/` nor `#` and is read back as the token.  Hence the written pointer
determines the path, and the canonical form, of which the pointer is all that follows the last `#`,
determines the reference.  A written pointer is read back as its path, and so is a canonical form as
its reference, where the document is one that can be written and means itself.
-/

namespace SchemaTypes

/-! ## Tokens -/

namespace Pointer

/-- One character of a token with `~` spelt out but not `/`. -/
def escapeTilde (c : Char) : List Char := if c = '~' then ['~', '0'] else [c]

/-- Undoing `~1` first leaves `~` spelt out. -/
theorem replacePair_escapeChar (token : List Char) :
    Text.replacePair '~' '1' '/' (token.flatMap escapeChar) = token.flatMap escapeTilde := by
  induction token with
  | nil => rfl
  | cons c rest ih =>
    rw [List.flatMap_cons, List.flatMap_cons, ← ih]
    unfold escapeChar escapeTilde
    by_cases htilde : c = '~'
    · simp only [if_pos htilde, List.cons_append, List.nil_append]
      rw [Text.replacePair_cons_cons_of_ne (by decide), Text.replacePair_cons_of_ne (by decide)]
    · by_cases hslash : c = '/'
      · simp only [if_neg htilde, if_pos hslash, List.cons_append, List.nil_append]
        rw [Text.replacePair_pair, hslash]
      · simp only [if_neg htilde, if_neg hslash, List.cons_append, List.nil_append]
        rw [Text.replacePair_cons_of_ne htilde]

theorem replacePair_escapeTilde (token : List Char) :
    Text.replacePair '~' '0' '~' (token.flatMap escapeTilde) = token := by
  induction token with
  | nil => rfl
  | cons c rest ih =>
    rw [List.flatMap_cons]
    unfold escapeTilde at ih ⊢
    by_cases htilde : c = '~'
    · simp only [if_pos htilde, List.cons_append, List.nil_append]
      rw [Text.replacePair_pair, ih, htilde]
    · simp only [if_neg htilde, List.cons_append, List.nil_append]
      rw [Text.replacePair_cons_of_ne htilde, ih]

/-- A token is read back from its written form. -/
theorem decodeChars_encodeChars (token : List Char) : decodeChars (encodeChars token) = token := by
  unfold decodeChars encodeChars
  rw [Percent.decode_encode (by decide), replacePair_escapeChar, replacePair_escapeTilde]

theorem upperDigit_ne {c : Char} (h : c = '/' ∨ c = '#') {n : Nat} (hn : n < 16) :
    Hex.upperDigit n ≠ c := by
  have hall : ∀ m : Fin 16, Hex.upperDigit m.val ≠ '/' ∧ Hex.upperDigit m.val ≠ '#' := by decide
  rcases h with rfl | rfl
  · exact (hall ⟨n, hn⟩).1
  · exact (hall ⟨n, hn⟩).2

theorem slash_not_mem_escapeChar (c : Char) : '/' ∉ escapeChar c := by
  unfold escapeChar
  split
  · simp
  · split
    · simp
    · rename_i hslash
      simpa using Ne.symm hslash

/-- A written token holds no slash. -/
theorem slash_not_mem_encodeChars (token : List Char) : '/' ∉ encodeChars token := by
  intro h
  rcases Percent.mem_encode h with ⟨hmem, -⟩ | hpercent | ⟨n, hn, hdigit⟩
  · obtain ⟨c, -, hc⟩ := List.mem_flatMap.mp hmem
    exact slash_not_mem_escapeChar c hc
  · exact absurd hpercent (by decide)
  · exact upperDigit_ne (Or.inl rfl) hn hdigit.symm

/-- A written token holds no number sign. -/
theorem number_sign_not_mem_encodeChars (token : List Char) : '#' ∉ encodeChars token := by
  intro h
  rcases Percent.mem_encode h with ⟨-, hset⟩ | hpercent | ⟨n, hn, hdigit⟩
  · exact absurd hset (by decide)
  · exact absurd hpercent (by decide)
  · exact upperDigit_ne (Or.inr rfl) hn hdigit.symm

/-! ## Pointers -/

/-- What stands before the first separator, and what stands from there on, are determined. -/
theorem append_inj_of_not_mem {separator : Char} {first second : List Char}
    (hfirst : separator ∉ first) (hsecond : separator ∉ second) {rest other : List Char}
    (hrest : rest = [] ∨ rest.head? = some separator)
    (hother : other = [] ∨ other.head? = some separator)
    (h : first ++ rest = second ++ other) : first = second ∧ rest = other := by
  induction first generalizing second with
  | nil =>
    cases second with
    | nil => exact ⟨rfl, h⟩
    | cons c second =>
      rcases hrest with rfl | hhead
      · cases h
      · rw [List.nil_append] at h
        rw [h] at hhead
        cases hhead
        exact absurd List.mem_cons_self hsecond
  | cons c first ih =>
    cases second with
    | nil =>
      rcases hother with rfl | hhead
      · cases h
      · rw [List.nil_append] at h
        rw [← h] at hhead
        cases hhead
        exact absurd List.mem_cons_self hfirst
    | cons d second =>
      obtain ⟨rfl, htail⟩ := List.cons.inj h
      obtain ⟨rfl, rfl⟩ := ih (fun hmem => hfirst (List.mem_cons_of_mem _ hmem))
        (fun hmem => hsecond (List.mem_cons_of_mem _ hmem)) htail
      exact ⟨rfl, rfl⟩

theorem textChars_head (path : List String) :
    textChars path = [] ∨ (textChars path).head? = some '/' := by
  cases path with
  | nil => exact Or.inl rfl
  | cons token rest => exact Or.inr rfl

/-- The written pointer determines the path. -/
theorem textChars_injective {path other : List String} (h : textChars path = textChars other) :
    path = other := by
  induction path generalizing other with
  | nil =>
    cases other with
    | nil => rfl
    | cons token rest => cases h
  | cons token rest ih =>
    cases other with
    | nil => cases h
    | cons token' rest' =>
      rw [textChars_cons, textChars_cons] at h
      obtain ⟨htoken, hrest⟩ := append_inj_of_not_mem (slash_not_mem_encodeChars _)
        (slash_not_mem_encodeChars _) (textChars_head rest) (textChars_head rest')
        (List.cons.inj h).2
      have hchars : token.toList = token'.toList := by
        rw [← decodeChars_encodeChars token.toList, htoken, decodeChars_encodeChars]
      rw [String.toList_injective hchars, ih hrest]

theorem number_sign_not_mem_textChars (path : List String) : '#' ∉ textChars path := by
  intro h
  obtain ⟨token, -, htoken⟩ := List.mem_flatMap.mp h
  rcases List.mem_cons.mp htoken with hslash | hmem
  · exact absurd hslash (by decide)
  · exact number_sign_not_mem_encodeChars token.toList hmem

/-- A written pointer is read back as the path. -/
theorem read?_textChars (path : List String) : read? (textChars path) = some path := by
  cases path with
  | nil => rfl
  | cons token rest =>
    let written (token : String) : List Char := encodeChars token.toList
    have hrest : textChars rest = (rest.map written).flatMap ('/' :: ·) := by
      rw [List.flatMap_map]
      rfl
    have hsplit : Text.split '/' (written token ++ textChars rest) =
        (token :: rest).map written := by
      rw [hrest, Text.split_append_flatMap (slash_not_mem_encodeChars _) fun piece hpiece => ?_]
      · rfl
      · obtain ⟨other, -, rfl⟩ := List.mem_map.mp hpiece
        exact slash_not_mem_encodeChars _
    have hback : ∀ token : String, String.ofList (decodeChars (written token)) = token := by
      intro token
      rw [decodeChars_encodeChars, String.ofList_toList]
    simp only [textChars_cons, read?, List.cons_append, Option.some.injEq]
    rw [hsplit, List.map_map]
    exact List.map_id'' hback _

end Pointer

/-! ## References -/

namespace Reference

/-- What stands before and after the last separator is determined. -/
theorem append_cons_inj_of_not_mem {separator : Char} {before other after after' : List Char}
    (hafter : separator ∉ after) (hafter' : separator ∉ after')
    (h : before ++ separator :: after = other ++ separator :: after') :
    before = other ∧ after = after' := by
  have hreverse := congrArg List.reverse h
  simp only [List.reverse_append, List.reverse_cons, List.append_assoc, List.cons_append,
    List.nil_append] at hreverse
  obtain ⟨hfirst, hrest⟩ := Pointer.append_inj_of_not_mem (fun hmem => hafter (by simpa using hmem))
    (fun hmem => hafter' (by simpa using hmem)) (Or.inr rfl) (Or.inr rfl) hreverse
  exact ⟨List.reverse_inj.mp (List.cons.inj hrest).2, List.reverse_inj.mp hfirst⟩

theorem toList_canonical (r : Reference) :
    r.canonical.toList = r.document.toList ++ '#' :: Pointer.textChars r.path := by
  unfold canonical pointer Pointer.text
  simp

/-- The canonical form determines the reference. -/
theorem eq_of_canonical_eq {r s : Reference} (h : r.canonical = s.canonical) : r = s := by
  have hchars := congrArg String.toList h
  rw [toList_canonical, toList_canonical] at hchars
  obtain ⟨hdocument, hpath⟩ := append_cons_inj_of_not_mem
    (Pointer.number_sign_not_mem_textChars r.path) (Pointer.number_sign_not_mem_textChars s.path)
    hchars
  obtain ⟨document, path⟩ := r
  obtain ⟨document', path'⟩ := s
  obtain rfl : document = document' := String.toList_injective hdocument
  obtain rfl : path = path' := Pointer.textChars_injective hpath
  rfl

/-- Two references have one canonical form only if they have one document and one path, whatever
characters there are in either. -/
theorem canonical_eq_iff (r s : Reference) :
    r.canonical = s.canonical ↔ r.document = s.document ∧ r.path = s.path := by
  constructor
  · intro h
    obtain rfl := eq_of_canonical_eq h
    exact ⟨rfl, rfl⟩
  · rintro ⟨hdocument, hpath⟩
    unfold canonical pointer
    rw [hdocument, hpath]

/-! ## Reading what was written -/

/-- What stands before the first number sign is the document part, and what follows it is read as
the pointer. -/
theorem parse_of_written {documentPart : List Char} (hpart : '#' ∉ documentPart)
    {document current : String}
    (hdocument : (if documentPart.isEmpty then some current
      else (DocumentId.relativeChars? documentPart current.toList).map String.ofList) =
        some document) (path : List String) :
    parse (String.ofList (documentPart ++ '#' :: Pointer.textChars path)) current =
      .ok ⟨document, path⟩ := by
  unfold parse splitFragment
  simp only [String.toList_ofList, Text.splitFirst?_append_cons hpart, Option.getD_some,
    Pointer.read?_textChars, hdocument]

/-- A pointer that is written after a number sign names the same place of the current document, and
the canonical form names it anywhere where the document's id is written without a number sign and
means itself. -/
theorem parse_written (path : List String) :
    (∀ document : String,
      parse ("#" ++ (Reference.mk document path).pointer) document = .ok ⟨document, path⟩) ∧
    ∀ document current : String, document ≠ "" → '#' ∉ document.toList →
      DocumentId.relative? document current = some document →
        parse (Reference.mk document path).canonical current = .ok ⟨document, path⟩ := by
  constructor
  · intro document
    have hwritten : "#" ++ (Reference.mk document path).pointer =
        String.ofList ([] ++ '#' :: Pointer.textChars path) := by
      apply String.toList_injective
      simp [pointer, Pointer.text]
    rw [hwritten, parse_of_written List.not_mem_nil rfl]
  · intro document current hne hsign hself
    have hwritten : (Reference.mk document path).canonical =
        String.ofList (document.toList ++ '#' :: Pointer.textChars path) := by
      apply String.toList_injective
      rw [toList_canonical, String.toList_ofList]
    have hpart : document.toList.isEmpty = false := by
      simpa using hne
    rw [hwritten, parse_of_written hsign]
    rw [hpart, if_neg Bool.false_ne_true]
    exact hself

/-- Tokens with every kind of escape, in a document on another host. -/
theorem parse_written_escapes :
    let path := ["", "a/b", "~1", "~01", "%7E1", "#", "\u0001\u00e9", "0"]
    let r := Reference.mk "https://example.com/a.json" path
    r.document ≠ "" ∧ '#' ∉ r.document.toList ∧
      DocumentId.relative? r.document "specs/b.json" = some r.document ∧
      r.pointer = "//a~1b/~01/~001/%257E1/%23/%01%C3%A9/0" ∧
      parse ("#" ++ r.pointer) r.document = .ok r ∧ parse r.canonical "specs/b.json" = .ok r := by
  intro path r
  have hne : r.document ≠ "" := by decide
  have hsign : '#' ∉ r.document.toList := by decide
  have hself : DocumentId.relative? r.document "specs/b.json" = some r.document := by
    decide +kernel
  have hwritten : r.pointer = "//a~1b/~01/~001/%257E1/%23/%01%C3%A9/0" := by decide +kernel
  exact ⟨hne, hsign, hself, hwritten, (parse_written path).1 r.document,
    (parse_written path).2 r.document "specs/b.json" hne hsign hself⟩

end Reference

end SchemaTypes
