import Mathlib.Data.List.DropRight
import SchemaTypes.Proofs.Naming.Identifiers
import SchemaTypes.Proofs.Text.Splitting

set_option autoImplicit false

/-!
# Names after tokens and documents

A declaration is named after the last token of its reference or, for a whole document, after its
file.  What is made of either is an identifier, whatever the text.  The declarations of a document
other than the root are kept under a name space of the document's own, which is a single segment of
an import path.
-/

namespace SchemaTypes

namespace Identifier

/-! ## Identifiers that are kept -/

theorem isWordChar_of_starts {c : Char} (h : (c.isAlpha || c = '_') = true) :
    isWordChar c = true ∧ c.isDigit = false := by
  constructor
  · unfold isWordChar Char.isAlphanum
    rcases Bool.or_eq_true_iff.mp h with hletter | hunderscore
    · rw [hletter, Bool.true_or, Bool.true_or]
    · rw [hunderscore, Bool.or_true]
  · refine Bool.eq_false_iff.mpr fun hdigit => ?_
    have hascii := Text.toNat_lt_of_isDigit hdigit
    have hall : c.isDigit = true → (c.isAlpha || c = '_') = false :=
      Text.of_ascii (P := fun c => c.isDigit = true → (c.isAlpha || c = '_') = false)
        (by decide +kernel) hascii
    exact absurd (h.symm.trans (hall hdigit)) (by decide)

/-- Identifiers are kept, and nothing else is. -/
theorem sanitize_eq_self_iff {text : String} :
    sanitize text = text ↔ isIdentifier text = true := by
  refine ⟨fun h => h ▸ isIdentifier_sanitize text, fun h => ?_⟩
  unfold isIdentifier at h
  split at h
  · cases h
  · rename_i first rest htext
    obtain ⟨hfirst, hrest⟩ := Bool.and_eq_true_iff.mp h
    obtain ⟨hword, hdigit⟩ := isWordChar_of_starts hfirst
    have hall : ∀ c ∈ first :: rest, isWordChar c = true :=
      List.forall_mem_cons.mpr ⟨hword, List.all_eq_true.mp hrest⟩
    have hmap : (first :: rest).map (fun c => if isWordChar c then c else '_') = first :: rest :=
      (List.map_congr_left fun c hc => if_pos (hall c hc)).trans (List.map_id'' (fun _ => rfl) _)
    unfold sanitize sanitizeChars
    rw [htext, hmap]
    simp only [hdigit, Bool.false_eq_true, if_false]
    rw [← htext, String.ofList_toList]

/-! ## Name spaces -/

/-- A lower-case ASCII letter or a digit. -/
def isSmall (c : Char) : Bool := c.isLower || c.isDigit

/-- Runs of lower-case ASCII letters and digits, with one underscore between each two. -/
def isNamespace (text : List Char) : Bool :=
  (Text.split '_' text).all fun run => !run.isEmpty && run.all isSmall

theorem isNamespace_join {runs : List (List Char)} (hne : runs ≠ [])
    (hruns : ∀ run ∈ runs, run ≠ [] ∧ ∀ c ∈ run, isSmall c = true) :
    isNamespace (Text.join '_' runs) = true := by
  have hfree : ∀ run ∈ runs, '_' ∉ run := fun run hrun hmem =>
    absurd ((hruns run hrun).2 _ hmem) (by decide)
  unfold isNamespace
  rw [Text.split_join hne hfree]
  refine List.all_eq_true.mpr fun run hrun => ?_
  obtain ⟨hrun, hsmall⟩ := hruns run hrun
  rw [List.all_eq_true.mpr hsmall, Bool.and_true]
  simpa using hrun

/-- A run that is found has characters, all of them letters and digits. -/
theorem of_mem_asciiRuns {current text run : List Char}
    (hcurrent : ∀ c ∈ current, c.isAlphanum = true) (h : run ∈ asciiRuns current text) :
    run ≠ [] ∧ ∀ c ∈ run, c.isAlphanum = true := by
  induction text generalizing current with
  | nil =>
    rw [asciiRuns] at h
    split at h
    · cases h
    · rename_i hopen
      rw [List.mem_singleton.mp h]
      exact ⟨by simpa using hopen, fun c hc => hcurrent c (List.mem_reverse.mp hc)⟩
  | cons c rest ih =>
    have hnone : ∀ d ∈ ([] : List Char), d.isAlphanum = true := nofun
    rw [asciiRuns] at h
    split at h
    · rename_i hc
      exact ih (List.forall_mem_cons.mpr ⟨hc, hcurrent⟩) h
    · split at h
      · exact ih hnone h
      · rename_i hopen
        rcases List.mem_cons.mp h with rfl | hlater
        · exact ⟨by simpa using hopen, fun d hd => hcurrent d (List.mem_reverse.mp hd)⟩
        · exact ih hnone hlater

theorem isSmall_toLower {c : Char} (h : c.isAlphanum = true) : isSmall c.toLower = true := by
  have hall : c.isAlphanum = true → isSmall c.toLower = true :=
    Text.of_ascii (P := fun c => c.isAlphanum = true → isSmall c.toLower = true)
      (by decide +kernel) (Text.toNat_lt_of_isAlphanum h)
  exact hall h

/-- Whatever a document is called, its name space is made of runs of small letters and digits. -/
theorem isNamespace_documentNamespace (document : List Char) :
    isNamespace (documentNamespace document) = true := by
  unfold documentNamespace
  split
  · decide
  · rename_i runs hne
    rw [Text.map_join (by decide)]
    refine isNamespace_join (by simpa using hne) fun run hrun => ?_
    obtain ⟨found, hfound, rfl⟩ := List.mem_map.mp hrun
    obtain ⟨hchars, halphanum⟩ := of_mem_asciiRuns (fun _ hc => absurd hc List.not_mem_nil) hfound
    refine ⟨by simpa using hchars, fun c hc => ?_⟩
    obtain ⟨d, hd, rfl⟩ := List.mem_map.mp hc
    exact isSmall_toLower (halphanum d hd)

end Identifier

namespace NamingPolicy

open Identifier

/-! ## Names after tokens and documents -/

theorem isIdentifier_localName (r : Reference) : isIdentifier (localName r) = true := by
  unfold localName
  split <;> exact isIdentifier_sanitize _

/-- A numbered variant of an identifier is one. -/
theorem isIdentifier_of_gives_identifier {policy : NamingPolicy} {r : Reference} {name : ModelName}
    (hgives : policy.Gives r name) (hvariant : policy.variant = ModelName.numbered)
    (hname : isIdentifier (policy.name r).name = true) : isIdentifier name.name = true :=
  (isIdentifier_of_gives hgives hvariant String.append_empty.symm hname).trans rfl

/-- Variants that are numbered are kept where the preferred name is. -/
theorem importPath_of_gives {policy : NamingPolicy} {r : Reference} {name : ModelName}
    (hgives : policy.Gives r name) (hvariant : policy.variant = ModelName.numbered) :
    name.importPath = (policy.name r).importPath := by
  rcases hgives with rfl | ⟨attempt, rfl⟩
  · rfl
  · rw [hvariant]
    rfl

/-- An import path is a name space, whatever slashes it ends in left out, and one segment for the
document. -/
theorem exists_importPathOf (nameSpace document : String) : ∃ stem slashes segment,
    nameSpace.toList = stem ++ slashes ∧ (∀ c ∈ slashes, c = '/') ∧ stem.getLast? ≠ some '/' ∧
      (importPathOf nameSpace document).toList = stem ++ '/' :: segment ∧
      isNamespace segment = true := by
  let isSlash : Char → Bool := fun c => c = '/'
  refine ⟨nameSpace.toList.rdropWhile isSlash, nameSpace.toList.rtakeWhile isSlash,
    documentNamespace document.toList, ?_, fun c hc => ?_, fun hlast => ?_, ?_,
    isNamespace_documentNamespace _⟩
  · exact List.rdropWhile_append_rtakeWhile.symm
  · have hslash : isSlash c = true := List.mem_rtakeWhile_imp hc
    exact of_decide_eq_true hslash
  · obtain ⟨hne, hlast⟩ := List.mem_getLast?_eq_getLast hlast
    refine List.rdropWhile_last_not isSlash nameSpace.toList hne ?_
    rw [← hlast]
    rfl
  · exact String.toList_ofList

/-- Every name after a token or a document is an identifier, with a number after it or not, and a
token that is one is taken as it is.  Declarations of the root document have no import path; that of
another document is the name space without its last slashes, a slash, and a single segment of small
letters, digits and single underscores. -/
theorem component_and_external_names_are_well_formed (r : Reference) (nameSpace : String) :
    (∀ name, component.Gives r name → isIdentifier name.name = true ∧ name.importPath = none) ∧
    (∀ name, (external nameSpace).Gives r name → isIdentifier name.name = true ∧
      name.importPath = some (importPathOf nameSpace r.document)) ∧
    (∀ token, r.last? = some token → isIdentifier token = true →
      (component.name r).name = token ∧ ((external nameSpace).name r).name = token) ∧
    ∀ document, ∃ stem slashes segment,
      nameSpace.toList = stem ++ slashes ∧ (∀ c ∈ slashes, c = '/') ∧ stem.getLast? ≠ some '/' ∧
        (importPathOf nameSpace document).toList = stem ++ '/' :: segment ∧
        isNamespace segment = true := by
  refine ⟨fun name hgives => ⟨?_, importPath_of_gives hgives rfl⟩,
    fun name hgives => ⟨?_, importPath_of_gives hgives rfl⟩, fun token hlast htoken => ?_,
    exists_importPathOf nameSpace⟩
  · exact isIdentifier_of_gives_identifier hgives rfl (isIdentifier_localName r)
  · exact isIdentifier_of_gives_identifier hgives rfl (isIdentifier_localName r)
  · have hname : localName r = token := by
      unfold localName
      rw [hlast]
      exact sanitize_eq_self_iff.mpr htoken
    exact ⟨hname, hname⟩

/-- A token that starts with a digit and ends in a letter that is not ASCII, and a whole document
whose file and directories have such letters, several dots and separators in a row. -/
theorem component_and_external_names_are_well_formed_foreign :
    let part : Reference := ⟨"https://X.org/a--b/2\u00e9.v1.yaml", ["definitions", "1st \u00e9"]⟩
    let whole := Reference.root "https://X.org/a--b/2\u00e9.v1.yaml"
    (component.Gives part (.inLocal "_1st__2") ∧ isIdentifier "_1st__2" = true) ∧
    ((external "gen//").Gives whole ⟨"_2_V1", some "gen/x_org_a_b_2_v1"⟩ ∧
      isIdentifier "_2_V1" = true ∧
      some "gen/x_org_a_b_2_v1" = some (importPathOf "gen//" whole.document)) ∧
    ((part.child "Money").last? = some "Money" ∧ isIdentifier "Money" = true ∧
      ((external "gen//").name (part.child "Money")).name = "Money") := by
  intro part whole
  have hpart : component.Gives part (.inLocal "_1st__2") := Or.inr ⟨1, by decide +kernel⟩
  have hwhole : (external "gen//").Gives whole ⟨"_2_V1", some "gen/x_org_a_b_2_v1"⟩ :=
    Or.inl (by decide +kernel)
  have htoken : isIdentifier "Money" = true := by decide
  obtain ⟨hcomponent, -, -, -⟩ := component_and_external_names_are_well_formed part "gen//"
  obtain ⟨-, hexternal, -, -⟩ := component_and_external_names_are_well_formed whole "gen//"
  obtain ⟨-, -, hkept, -⟩ :=
    component_and_external_names_are_well_formed (part.child "Money") "gen//"
  exact ⟨⟨hpart, (hcomponent _ hpart).1⟩, ⟨hwhole, hexternal _ hwhole⟩, rfl, htoken,
    (hkept _ rfl htoken).2⟩

end NamingPolicy

end SchemaTypes
