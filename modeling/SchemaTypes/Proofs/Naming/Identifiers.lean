import SchemaTypes.Naming.Policy
import SchemaTypes.Proofs.Text.CamelCase

set_option autoImplicit false

/-!
# Names as identifiers

A name is put together of parts.  What is sanitized is an identifier, and what follows it has to be
made of the characters of identifiers: numbers, fixed texts and suffixes are, but the camel case of
a text has letters of all scripts.
-/

namespace SchemaTypes

namespace Identifier

/-! ## Identifiers -/

/-- A text of ASCII letters, digits and underscores. -/
def isWord (text : String) : Bool := text.toList.all fun c => c.isAlphanum || c = '_'

/-- An ASCII letter or an underscore, followed by letters, digits and underscores. -/
def isIdentifier (text : String) : Bool :=
  match text.toList with
  | [] => false
  | first :: rest => (first.isAlpha || first = '_') && rest.all fun c => c.isAlphanum || c = '_'

theorem isWord_append (first second : String) :
    isWord (first ++ second) = (isWord first && isWord second) := by
  unfold isWord
  rw [String.toList_append, List.all_append]

theorem isWord_toString (n : Nat) : isWord (toString n) = true := by
  refine List.all_eq_true.mpr fun c hc => ?_
  rw [Nat.toString_eq_ofList_toDigits, String.toList_ofList] at hc
  have hdigit := Text.isDigit_of_mem_decimal hc
  simp [Char.isAlphanum, hdigit]

/-- What follows an identifier is part of it just if it is made of the same characters. -/
theorem isIdentifier_append {first : String} (h : isIdentifier first = true) (second : String) :
    isIdentifier (first ++ second) = isWord second := by
  unfold isIdentifier at h ⊢
  rw [String.toList_append]
  split at h
  · cases h
  · rename_i c rest hfirst
    obtain ⟨hc, hrest⟩ := Bool.and_eq_true_iff.mp h
    rw [hfirst, List.cons_append]
    simp only [hc, List.all_append, hrest, Bool.true_and]
    rfl

/-- Whatever a text is, the identifier that is made of it is one. -/
theorem isIdentifier_sanitize (raw : String) : isIdentifier (sanitize raw) = true := by
  unfold isIdentifier sanitize sanitizeChars
  rw [String.toList_ofList]
  have hword : ∀ c ∈ raw.toList.map fun c => if isWordChar c then c else '_',
      isWordChar c = true := by
    intro c hc
    obtain ⟨d, -, rfl⟩ := List.mem_map.mp hc
    split
    · assumption
    · rfl
  split at *
  · rename_i hempty
    split at hempty
    · cases hempty
    · split at hempty <;> cases hempty
  · rename_i first rest hchars
    split at hchars
    · cases hchars
      decide
    · rename_i c others hmapped
      rw [hmapped] at hword
      obtain ⟨hc, hothers⟩ := List.forall_mem_cons.mp hword
      split at hchars
      · cases hchars
        exact List.all_eq_true.mpr hword
      · rename_i hdigit
        cases hchars
        refine Bool.and_eq_true_iff.mpr ⟨?_, List.all_eq_true.mpr hothers⟩
        simpa [isWordChar, Char.isAlphanum, hdigit] using hc

end Identifier

namespace NamingPolicy

open Identifier CodePoints

/-! ## Parts of names -/

/-- The camel case of a text is made of the characters of identifiers if its letters and digits are
ASCII characters.  All other characters are left out in any case. -/
theorem isWord_upperCamel {text : String}
    (h : ∀ c ∈ text.toList, isAlphanumeric c = true → c.toNat < 128) :
    isWord (Words.upperCamel text) = true := by
  refine List.all_eq_true.mpr fun c hc => ?_
  simp [Words.isAlphanum_of_mem_upperCamel h hc]

/-- Only the code of a response can bring other characters into the name of a part. -/
theorem isWord_display_iff (part : OperationPart) : isWord part.display = true ↔
    ∀ code, part = .response code → isWord (Words.upperCamel code) = true := by
  cases part with
  | requestBody => exact iff_of_true (by decide) nofun
  | response code =>
    rw [OperationPart.display, isWord_append, (by decide : isWord "Response" = true),
      Bool.true_and]
    constructor
    · rintro h _ ⟨⟩
      exact h
    · exact fun h => h code rfl
  | parameter index =>
    refine iff_of_true ?_ nofun
    rw [OperationPart.display, isWord_append, isWord_toString]
    decide

/-- Kinds that have a name of their own are called by it, and the others by their camel case. -/
theorem isWord_componentKindName {kind : String}
    (h : ∀ c ∈ kind.toList, isAlphanumeric c = true → c.toNat < 128) :
    isWord (componentKindName kind) = true := by
  unfold componentKindName
  repeat' split
  · decide
  · decide
  · decide
  · decide
  · exact isWord_upperCamel h

/-! ## Names and their variants -/

/-- A name that a policy gives for a reference: the preferred one or one of its variants. -/
def Gives (policy : NamingPolicy) (r : Reference) (name : ModelName) : Prop :=
  name = policy.name r ∨ ∃ attempt, name = policy.variant (policy.name r) attempt

/-- If the preferred name starts with an identifier, what follows decides about it and about its
numbered variants, since numbers are made of digits. -/
theorem isIdentifier_of_gives {policy : NamingPolicy} {r : Reference} {name : ModelName}
    (hgives : policy.Gives r name) (hvariant : policy.variant = ModelName.numbered)
    {first rest : String} (hname : (policy.name r).name = first ++ rest)
    (hfirst : isIdentifier first = true) : isIdentifier name.name = isWord rest := by
  rcases hgives with rfl | ⟨attempt, rfl⟩
  · rw [hname, isIdentifier_append hfirst]
  · rw [hvariant, ModelName.numbered, hname, String.append_assoc, isIdentifier_append hfirst,
      isWord_append, isWord_toString, Bool.and_true]

/-- The name of the schema of a reusable component starts with an identifier, and only the kind of
the component can bring other characters into what follows. -/
theorem exists_sharedName (suffix : String) (hsuffix : isWord suffix = true) (r : Reference) :
    ∃ first rest, sharedName suffix r = first ++ rest ∧ isIdentifier first = true ∧
      (isWord rest = true ↔ ∀ first kind component others,
        r.path = first :: kind :: component :: others →
          isWord (componentKindName kind) = true) := by
  unfold sharedName
  split
  · rename_i first kind component others hpath
    refine ⟨_, componentKindName kind ++ suffix, String.append_assoc, isIdentifier_sanitize _, ?_⟩
    rw [isWord_append, hsuffix, Bool.and_true]
    constructor
    · intro h first' kind' component' others' hsame
      rw [hpath] at hsame
      cases hsame
      exact h
    · exact fun h => h first kind component others hpath
  · rename_i hother
    refine ⟨localName r, "", String.append_empty.symm, ?_, iff_of_true rfl ?_⟩
    · unfold localName
      split <;> exact isIdentifier_sanitize _
    · exact fun first kind component others hpath =>
        absurd hpath (hother first kind component others)

/-- With a suffix of ASCII letters, digits and underscores, every name that is given to a part of an
operation is an identifier, and so is every name of the schema of a reusable component, numbered or
not, unless the part is a response whose code has a camel case with other characters, or the kind of
the component has such a name; then none of them is.  Codes and kinds whose letters and digits are
ASCII characters, whatever else is in them, have no such camel case. -/
theorem operation_and_shared_names_are_identifiers (suffix : String)
    (hsuffix : isWord suffix = true) (r : Reference) :
    (∀ operation part name, (NamingPolicy.operation operation part suffix).Gives r name →
      (isIdentifier name.name = true ↔
        ∀ code, part = .response code → isWord (Words.upperCamel code) = true)) ∧
    (∀ name, (NamingPolicy.shared suffix).Gives r name →
      (isIdentifier name.name = true ↔ ∀ first kind component others,
        r.path = first :: kind :: component :: others →
          isWord (componentKindName kind) = true)) ∧
    ∀ text : String, (∀ c ∈ text.toList, isAlphanumeric c = true → c.toNat < 128) →
      isWord (Words.upperCamel text) = true ∧ isWord (componentKindName text) = true := by
  refine ⟨fun operation part name hgives => ?_, fun name hgives => ?_,
    fun text htext => ⟨isWord_upperCamel htext, isWord_componentKindName htext⟩⟩
  · have hname : ((NamingPolicy.operation operation part suffix).name r).name =
        sanitize (Words.upperCamel operation) ++ (part.display ++ suffix) := String.append_assoc
    rw [isIdentifier_of_gives hgives rfl hname (isIdentifier_sanitize _), isWord_append, hsuffix,
      Bool.and_true]
    exact isWord_display_iff part
  · obtain ⟨first, rest, hname, hfirst, hrest⟩ := exists_sharedName suffix hsuffix r
    rw [isIdentifier_of_gives hgives rfl hname hfirst]
    exact hrest

/-- A range of status codes, a reusable response, and a code with a letter that is not ASCII. -/
theorem operation_and_shared_names_are_identifiers_coded :
    let r : Reference := ⟨"api.json", ["components", "responses", "not found", "schema"]⟩
    isWord "Schema" = true ∧
    ((NamingPolicy.operation "1st pet" (.response "4XX") "Schema").Gives r
        (.inLocal "_1stPetResponse4xxSchema") ∧
      isIdentifier "_1stPetResponse4xxSchema" = true) ∧
    ((NamingPolicy.shared "Schema").Gives r (.inLocal "NotFoundResponseSchema11") ∧
      isIdentifier "NotFoundResponseSchema11" = true) ∧
    ((NamingPolicy.operation "list" (.response "d\u00e9faut") "Schema").Gives r
        (.inLocal "ListResponseD\u00e9fautSchema2") ∧
      isIdentifier "ListResponseD\u00e9fautSchema2" = false) ∧
    (∀ c ∈ "4XX".toList, isAlphanumeric c = true → c.toNat < 128) := by
  intro r
  have hsuffix : isWord "Schema" = true := by decide
  obtain ⟨hoperation, hshared, hascii⟩ :=
    operation_and_shared_names_are_identifiers "Schema" hsuffix r
  have hsmall : ("4XX".toList.all fun c => c.toNat < 128) = true := by decide
  have hcode : ∀ c ∈ "4XX".toList, isAlphanumeric c = true → c.toNat < 128 :=
    fun c hc _ => of_decide_eq_true (List.all_eq_true.mp hsmall c hc)
  have hranges : (NamingPolicy.operation "1st pet" (.response "4XX") "Schema").Gives r
      (.inLocal "_1stPetResponse4xxSchema") := Or.inl (by decide +kernel)
  have hreusable : (NamingPolicy.shared "Schema").Gives r (.inLocal "NotFoundResponseSchema11") :=
    Or.inr ⟨10, by decide +kernel⟩
  have hforeign : (NamingPolicy.operation "list" (.response "d\u00e9faut") "Schema").Gives r
      (.inLocal "ListResponseD\u00e9fautSchema2") := Or.inr ⟨1, by decide +kernel⟩
  refine ⟨hsuffix, ⟨hranges, (hoperation _ _ _ hranges).mpr ?_⟩,
    ⟨hreusable, (hshared _ hreusable).mpr ?_⟩, ⟨hforeign, ?_⟩, hcode⟩
  · rintro code ⟨⟩
    exact (hascii _ hcode).1
  · rintro first kind component others ⟨⟩
    decide +kernel
  · refine Bool.eq_false_iff.mpr fun h => ?_
    exact absurd ((hoperation _ _ _ hforeign).mp h _ rfl) (by decide +kernel)

/-- The camel case of a code and that of a kind are taken as they are. -/
theorem operation_and_shared_names_need_not_be_identifiers :
    ¬ ∀ (operation : String) (part : OperationPart) (suffix : String) (r : Reference),
      isWord suffix = true →
        (∀ name, (NamingPolicy.operation operation part suffix).Gives r name →
          isIdentifier name.name = true) ∧
        ∀ name, (NamingPolicy.shared suffix).Gives r name → isIdentifier name.name = true := by
  intro h
  have hname := (h "list" (.response "d\u00e9faut") "Schema" (Reference.root "api.json")
    (by decide)).1 _ (Or.inl rfl)
  exact absurd hname (by decide +kernel)

end NamingPolicy

end SchemaTypes
