import SchemaTypes.Proofs.Text.Ascii
import SchemaTypes.Text.Words

set_option autoImplicit false

/-!
# Characters of camel case

The words of a text are made of its letters and digits, and its upper camel case is made of the
upper and lower case forms of these.  As far as they are ASCII characters, so are the forms.
-/

namespace SchemaTypes.Words

open CodePoints

variable {text run word current rest : List Char} {c : Char}

/-! ## What words are made of -/

theorem mem_of_mem_runsFrom (hrun : run ∈ runsFrom current text) (hc : c ∈ run) :
    c ∈ current ∨ c ∈ text ∧ isAlphanumeric c = true := by
  induction text generalizing current with
  | nil =>
    rw [runsFrom] at hrun
    split at hrun
    · cases hrun
    · rw [List.mem_singleton.mp hrun, List.mem_reverse] at hc
      exact Or.inl hc
  | cons d text ih =>
    -- what is found further on is found in this text as well
    have hlater : c ∈ text ∧ isAlphanumeric c = true → c ∈ d :: text ∧ isAlphanumeric c = true :=
      fun h => ⟨List.mem_cons_of_mem _ h.1, h.2⟩
    rw [runsFrom] at hrun
    split at hrun
    · rename_i hd
      rcases ih hrun with hcurrent | htext
      · rcases List.mem_cons.mp hcurrent with rfl | hcurrent
        · exact Or.inr ⟨List.mem_cons_self, hd⟩
        · exact Or.inl hcurrent
      · exact Or.inr (hlater htext)
    · split at hrun
      · exact Or.inr (hlater ((ih hrun).resolve_left List.not_mem_nil))
      · rcases List.mem_cons.mp hrun with rfl | hrun
        · exact Or.inl (List.mem_reverse.mp hc)
        · exact Or.inr (hlater ((ih hrun).resolve_left List.not_mem_nil))

theorem mem_of_mem_cut {mode : Mode} (hrun : run ∈ cut mode word text) (hc : c ∈ run) :
    c ∈ word ∨ c ∈ text := by
  induction mode, word, text using cut.induct with
  | case1 mode word => cases hrun
  | case2 mode word last =>
    rw [cut, List.mem_singleton] at hrun
    rw [hrun, List.mem_reverse, List.mem_cons] at hc
    exact hc.symm.imp_right List.mem_singleton.mpr
  | case3 mode word first next rest here hends ih =>
    rw [cut, if_pos hends] at hrun
    rcases List.mem_cons.mp hrun with rfl | hrun
    · rw [List.mem_reverse, List.mem_cons] at hc
      rcases hc with rfl | hword
      · exact Or.inr List.mem_cons_self
      · exact Or.inl hword
    · exact Or.inr (List.mem_cons_of_mem _ ((ih hrun).resolve_left List.not_mem_nil))
  | case4 mode word first next rest here hgoes hends ih =>
    rw [cut, if_neg hgoes, if_pos hends] at hrun
    rcases List.mem_cons.mp hrun with rfl | hrun
    · exact Or.inl (List.mem_reverse.mp hc)
    · rcases ih hrun with hfirst | hrest
      · exact Or.inr (List.mem_singleton.mp hfirst ▸ List.mem_cons_self)
      · exact Or.inr (List.mem_cons_of_mem _ hrest)
  | case5 mode word first next rest here hgoes hstays ih =>
    rw [cut, if_neg hgoes, if_neg hstays] at hrun
    rcases ih hrun with hword | hrest
    · rcases List.mem_cons.mp hword with rfl | hword
      · exact Or.inr List.mem_cons_self
      · exact Or.inl hword
    · exact Or.inr (List.mem_cons_of_mem _ hrest)

/-- Words are made of the letters and digits of the text. -/
theorem mem_of_mem_ofText (hword : word ∈ ofText text) (hc : c ∈ word) :
    c ∈ text ∧ isAlphanumeric c = true := by
  obtain ⟨run, hrun, hcut⟩ := List.mem_flatMap.mp hword
  have hmem := (mem_of_mem_cut hcut hc).resolve_left List.not_mem_nil
  exact (mem_of_mem_runsFrom hrun hmem).resolve_left List.not_mem_nil

/-! ## Upper and lower case of ASCII characters -/

/-- An ASCII letter or digit. -/
def IsPlain (c : Char) : Prop := c.toNat < 128 ∧ isAlphanumeric c = true

theorem IsPlain.upper (h : IsPlain c) : ∀ d ∈ upper c, d.isAlphanum = true := by
  have hall : isAlphanumeric c = true → (CodePoints.upper c).all Char.isAlphanum = true :=
    Text.of_ascii (P := fun c => isAlphanumeric c = true →
      (CodePoints.upper c).all Char.isAlphanum = true) (by decide +kernel) h.1
  exact List.all_eq_true.mp (hall h.2)

theorem IsPlain.lower (h : IsPlain c) : ∀ d ∈ lower c, d.isAlphanum = true := by
  have hall : isAlphanumeric c = true → (CodePoints.lower c).all Char.isAlphanum = true :=
    Text.of_ascii (P := fun c => isAlphanumeric c = true →
      (CodePoints.lower c).all Char.isAlphanum = true) (by decide +kernel) h.1
  exact List.all_eq_true.mp (hall h.2)

theorem IsPlain.ne_capitalSigma (h : IsPlain c) : c ≠ capitalSigma := by
  rintro rfl
  exact absurd h.1 (by decide)

theorem isAlphanum_of_mem_lowerRest (h : ∀ d ∈ rest, IsPlain d) (hc : c ∈ lowerRest rest) :
    c.isAlphanum = true := by
  induction rest with
  | nil => cases hc
  | cons first rest ih =>
    obtain ⟨hfirst, hrest⟩ := List.forall_mem_cons.mp h
    cases rest with
    | nil =>
      rw [lowerRest, if_neg hfirst.ne_capitalSigma] at hc
      exact hfirst.lower c hc
    | cons next rest =>
      rw [lowerRest] at hc
      rcases List.mem_append.mp hc with hc | hc
      · exact hfirst.lower c hc
      · exact ih hrest hc

/-- The camel case of a text whose letters and digits are ASCII characters is made of such. -/
theorem isAlphanum_of_mem_upperCamel {text : String}
    (h : ∀ d ∈ text.toList, isAlphanumeric d = true → d.toNat < 128)
    (hc : c ∈ (upperCamel text).toList) : c.isAlphanum = true := by
  rw [upperCamel, String.toList_ofList] at hc
  obtain ⟨word, hword, hc⟩ := List.mem_flatMap.mp hc
  have hplain : ∀ d ∈ word, IsPlain d := by
    intro d hd
    obtain ⟨hmem, hletter⟩ := mem_of_mem_ofText hword hd
    exact ⟨h d hmem hletter, hletter⟩
  cases word with
  | nil => cases hc
  | cons first rest =>
    obtain ⟨hfirst, hrest⟩ := List.forall_mem_cons.mp hplain
    rcases List.mem_append.mp hc with hc | hc
    · exact hfirst.upper c hc
    · exact isAlphanum_of_mem_lowerRest hrest hc

end SchemaTypes.Words
