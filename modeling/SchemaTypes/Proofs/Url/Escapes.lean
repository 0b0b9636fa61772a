import SchemaTypes.Proofs.Text.Ascii
import SchemaTypes.Proofs.Text.Decoding
import SchemaTypes.Proofs.Url.Parts

set_option autoImplicit false

/-!
# What is escaped in the parts of a URL

No part of a URL escapes `%` or a hexadecimal digit, and every part escapes control characters.  So
the escapes in a part are kept when it is escaped, and a part that was escaped once is not changed
by reading it again.
-/

namespace SchemaTypes

namespace Percent

variable {set : Set} {text : List Char}

theorem controls_keepsEscapes : controls.KeepsEscapes where
  percent := by decide
  digit _ hdigit :=
    Text.of_ascii (P := fun c => (Hex.value? c).isSome = true → controls c = false)
      (by decide +kernel) (toNat_lt_of_digit hdigit) hdigit

/-- Whether no character of a text is a part of an escape. -/
def isEscapeFree (text : String) : Bool :=
  text.toList.all fun c => c ≠ '%' && (Hex.value? c).isNone

/-- More characters can be escaped if none of them is a part of an escape. -/
theorem Set.KeepsEscapes.with {set : Set} (h : set.KeepsEscapes) {more : String}
    (hmore : isEscapeFree more = true) : (set.with more).KeepsEscapes := by
  have hall : ∀ c ∈ more.toList, c ≠ '%' ∧ (Hex.value? c).isSome = false := by
    simpa [isEscapeFree] using hmore
  constructor
  · have hpercent : '%' ∉ more.toList := fun hmem => (hall _ hmem).1 rfl
    simp [Set.with, h.percent, hpercent]
  · intro c hdigit
    have hnot : c ∉ more.toList := fun hmem => by
      rw [(hall c hmem).2] at hdigit
      cases hdigit
    simp [Set.with, h.digit c hdigit, hnot]

/-- A text of which nothing is escaped. -/
def Clean (set : Set) (text : List Char) : Prop := ∀ c ∈ text, c.toNat < 0x80 ∧ set c = false

theorem encode_of_clean (h : Clean set text) : encode set text = text := by
  induction text with
  | nil => rfl
  | cons c rest ih =>
    obtain ⟨hc, hrest⟩ := List.forall_mem_cons.mp h
    rw [encode_cons, encodeChar_eq_self hc.1 hc.2, ih hrest]
    rfl

/-- Nothing of an escaped text is escaped again. -/
theorem clean_encode (hset : set.KeepsEscapes) (text : List Char) :
    Clean set (encode set text) := by
  have hdigit : ∀ n < 16, (Hex.upperDigit n).toNat < 0x80 ∧ set (Hex.upperDigit n) = false := by
    intro n hn
    have hvalue : (Hex.value? (Hex.upperDigit n)).isSome = true := by
      rw [Hex.value?_upperDigit n hn]
      rfl
    exact ⟨toNat_lt_of_digit hvalue, hset.digit _ hvalue⟩
  intro c hc
  obtain ⟨source, -, hchar⟩ := List.mem_flatMap.mp hc
  unfold encodeChar at hchar
  split at hchar
  · rename_i hplain
    obtain rfl := List.mem_singleton.mp hchar
    simpa using hplain
  · obtain ⟨b, -, hb⟩ := List.mem_flatMap.mp hchar
    have hlt : b.toNat < 256 := UInt8.toNat_lt b
    simp only [escapeOctet, List.mem_cons, List.not_mem_nil, or_false] at hb
    rcases hb with rfl | rfl | rfl
    · exact ⟨by decide, hset.percent⟩
    · exact hdigit _ (by omega)
    · exact hdigit _ (by omega)

theorem Clean.not_mem (h : Clean set text) {c : Char} (hc : set c = true) : c ∉ text := by
  intro hmem
  rw [(h c hmem).2] at hc
  cases hc

theorem isEmpty_encode (set : Set) (text : List Char) :
    (encode set text).isEmpty = text.isEmpty := by
  cases text with
  | nil => rfl
  | cons c rest =>
    rw [encode_cons]
    rcases encodeChar_head set c with hself | ⟨more, hescaped⟩
    · rw [hself]
      rfl
    · rw [hescaped]
      rfl

theorem not_mem_encode {c : Char} (h : c ∉ text) (hpercent : c ≠ '%')
    (hdigit : ∀ n < 16, c ≠ Hex.upperDigit n) : c ∉ encode set text := by
  intro hmem
  rcases mem_encode hmem with ⟨hmem, -⟩ | heq | ⟨n, hn, heq⟩
  · exact h hmem
  · exact hpercent heq
  · exact hdigit n hn heq

theorem head?_encode_ne {c : Char} (hpercent : c ≠ '%') (h : text.head? ≠ some c) :
    (encode set text).head? ≠ some c := by
  cases text with
  | nil => nofun
  | cons d rest =>
    rw [encode_cons]
    rcases encodeChar_head set d with hself | ⟨more, hescaped⟩
    · rw [hself]
      exact h
    · rw [hescaped]
      exact fun heq => hpercent (Option.some.inj heq).symm

end Percent

namespace Url

/-- What is escaped in a part of a URL: control characters at least, and nothing that escapes are
made of. -/
structure IsPartSet (set : Percent.Set) : Prop extends set.KeepsEscapes where
  control : ∀ c, Percent.controls c = true → set c = true

theorem isPartSet_controls : IsPartSet Percent.controls :=
  { Percent.controls_keepsEscapes with control := fun _ => id }

theorem IsPartSet.with {set : Percent.Set} (h : IsPartSet set) {more : String}
    (hmore : Percent.isEscapeFree more = true) : IsPartSet (set.with more) :=
  { h.toKeepsEscapes.with hmore with
    control := fun c hc => by simp [Percent.Set.with, h.control c hc] }

theorem isPartSet_fragmentSet : IsPartSet fragmentSet := isPartSet_controls.with (by decide)

theorem isPartSet_pathSet : IsPartSet pathSet := isPartSet_fragmentSet.with (by decide)

theorem isPartSet_userSet : IsPartSet userSet := isPartSet_pathSet.with (by decide)

theorem isPartSet_querySet : IsPartSet querySet := isPartSet_controls.with (by decide)

theorem isPartSet_querySetOf (kind : Kind) : IsPartSet (querySetOf kind) := by
  unfold querySetOf
  split
  · exact isPartSet_querySet
  · exact isPartSet_querySet.with (by decide)

section Clean

variable {set : Percent.Set} {text : List Char}

/-- No control character is left in a part that was escaped. -/
theorem IsPartSet.printable (hset : IsPartSet set) (h : Percent.Clean set text) {c : Char}
    (hc : c ∈ text) : 0x20 ≤ c.toNat ∧ c.toNat < 0x7F := by
  obtain ⟨hascii, hset'⟩ := h c hc
  have hnot : Percent.controls c = false := by
    cases hcontrol : Percent.controls c with
    | false => rfl
    | true => rw [hset.control c hcontrol] at hset'; cases hset'
  simp only [Percent.controls, Bool.or_eq_false_iff, decide_eq_false_iff_not] at hnot
  omega

end Clean

end Url

end SchemaTypes
