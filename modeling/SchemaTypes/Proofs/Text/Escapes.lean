import SchemaTypes.Text.Percent

set_option autoImplicit false

/-!
# Escapes read back

The octets of a character are read as that character, whatever follows them, and percent escapes as
the octets that they stand for.  So a text is never lost by encoding it, provided that `%` itself is
escaped.
-/

namespace SchemaTypes

/-! ## Octets -/

namespace Utf8

section Forms

variable {a b c d : UInt8}

theorem decodeLossy_one (ha : a.toNat < 0x80) (rest : List UInt8) :
    decodeLossy (a :: rest) = Char.ofNat a.toNat :: decodeLossy rest := by
  rw [decodeLossy.eq_def]
  simp only
  rw [if_pos ha]

theorem decodeLossy_two (ha : 0xC2 ≤ a.toNat ∧ a.toNat ≤ 0xDF) (hb : isTail b = true)
    (rest : List UInt8) : decodeLossy (a :: b :: rest) =
      Char.ofNat ((a.toNat - 0xC0) * 64 + tailBits b) :: decodeLossy rest := by
  rw [decodeLossy.eq_def]
  simp only
  rw [if_neg (by omega), if_pos ha, if_pos hb]

theorem decodeLossy_three (ha : 0xE0 ≤ a.toNat ∧ a.toNat ≤ 0xEF)
    (hb : isSecondOfThree a b = true) (hc : isTail c = true) (rest : List UInt8) :
    decodeLossy (a :: b :: c :: rest) =
      Char.ofNat ((a.toNat - 0xE0) * 4096 + tailBits b * 64 + tailBits c) ::
        decodeLossy rest := by
  rw [decodeLossy.eq_def]
  simp only
  rw [if_neg (by omega), if_neg (by omega), if_pos ha, if_pos hb, if_pos hc]

theorem decodeLossy_four (ha : 0xF0 ≤ a.toNat ∧ a.toNat ≤ 0xF4)
    (hb : isSecondOfFour a b = true) (hc : isTail c = true) (hd : isTail d = true)
    (rest : List UInt8) : decodeLossy (a :: b :: c :: d :: rest) =
      Char.ofNat ((a.toNat - 0xF0) * 262144 + tailBits b * 4096 + tailBits c * 64 +
        tailBits d) :: decodeLossy rest := by
  rw [decodeLossy.eq_def]
  simp only
  rw [if_neg (by omega), if_neg (by omega), if_neg (by omega), if_pos ha, if_pos hb, if_pos hc,
    if_pos hd]

end Forms

theorem toNat_ofNat_of_lt {n : Nat} (h : n < 256) : (UInt8.ofNat n).toNat = n := by
  rw [UInt8.toNat_ofNat', Nat.mod_eq_of_lt h]

/-- Six bits are carried by a continuing octet. -/
theorem isTail_ofNat (n : Nat) : isTail (UInt8.ofNat (0x80 + n % 64)) = true := by
  unfold isTail
  rw [toNat_ofNat_of_lt (by omega)]
  simp only [Bool.and_eq_true, decide_eq_true_eq]
  omega

theorem tailBits_ofNat (n : Nat) : tailBits (UInt8.ofNat (0x80 + n % 64)) = n % 64 := by
  unfold tailBits
  rw [toNat_ofNat_of_lt (by omega)]
  omega

/-- A character is a number below the surrogates, or above them. -/
theorem toNat_bounds (c : Char) :
    c.toNat < 0xD800 ∨ (0xDFFF < c.toNat ∧ c.toNat < 0x110000) := c.valid

/-- The octets of a character are read as that character. -/
theorem decodeLossy_encodeChar (c : Char) (rest : List UInt8) :
    decodeLossy (encodeChar c ++ rest) = c :: decodeLossy rest := by
  have hc := toNat_bounds c
  have hback : Char.ofNat c.toNat = c := Char.ofNat_toNat c
  unfold encodeChar
  generalize c.toNat = n at hc hback
  by_cases h1 : n < 0x80
  · have hlead : (UInt8.ofNat n).toNat = n := toNat_ofNat_of_lt (by omega)
    simp only [if_pos h1, List.cons_append, List.nil_append]
    rw [decodeLossy_one (by omega), hlead, hback]
  · by_cases h2 : n < 0x800
    · have hlead : (UInt8.ofNat (0xC0 + n / 64)).toNat = 0xC0 + n / 64 :=
        toNat_ofNat_of_lt (by omega)
      have hvalue : (0xC0 + n / 64 - 0xC0) * 64 + n % 64 = n := by omega
      simp only [if_neg h1, if_pos h2, List.cons_append, List.nil_append]
      rw [decodeLossy_two (by omega) (isTail_ofNat n), hlead, tailBits_ofNat, hvalue, hback]
    · by_cases h3 : n < 0x10000
      · have hlead : (UInt8.ofNat (0xE0 + n / 4096)).toNat = 0xE0 + n / 4096 :=
          toNat_ofNat_of_lt (by omega)
        have hsecond : isSecondOfThree (UInt8.ofNat (0xE0 + n / 4096))
            (UInt8.ofNat (0x80 + n / 64 % 64)) = true := by
          have hnat : (UInt8.ofNat (0x80 + n / 64 % 64)).toNat = 0x80 + n / 64 % 64 :=
            toNat_ofNat_of_lt (by omega)
          unfold isSecondOfThree
          rw [isTail_ofNat, hlead, hnat]
          split
          · simp only [Bool.and_eq_true, decide_eq_true_eq]
            omega
          · split
            · simp only [Bool.and_eq_true, decide_eq_true_eq]
              omega
            · rfl
        have hvalue : (0xE0 + n / 4096 - 0xE0) * 4096 + n / 64 % 64 * 64 + n % 64 = n := by
          omega
        simp only [if_neg h1, if_neg h2, if_pos h3, List.cons_append, List.nil_append]
        rw [decodeLossy_three (by omega) hsecond (isTail_ofNat n), hlead, tailBits_ofNat,
          tailBits_ofNat, hvalue, hback]
      · have hlead : (UInt8.ofNat (0xF0 + n / 262144)).toNat = 0xF0 + n / 262144 :=
          toNat_ofNat_of_lt (by omega)
        have hsecond : isSecondOfFour (UInt8.ofNat (0xF0 + n / 262144))
            (UInt8.ofNat (0x80 + n / 4096 % 64)) = true := by
          have hnat : (UInt8.ofNat (0x80 + n / 4096 % 64)).toNat = 0x80 + n / 4096 % 64 :=
            toNat_ofNat_of_lt (by omega)
          unfold isSecondOfFour
          rw [isTail_ofNat, hlead, hnat]
          split
          · simp only [Bool.and_eq_true, decide_eq_true_eq]
            omega
          · split
            · simp only [Bool.and_eq_true, decide_eq_true_eq]
              omega
            · rfl
        have hvalue : (0xF0 + n / 262144 - 0xF0) * 262144 + n / 4096 % 64 * 4096 +
            n / 64 % 64 * 64 + n % 64 = n := by
          omega
        simp only [if_neg h1, if_neg h2, if_neg h3, List.cons_append, List.nil_append]
        rw [decodeLossy_four (by omega) hsecond (isTail_ofNat _) (isTail_ofNat n), hlead,
          tailBits_ofNat, tailBits_ofNat, tailBits_ofNat, hvalue, hback]

/-- A text is read back from its octets. -/
theorem decodeLossy_encode (text : List Char) : decodeLossy (encode text) = text := by
  induction text with
  | nil => rfl
  | cons c rest ih =>
    have hcons : encode (c :: rest) = encodeChar c ++ encode rest := rfl
    rw [hcons, decodeLossy_encodeChar, ih]

end Utf8

/-! ## Percent escapes -/

namespace Percent

/-- An escaped octet is read as that octet. -/
theorem octets_escapeOctet (b : UInt8) (rest : List Char) :
    octets (escapeOctet b ++ rest) = b :: octets rest := by
  have hb : b.toNat < 256 := UInt8.toNat_lt b
  have hvalue : b.toNat / 16 * 16 + b.toNat % 16 = b.toNat := by omega
  unfold escapeOctet
  simp only [List.cons_append, List.nil_append]
  rw [octets, Hex.value?_upperDigit _ (by omega), Hex.value?_upperDigit _ (by omega)]
  simp only [hvalue, UInt8.ofNat_toNat]

theorem octets_escapeOctets (bytes : List UInt8) (rest : List Char) :
    octets (bytes.flatMap escapeOctet ++ rest) = bytes ++ octets rest := by
  induction bytes with
  | nil => rfl
  | cons b bytes ih =>
    rw [List.flatMap_cons, List.append_assoc, octets_escapeOctet, ih, List.cons_append]

/-- A character other than `%` stands for its octets. -/
theorem octets_cons_of_ne {c : Char} (h : c ≠ '%') (rest : List Char) :
    octets (c :: rest) = Utf8.encodeChar c ++ octets rest := by
  rw [octets.eq_def]
  split
  · rename_i heq
    exact absurd (List.cons.inj heq).1 h
  · rename_i heq
    obtain ⟨rfl, rfl⟩ := List.cons.inj heq
    rfl
  · rename_i heq
    cases heq

/-- A character is read as its octets, escaped or not, unless it is a `%` that is left as it is. -/
theorem octets_encodeChar {set : Set} {c : Char} (h : c = '%' → set c = true) (rest : List Char) :
    octets (encodeChar set c ++ rest) = Utf8.encodeChar c ++ octets rest := by
  unfold encodeChar
  split
  · rename_i hplain
    have hne : c ≠ '%' := by
      intro hc
      simp [h hc] at hplain
    exact octets_cons_of_ne hne rest
  · exact octets_escapeOctets _ rest

theorem octets_encode {set : Set} (h : set '%' = true) (text : List Char) :
    octets (encode set text) = Utf8.encode text := by
  induction text with
  | nil => rfl
  | cons c rest ih =>
    have hcons : encode set (c :: rest) = encodeChar set c ++ encode set rest := rfl
    rw [hcons, octets_encodeChar (fun hc => by rw [hc, h]), ih]
    rfl

/-- A text is read back from its escaped form. -/
theorem decode_encode {set : Set} (h : set '%' = true) (text : List Char) :
    decode (encode set text) = text := by
  unfold decode
  rw [octets_encode h, Utf8.decodeLossy_encode]

/-- The characters of an escaped text are those that need no escape, `%` and hexadecimal digits. -/
theorem mem_encode {set : Set} {c : Char} {text : List Char} (h : c ∈ encode set text) :
    (c ∈ text ∧ set c = false) ∨ c = '%' ∨ ∃ n < 16, c = Hex.upperDigit n := by
  obtain ⟨source, hsource, hc⟩ := List.mem_flatMap.mp h
  unfold encodeChar at hc
  split at hc
  · rename_i hplain
    obtain rfl := List.mem_singleton.mp hc
    left
    refine ⟨hsource, ?_⟩
    simpa using (Bool.and_eq_true_iff.mp hplain).2
  · right
    obtain ⟨b, -, hb⟩ := List.mem_flatMap.mp hc
    have hlt : b.toNat < 256 := UInt8.toNat_lt b
    simp only [escapeOctet, List.mem_cons, List.not_mem_nil, or_false] at hb
    rcases hb with rfl | rfl | rfl
    · exact Or.inl rfl
    · exact Or.inr ⟨b.toNat / 16, by omega, rfl⟩
    · exact Or.inr ⟨b.toNat % 16, by omega, rfl⟩

end Percent

end SchemaTypes
