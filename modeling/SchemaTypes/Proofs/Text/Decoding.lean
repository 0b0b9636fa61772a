import SchemaTypes.Proofs.Text.Escapes

set_option autoImplicit false

/-!
# Undoing escapes

A text is never made longer by undoing its escapes, and shorter by every escape that is undone: so
it either stays as it is or gets shorter.  Escaping it before makes no difference to what comes out,
provided that neither `%` nor hexadecimal digits are escaped.
-/

namespace SchemaTypes

/-! ## Octets that are no text -/

namespace Utf8

section Tails

variable {b : UInt8}

theorem isTail_of_isSecondOfThree {lead : UInt8} (h : isSecondOfThree lead b = true) :
    isTail b = true := by
  unfold isSecondOfThree at h
  unfold isTail at *
  split at h
  · simp only [Bool.and_eq_true, decide_eq_true_eq] at *
    omega
  · split at h
    · simp only [Bool.and_eq_true, decide_eq_true_eq] at *
      omega
    · exact h

theorem isTail_of_isSecondOfFour {lead : UInt8} (h : isSecondOfFour lead b = true) :
    isTail b = true := by
  unfold isSecondOfFour at h
  unfold isTail at *
  split at h
  · simp only [Bool.and_eq_true, decide_eq_true_eq] at *
    omega
  · split at h
    · simp only [Bool.and_eq_true, decide_eq_true_eq] at *
      omega
    · exact h

/-- A continuing octet starts no character. -/
theorem decodeLossy_of_isTail (h : isTail b = true) (rest : List UInt8) :
    decodeLossy (b :: rest) = replacement :: decodeLossy rest := by
  unfold isTail at h
  simp only [Bool.and_eq_true, decide_eq_true_eq] at h
  rw [decodeLossy.eq_def]
  simp only
  rw [if_neg (by omega), if_neg (by omega), if_neg (by omega), if_neg (by omega)]

end Tails

/-- One more octet makes at most one more character. -/
theorem length_decodeLossy_cons_le (lead : UInt8) (rest : List UInt8) :
    (decodeLossy (lead :: rest)).length ≤ (decodeLossy rest).length + 1 := by
  rw [decodeLossy.eq_def]
  simp only
  split
  · simp
  split
  · split
    · rename_i b after
      split
      · rename_i hb
        simp [decodeLossy_of_isTail hb]
      · simp
    · simp
  split
  · split
    · rename_i b c after
      split
      · rename_i hb
        rw [decodeLossy_of_isTail (isTail_of_isSecondOfThree hb)]
        split
        · rename_i hc
          simp [decodeLossy_of_isTail hc]
        · simp
      · simp
    · split <;> simp
    · simp
  split
  · split
    · rename_i b c d after
      split
      · rename_i hb
        rw [decodeLossy_of_isTail (isTail_of_isSecondOfFour hb)]
        split
        · rename_i hc
          rw [decodeLossy_of_isTail hc]
          split
          · rename_i hd
            simp [decodeLossy_of_isTail hd]
          · simp
        · simp
      · simp
    · rename_i b c
      split
      · rename_i hb
        rw [decodeLossy_of_isTail (isTail_of_isSecondOfFour hb)]
        split <;> simp
      · simp
    · split <;> simp
    · simp
  · simp

end Utf8

/-! ## Percent escapes -/

namespace Percent

/-- Two hexadecimal digits at the start of a text. -/
def startsWithDigits : List Char → Bool
  | high :: low :: _ => (Hex.value? high).isSome && (Hex.value? low).isSome
  | _ => false

/-- A `%` that two hexadecimal digits do not follow stands for itself. -/
theorem octets_percent_of_not {rest : List Char} (h : startsWithDigits rest = false) :
    octets ('%' :: rest) = Utf8.encodeChar '%' ++ octets rest := by
  match rest, h with
  | [], _ => rfl
  | [_], _ => rfl
  | high :: low :: rest, h =>
    rw [octets]
    cases hhigh : Hex.value? high with
    | none => rfl
    | some n =>
      cases hlow : Hex.value? low with
      | none => rfl
      | some m => simp [startsWithDigits, hhigh, hlow] at h

/-- A `%` and two hexadecimal digits stand for one octet. -/
theorem exists_octets_percent {rest : List Char} (h : startsWithDigits rest = true) :
    ∃ high low more b, rest = high :: low :: more ∧
      ∀ after, octets ('%' :: high :: low :: after) = b :: octets after := by
  match rest, h with
  | high :: low :: more, h =>
    simp only [startsWithDigits, Bool.and_eq_true] at h
    obtain ⟨n, hhigh⟩ := Option.isSome_iff_exists.mp h.1
    obtain ⟨m, hlow⟩ := Option.isSome_iff_exists.mp h.2
    refine ⟨high, low, more, UInt8.ofNat (n * 16 + m), rfl, fun after => ?_⟩
    rw [octets, hhigh, hlow]

/-- Every character stands for its octets, or it starts an escape. -/
theorem octets_cons (c : Char) (rest : List Char) :
    octets (c :: rest) = Utf8.encodeChar c ++ octets rest ∨
      c = '%' ∧ startsWithDigits rest = true := by
  by_cases hc : c = '%'
  · subst hc
    cases h : startsWithDigits rest with
    | false => exact Or.inl (octets_percent_of_not h)
    | true => exact Or.inr ⟨rfl, rfl⟩
  · exact Or.inl (octets_cons_of_ne hc rest)

/-- Undoing escapes leaves a text as it is or makes it shorter. -/
theorem decode_eq_or_length_lt (text : List Char) :
    decode text = text ∨ (decode text).length < text.length := by
  induction hn : text.length using Nat.strongRecOn generalizing text with
  | ind n ih =>
    match text with
    | [] => exact Or.inl rfl
    | c :: rest =>
      rcases octets_cons c rest with hplain | ⟨rfl, hdigits⟩
      · have hcons : decode (c :: rest) = c :: decode rest := by
          unfold decode
          rw [hplain, Utf8.decodeLossy_encodeChar]
        rw [List.length_cons] at hn
        rw [hcons]
        rcases ih _ (by omega) rest rfl with heq | hlt
        · exact Or.inl (by rw [heq])
        · exact Or.inr (by rw [List.length_cons]; omega)
      · obtain ⟨high, low, more, b, rfl, hb⟩ := exists_octets_percent hdigits
        have hone : (decode ('%' :: high :: low :: more)).length ≤ (decode more).length + 1 := by
          unfold decode
          rw [hb]
          exact Utf8.length_decodeLossy_cons_le b _
        simp only [List.length_cons] at hn
        have hrest : (decode more).length ≤ more.length := by
          rcases ih _ (by omega) more rfl with heq | hlt
          · exact Nat.le_of_eq (congrArg List.length heq)
          · omega
        exact Or.inr (by omega)

theorem decode_cons_of_ne {c : Char} (h : c ≠ '%') (rest : List Char) :
    decode (c :: rest) = c :: decode rest := by
  unfold decode
  rw [octets_cons_of_ne h, Utf8.decodeLossy_encodeChar]

/-- A text without escapes stands for itself. -/
theorem decode_of_not_mem {text : List Char} (h : '%' ∉ text) : decode text = text := by
  induction text with
  | nil => rfl
  | cons c rest ih =>
    rw [decode_cons_of_ne (Ne.symm (List.ne_of_not_mem_cons h)),
      ih (List.not_mem_of_not_mem_cons h)]

theorem length_decode_le (text : List Char) : (decode text).length ≤ text.length := by
  rcases decode_eq_or_length_lt text with h | h
  · exact Nat.le_of_eq (congrArg List.length h)
  · omega

/-! ## Escaping before -/

/-- A set of which neither `%` nor a hexadecimal digit is a member. -/
structure Set.KeepsEscapes (set : Set) : Prop where
  percent : set '%' = false
  digit : ∀ c, (Hex.value? c).isSome = true → set c = false

section Keeping

variable {set : Set}

theorem encode_cons (set : Set) (c : Char) (rest : List Char) :
    encode set (c :: rest) = encodeChar set c ++ encode set rest := rfl

theorem encodeChar_eq_self {c : Char} (hascii : c.toNat < 0x80) (h : set c = false) :
    encodeChar set c = [c] := by
  unfold encodeChar
  rw [if_pos]
  simp [hascii, h]

theorem toNat_lt_of_digit {c : Char} (h : (Hex.value? c).isSome = true) : c.toNat < 0x80 := by
  unfold Hex.value? at h
  simp only at h
  split at h
  · omega
  · split at h
    · omega
    · split at h
      · omega
      · cases h

/-- An escaped character starts with `%`. -/
theorem encodeChar_head (set : Set) (c : Char) :
    encodeChar set c = [c] ∨ ∃ rest, encodeChar set c = '%' :: rest := by
  unfold encodeChar
  split
  · exact Or.inl rfl
  · right
    unfold Utf8.encodeChar
    simp only
    split
    · exact ⟨_, rfl⟩
    · split
      · exact ⟨_, rfl⟩
      · split <;> exact ⟨_, rfl⟩

/-- Whether a character is a hexadecimal digit is seen from its escaped form. -/
theorem encode_cons_of_digit (hset : set.KeepsEscapes) {c : Char}
    (h : (Hex.value? c).isSome = true) (rest : List Char) :
    encode set (c :: rest) = c :: encode set rest := by
  rw [encode_cons, encodeChar_eq_self (toNat_lt_of_digit h) (hset.digit c h)]
  rfl

theorem exists_encode_cons_of_not_digit (set : Set) {c : Char}
    (h : (Hex.value? c).isSome = false) (rest : List Char) :
    ∃ first more, encode set (c :: rest) = first :: more ∧ (Hex.value? first).isSome = false := by
  rw [encode_cons]
  rcases encodeChar_head set c with hself | ⟨more, hescaped⟩
  · exact ⟨c, _, by rw [hself]; rfl, h⟩
  · exact ⟨'%', _, by rw [hescaped]; rfl, by decide⟩

theorem startsWithDigits_of_not {first : Char} (h : (Hex.value? first).isSome = false)
    (more : List Char) : startsWithDigits (first :: more) = false := by
  cases more with
  | nil => rfl
  | cons second more => simp [startsWithDigits, h]

theorem startsWithDigits_encode (hset : set.KeepsEscapes) (text : List Char) :
    startsWithDigits (encode set text) = startsWithDigits text := by
  match text with
  | [] => rfl
  | c :: rest =>
    cases hc : (Hex.value? c).isSome with
    | false =>
      obtain ⟨first, more, hencode, hfirst⟩ := exists_encode_cons_of_not_digit set hc rest
      rw [hencode, startsWithDigits_of_not hfirst, startsWithDigits_of_not hc]
    | true =>
      rw [encode_cons_of_digit hset hc]
      match rest with
      | [] => rfl
      | d :: rest =>
        cases hd : (Hex.value? d).isSome with
        | true =>
          rw [encode_cons_of_digit hset hd]
          simp [startsWithDigits]
        | false =>
          obtain ⟨second, more, hencode, hsecond⟩ :=
            exists_encode_cons_of_not_digit set hd rest
          rw [hencode]
          simp [startsWithDigits, hsecond, hd]

/-- Escapes are seen through escaping. -/
theorem octets_encode_of_keepsEscapes (hset : set.KeepsEscapes) (text : List Char) :
    octets (encode set text) = octets text := by
  induction hn : text.length using Nat.strongRecOn generalizing text with
  | ind n ih =>
    match text with
    | [] => rfl
    | c :: rest =>
      rw [List.length_cons] at hn
      by_cases hc : c = '%'
      · subst hc
        have hpercent : encode set ('%' :: rest) = '%' :: encode set rest := by
          rw [encode_cons, encodeChar_eq_self (by decide) hset.percent]
          rfl
        rw [hpercent]
        cases hdigits : startsWithDigits rest with
        | false =>
          have hencoded := (startsWithDigits_encode hset rest).trans hdigits
          rw [octets_percent_of_not hencoded, octets_percent_of_not hdigits,
            ih _ (by omega) rest rfl]
        | true =>
          obtain ⟨high, low, more, b, rfl, hb⟩ := exists_octets_percent hdigits
          simp only [startsWithDigits, Bool.and_eq_true] at hdigits
          rw [encode_cons_of_digit hset hdigits.1, encode_cons_of_digit hset hdigits.2, hb, hb]
          simp only [List.length_cons] at hn
          rw [ih _ (by omega) more rfl]
      · rw [encode_cons, octets_encodeChar (fun h => absurd h hc), octets_cons_of_ne hc,
          ih _ (by omega) rest rfl]

theorem decode_encode_of_keepsEscapes (hset : set.KeepsEscapes) (text : List Char) :
    decode (encode set text) = decode text := by
  unfold decode
  rw [octets_encode_of_keepsEscapes hset]

end Keeping

end Percent

end SchemaTypes
