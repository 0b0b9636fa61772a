import SchemaTypes.Proofs.Url.Ipv4

set_option autoImplicit false

/-!
# IPv6 addresses

What is read as an IPv6 address are eight pieces of sixteen bits each, and every such address is
read back from its text, in which a run of zeros may be left out.
-/

namespace SchemaTypes.Url

/-! ## What is read -/

/-- Pieces of sixteen bits each. -/
def AreWords (pieces : List Nat) : Prop := ∀ piece ∈ pieces, piece < 65536

theorem AreWords.append {first second : List Nat} (hfirst : AreWords first)
    (hsecond : AreWords second) : AreWords (first ++ second) :=
  List.forall_mem_append.mpr ⟨hfirst, hsecond⟩

theorem AreWords.concat {pieces : List Nat} (h : AreWords pieces) {piece : Nat}
    (hpiece : piece < 65536) : AreWords (pieces ++ [piece]) :=
  h.append (by simpa [AreWords] using hpiece)

theorem le_of_decimalOctet? {digits : List Char} {n : Nat} (h : decimalOctet? digits = some n) :
    n ≤ 255 := by
  unfold decimalOctet? at h
  split at h
  · cases h
  · cases h
  · split at h
    · split at h
      · cases h
        assumption
      · cases h
    · cases h

/-- Hexadecimal digits are digits of base sixteen. -/
theorem number?_eq_radixNumber? (value : Nat) (digits : List Char) :
    Hex.number? value digits = radixNumber? 16 value digits := by
  induction digits generalizing value with
  | nil => rfl
  | cons c rest ih =>
    rw [Hex.number?, radixNumber?]
    cases hc : Hex.value? c with
    | none => rfl
    | some digit =>
      simp only [Hex.value?_lt hc, if_true]
      exact ih _

theorem of_ipv4Pieces? {text : List Char} {pieces : List Nat} (h : ipv4Pieces? text = some pieces) :
    pieces.length = 2 ∧ AreWords pieces := by
  unfold ipv4Pieces? at h
  split at h
  · rename_i a b c d hoctets
    cases h
    have hle : ∀ octet ∈ [a, b, c, d], octet ≤ 255 := fun octet hmem =>
      (exists_of_mem_mapM hoctets hmem).elim fun _ => le_of_decimalOctet?
    simp only [List.forall_mem_cons] at hle
    refine ⟨rfl, ?_⟩
    simp [AreWords]
    omega
  · cases h

/-- Four hexadecimal digits make at most sixteen bits. -/
theorem number_lt (digits : List Char) (h : digits.length ≤ 4) :
    (Hex.number? 0 digits).getD 0 < 65536 := by
  cases hnumber : Hex.number? 0 digits with
  | none => decide
  | some n =>
    rw [number?_eq_radixNumber?] at hnumber
    have hlt := lt_of_radixNumber? hnumber
    have hpow : 16 ^ digits.length ≤ 16 ^ 4 := Nat.pow_le_pow_right (by decide) h
    rw [Option.getD_some]
    omega

/-- What is read of an address are at most eight pieces of sixteen bits each. -/
theorem of_ipv6Pieces {fuel : Nat} {pieces : List Nat} {gap : Option Nat} {text : List Char}
    {out : List Nat} {place : Option Nat} (hlength : pieces.length ≤ 8) (hwords : AreWords pieces)
    (h : ipv6Pieces pieces gap fuel text = some (out, place)) :
    out.length ≤ 8 ∧ AreWords out := by
  induction fuel generalizing pieces gap text with
  | zero =>
    cases text with
    | nil =>
      cases h
      exact ⟨hlength, hwords⟩
    | cons c rest => cases h
  | succ fuel ih =>
    cases text with
    | nil =>
      cases h
      exact ⟨hlength, hwords⟩
    | cons c rest =>
      have hdigits : (((c :: rest).take 4).takeWhile fun c => (Hex.value? c).isSome).length ≤ 4 :=
        Nat.le_trans (List.takeWhile_sublist _).length_le (List.length_take_le 4 _)
      rw [ipv6Pieces] at h
      split at h
      · cases h
      · split at h
        · split at h
          · cases h
          · exact ih (by rw [List.length_append, List.length_singleton]; omega)
              (hwords.concat (by decide)) h
        · simp only at h
          split at h
          · cases h
            refine ⟨?_, hwords.concat (number_lt _ hdigits)⟩
            rw [List.length_append, List.length_singleton]
            omega
          · split at h
            · cases h
            · rename_i hroom
              obtain ⟨last, hlast, hout⟩ := Option.map_eq_some_iff.mp h
              cases hout
              obtain ⟨htwo, hlastWords⟩ := of_ipv4Pieces? hlast
              simp only [Bool.or_eq_true, decide_eq_true_eq, not_or] at hroom
              refine ⟨?_, hwords.append hlastWords⟩
              rw [List.length_append, htwo]
              omega
          · split at h
            · cases h
            · exact ih (by rw [List.length_append, List.length_singleton]; omega)
                (hwords.concat (number_lt _ hdigits)) h
          · cases h

/-- The pieces of an address, with as many zeros at the gap as are missing. -/
def closeGap : List Nat × Option Nat → Option (List Nat)
  | (pieces, some gap) =>
    some (pieces.take gap ++ List.replicate (8 - pieces.length) 0 ++ pieces.drop gap)
  | (pieces, none) => if pieces.length = 8 then some pieces else none

theorem ipv6?_gap (rest : List Char) : ipv6? (':' :: ':' :: rest) =
    (ipv6Pieces [0] (some 1) (rest.length + 1) rest).bind closeGap := by
  unfold ipv6?
  simp only
  cases ipv6Pieces [0] (some 1) (rest.length + 1) rest with
  | none => rfl
  | some found =>
    obtain ⟨pieces, gap⟩ := found
    cases gap <;> rfl

/-- A text that does not start with a gap starts with a piece. -/
theorem ipv6?_of_digit {text : List Char} (hlong : 2 ≤ text.length)
    (hhead : text.head? ≠ some ':') :
    ipv6? text = (ipv6Pieces [] none (text.length + 1) text).bind closeGap := by
  match text, hlong with
  | c :: d :: rest, _ =>
    have hc : c ≠ ':' := fun hc => hhead (congrArg some hc)
    rw [List.length_cons, List.length_cons]
    cases hread : ipv6Pieces [] none (rest.length + 1 + 1 + 1) (c :: d :: rest) with
    | none => simp [ipv6?, hc, hread]
    | some found =>
      obtain ⟨pieces, gap⟩ := found
      cases gap <;> simp [ipv6?, hc, hread, closeGap]

theorem of_closeGap {found : List Nat × Option Nat} {pieces : List Nat}
    (hfound : found.1.length ≤ 8 ∧ AreWords found.1) (h : closeGap found = some pieces) :
    pieces.length = 8 ∧ AreWords pieces := by
  obtain ⟨out, gap⟩ := found
  obtain ⟨hlength, hwords⟩ : out.length ≤ 8 ∧ AreWords out := hfound
  cases gap with
  | some gap =>
    cases h
    refine ⟨?_, ?_⟩
    · simp only [List.length_append, List.length_take, List.length_replicate, List.length_drop]
      omega
    · refine AreWords.append (AreWords.append ?_ ?_) ?_
      · exact fun piece hpiece => hwords piece (List.mem_of_mem_take hpiece)
      · intro piece hpiece
        rw [List.eq_of_mem_replicate hpiece]
        decide
      · exact fun piece hpiece => hwords piece (List.mem_of_mem_drop hpiece)
  | none =>
    rw [closeGap] at h
    split at h
    · rename_i hall
      cases h
      exact ⟨hall, hwords⟩
    · cases h

/-- What is read as an address are eight pieces of sixteen bits each. -/
theorem of_ipv6? {text : List Char} {pieces : List Nat} (h : ipv6? text = some pieces) :
    pieces.length = 8 ∧ AreWords pieces := by
  match text with
  | [] => cases h
  | [c] => by_cases hc : c = ':' <;> simp [ipv6?, hc] at h
  | c :: d :: rest =>
    by_cases hc : c = ':'
    · subst hc
      by_cases hd : d = ':'
      · subst hd
        rw [ipv6?_gap] at h
        obtain ⟨found, hfound, hclosed⟩ := Option.bind_eq_some_iff.mp h
        exact of_closeGap (of_ipv6Pieces (by decide) (by simp [AreWords]) hfound) hclosed
      · simp [ipv6?, hd] at h
    · rw [ipv6?_of_digit (by simp) (by simpa using hc)] at h
      obtain ⟨found, hfound, hclosed⟩ := Option.bind_eq_some_iff.mp h
      exact of_closeGap (of_ipv6Pieces (by decide) (by simp [AreWords]) hfound) hclosed

/-! ## Pieces read back -/

theorem number?_hex (n : Nat) : Hex.number? 0 (Nat.toDigits 16 n) = some n := by
  rw [number?_eq_radixNumber?]
  exact radixNumber?_toDigits (by decide) (by decide) n

theorem isSome_of_mem_hex {n : Nat} {c : Char} (h : c ∈ Nat.toDigits 16 n) :
    (Hex.value? c).isSome = true :=
  isSome_of_radixNumber? (radixNumber?_toDigits (by decide) (by decide) n) h

section Word

variable {n : Nat} (hn : n < 65536)

include hn

theorem length_hex_le : (Nat.toDigits 16 n).length ≤ 4 :=
  (Nat.length_toDigits_le_iff (by decide) (by decide)).mpr hn

/-- The digits of a piece are found before a colon, or at the end. -/
theorem takeWhile_hex {rest : List Char} (hrest : rest = [] ∨ ∃ after, rest = ':' :: after) :
    ((Nat.toDigits 16 n ++ rest).take 4).takeWhile (fun c => (Hex.value? c).isSome) =
      Nat.toDigits 16 n := by
  rw [List.take_append, List.take_of_length_le (length_hex_le hn),
    List.takeWhile_append_of_pos fun c hc => isSome_of_mem_hex hc]
  have hstop : (rest.take (4 - (Nat.toDigits 16 n).length)).takeWhile
      (fun c => (Hex.value? c).isSome) = [] := by
    rcases hrest with rfl | ⟨after, rfl⟩
    · simp
    · cases 4 - (Nat.toDigits 16 n).length with
      | zero => rfl
      | succ k => exact List.takeWhile_cons_of_neg (by decide)
  rw [hstop, List.append_nil]

theorem ipv6Pieces_word {pieces : List Nat} (hroom : pieces.length ≠ 8) (gap : Option Nat)
    (fuel : Nat) {rest : List Char} (hrest : rest = [] ∨ ∃ after, rest = ':' :: after) :
    ipv6Pieces pieces gap (fuel + 1) (Nat.toDigits 16 n ++ rest) =
      match rest with
      | [] => some (pieces ++ [n], gap)
      | _ :: after =>
        if after.isEmpty then none else ipv6Pieces (pieces ++ [n]) gap fuel after := by
  have htake := takeWhile_hex hn hrest
  have hnumber := number?_hex n
  have hne : Nat.toDigits 16 n ≠ [] := Nat.toDigits_ne_nil
  have hdigit : ∀ c ∈ Nat.toDigits 16 n, (Hex.value? c).isSome = true := fun _ => isSome_of_mem_hex
  generalize Nat.toDigits 16 n = digits at *
  cases digits with
  | nil => exact absurd rfl hne
  | cons c more =>
    have hcolon : c ≠ ':' := by
      rintro rfl
      exact absurd (hdigit ':' (List.mem_cons_self ..)) (by decide)
    rw [List.cons_append] at htake ⊢
    rw [ipv6Pieces, if_neg hroom, if_neg hcolon]
    simp only [htake, hnumber, Option.getD_some]
    rw [← List.cons_append, List.drop_left]
    rcases hrest with rfl | ⟨after, rfl⟩
    · rfl
    · simp

end Word

theorem hexPieces_ne_nil {list : List Nat} (h : list ≠ []) : hexPieces list ≠ [] := by
  match list, h with
  | [piece], _ => exact Nat.toDigits_ne_nil
  | piece :: next :: rest, _ =>
    rw [hexPieces]
    exact List.append_ne_nil_of_right_ne_nil _ (List.cons_ne_nil _ _)

theorem length_le_hexPieces (list : List Nat) : list.length ≤ (hexPieces list).length := by
  match list with
  | [] => exact Nat.zero_le _
  | [piece] => exact Nat.length_toDigits_pos
  | piece :: next :: rest =>
    have hrest := length_le_hexPieces (next :: rest)
    rw [hexPieces]
    simp only [List.length_append, List.length_cons] at hrest ⊢
    omega

/-- Pieces are read to the end of a text. -/
theorem ipv6Pieces_hexPieces {list pieces : List Nat} {fuel : Nat} (gap : Option Nat)
    (hwords : AreWords list) (hroom : pieces.length + list.length ≤ 8)
    (hfuel : list.length ≤ fuel) :
    ipv6Pieces pieces gap fuel (hexPieces list) = some (pieces ++ list, gap) := by
  induction list generalizing pieces fuel with
  | nil =>
    rw [List.append_nil]
    cases fuel <;> rfl
  | cons piece rest ih =>
    obtain ⟨hpiece, hrest⟩ := List.forall_mem_cons.mp hwords
    rw [List.length_cons] at hroom hfuel
    obtain ⟨fuel, rfl⟩ : ∃ less, fuel = less + 1 := ⟨fuel - 1, by omega⟩
    have hroom' : pieces.length ≠ 8 := by omega
    cases rest with
    | nil =>
      have hword := ipv6Pieces_word hpiece hroom' gap fuel (Or.inl rfl)
      rwa [List.append_nil] at hword
    | cons next more =>
      rw [hexPieces, ipv6Pieces_word hpiece hroom' gap fuel (Or.inr ⟨_, rfl⟩)]
      have hafter : (hexPieces (next :: more)).isEmpty = false := by
        simpa using hexPieces_ne_nil (List.cons_ne_nil next more)
      simp only [hafter, Bool.false_eq_true, if_false]
      rw [ih hrest (by rw [List.length_append, List.length_singleton]; omega) (by omega),
        List.append_assoc, List.singleton_append]

/-- Pieces are read up to a gap. -/
theorem ipv6Pieces_gap {list pieces : List Nat} (hne : list ≠ []) (hwords : AreWords list)
    (hroom : pieces.length + list.length < 8) (fuel : Nat) (rest : List Char) :
    ipv6Pieces pieces none (list.length + 1 + fuel) (hexPieces list ++ ':' :: ':' :: rest) =
      ipv6Pieces (pieces ++ list ++ [0]) (some (pieces.length + list.length + 1)) fuel rest := by
  induction list generalizing pieces with
  | nil => exact absurd rfl hne
  | cons piece others ih =>
    obtain ⟨hpiece, hothers⟩ := List.forall_mem_cons.mp hwords
    rw [List.length_cons] at hroom ⊢
    have hroom' : pieces.length ≠ 8 := by omega
    have hfuel : others.length + 1 + 1 + fuel = others.length + 1 + fuel + 1 := by omega
    rw [hfuel]
    cases others with
    | nil =>
      rw [hexPieces, ipv6Pieces_word hpiece hroom' none _ (Or.inr ⟨_, rfl⟩)]
      simp only [List.isEmpty_cons, Bool.false_eq_true, if_false]
      have hroom'' : (pieces ++ [piece]).length ≠ 8 := by
        rw [List.length_append, List.length_singleton]
        omega
      have hone : ([] : List Nat).length + 1 + fuel = fuel + 1 := by
        rw [List.length_nil]
        omega
      rw [hone, ipv6Pieces, if_neg hroom'', if_pos rfl, List.length_append]
      rfl
    | cons next more =>
      have hafter : (hexPieces (next :: more) ++ ':' :: ':' :: rest).isEmpty = false := by simp
      rw [hexPieces, List.append_assoc, List.cons_append,
        ipv6Pieces_word hpiece hroom' none _ (Or.inr ⟨_, rfl⟩)]
      simp only [hafter, Bool.false_eq_true, if_false]
      have hlist : pieces ++ [piece] ++ (next :: more) = pieces ++ piece :: next :: more := by simp
      have hplace : (pieces ++ [piece]).length + (next :: more).length =
          pieces.length + ((next :: more).length + 1) := by
        rw [List.length_append, List.length_singleton]
        omega
      rw [ih (List.cons_ne_nil _ _) hothers (by omega), hlist, hplace]

/-- The longest run of zeros is a part of the pieces. -/
theorem exists_of_longestZeros (list : List Nat) (start : Nat) : ∃ before after,
    list = before ++ List.replicate (longestZeros start list).2 0 ++ after ∧
      (longestZeros start list).1 = start + before.length := by
  induction list generalizing start with
  | nil => exact ⟨[], [], rfl, rfl⟩
  | cons piece rest ih =>
    obtain ⟨before, after, hrest, hplace⟩ := ih (start + 1)
    rw [longestZeros]
    simp only
    split
    · have hzeros : (piece :: rest).takeWhile (· = 0) =
          List.replicate (leadingZeros (piece :: rest)) 0 :=
        List.eq_replicate_iff.mpr ⟨rfl, fun b hb => by
            simpa using List.all_eq_true.mp List.all_takeWhile b hb⟩
      refine ⟨[], (piece :: rest).dropWhile (· = 0), ?_, rfl⟩
      rw [List.nil_append, ← hzeros, List.takeWhile_append_dropWhile]
    · refine ⟨piece :: before, after, congrArg (piece :: ·) hrest, ?_⟩
      rw [hplace, List.length_cons]
      omega

theorem closeGap_at (before after : List Nat) :
    closeGap (before ++ [0] ++ after, some (before.length + 1)) =
      some (before ++ [0] ++ List.replicate (7 - (before.length + after.length)) 0 ++ after) := by
  have htake : (before ++ [0]).length = before.length + 1 := List.length_append
  rw [closeGap, ← htake, List.take_left, List.drop_left, List.length_append, htake]
  have hmissing : 8 - (before.length + 1 + after.length) = 7 - (before.length + after.length) := by
    omega
  rw [hmissing]

theorem head?_hexPieces {list : List Nat} (h : list ≠ []) (rest : List Char) :
    (hexPieces list ++ rest).head? ≠ some ':' := by
  have hdigits : ∀ (n : Nat) (more : List Char), (Nat.toDigits 16 n ++ more).head? ≠ some ':' := by
    intro n more hhead
    have hne : Nat.toDigits 16 n ≠ [] := Nat.toDigits_ne_nil
    obtain ⟨c, digits, hcons⟩ := List.exists_cons_of_ne_nil hne
    rw [hcons, List.cons_append, List.head?_cons, Option.some.injEq] at hhead
    have hc : c ∈ Nat.toDigits 16 n := by
      rw [hcons]
      exact List.mem_cons_self
    rw [hhead] at hc
    exact absurd (isSome_of_mem_hex hc) (by decide)
  match list, h with
  | [piece], _ => exact hdigits piece rest
  | piece :: next :: more, _ =>
    rw [hexPieces, List.append_assoc]
    exact hdigits piece _

/-- Eight pieces are read back if none of them is left out. -/
theorem ipv6?_hexPieces {pieces : List Nat} (hlength : pieces.length = 8)
    (hwords : AreWords pieces) : ipv6? (hexPieces pieces) = some pieces := by
  have hne : pieces ≠ [] := List.ne_nil_of_length_pos (by omega)
  have hlong := length_le_hexPieces pieces
  have hhead := head?_hexPieces hne []
  rw [List.append_nil] at hhead
  have hread : ipv6Pieces [] none ((hexPieces pieces).length + 1) (hexPieces pieces) =
      some (pieces, none) :=
    ipv6Pieces_hexPieces none hwords (by rw [List.length_nil]; omega) (by omega)
  rw [ipv6?_of_digit (by omega) hhead, hread]
  exact if_pos hlength

/-- The pieces on both sides of a gap are read back, with zeros in it. -/
theorem ipv6?_hexPieces_gap {before after : List Nat} (hbefore : AreWords before)
    (hafter : AreWords after) (hroom : before.length + after.length < 8) :
    ipv6? (hexPieces before ++ ':' :: ':' :: hexPieces after) =
      some (before ++ [0] ++ List.replicate (7 - (before.length + after.length)) 0 ++ after) := by
  have hlong := length_le_hexPieces after
  rw [← closeGap_at]
  cases before with
  | nil =>
    change ipv6? (':' :: ':' :: hexPieces after) = _
    rw [List.length_nil] at hroom
    rw [ipv6?_gap, ipv6Pieces_hexPieces _ hafter (by rw [List.length_singleton]; omega) (by omega)]
    rfl
  | cons first rest =>
    have hne : first :: rest ≠ [] := List.cons_ne_nil first rest
    have hdigits := length_le_hexPieces (first :: rest)
    have hwhole : 2 ≤ (hexPieces (first :: rest) ++ ':' :: ':' :: hexPieces after).length := by
      simp only [List.length_append, List.length_cons]
      omega
    obtain ⟨fuel, hfuel, hleft⟩ : ∃ fuel,
        (hexPieces (first :: rest) ++ ':' :: ':' :: hexPieces after).length + 1 =
          (first :: rest).length + 1 + fuel ∧ after.length ≤ fuel := by
      refine ⟨(hexPieces (first :: rest) ++ ':' :: ':' :: hexPieces after).length -
        (first :: rest).length, ?_, ?_⟩
      · simp only [List.length_append]
        omega
      · simp only [List.length_append, List.length_cons] at hdigits ⊢
        omega
    have hplaces : (first :: rest ++ [0]).length + after.length ≤ 8 := by
      rw [List.length_append, List.length_singleton]
      omega
    have hread : ipv6Pieces [] none
        ((hexPieces (first :: rest) ++ ':' :: ':' :: hexPieces after).length + 1)
        (hexPieces (first :: rest) ++ ':' :: ':' :: hexPieces after) =
          some (first :: rest ++ [0] ++ after, some ((first :: rest).length + 1)) := by
      rw [hfuel, ipv6Pieces_gap hne hbefore (by rw [List.length_nil]; omega), List.nil_append,
        ipv6Pieces_hexPieces _ hafter hplaces hleft, List.length_nil, Nat.zero_add]
    rw [ipv6?_of_digit hwhole (head?_hexPieces hne _), hread]
    rfl

/-- An address is read back from its text. -/
theorem ipv6?_ipv6Text {pieces : List Nat} (hlength : pieces.length = 8)
    (hwords : AreWords pieces) : ipv6? (ipv6Text pieces) = some pieces := by
  obtain ⟨before, after, hpieces, hplace⟩ := exists_of_longestZeros pieces 0
  unfold ipv6Text
  generalize longestZeros 0 pieces = run at hpieces hplace
  obtain ⟨place, length⟩ := run
  simp only [Nat.zero_add] at hpieces hplace ⊢
  split
  · exact ipv6?_hexPieces hlength hwords
  · rename_i hrun
    have htotal : before.length + length + after.length = 8 := by
      rw [← hlength, hpieces]
      simp only [List.length_append, List.length_replicate]
    have htake : pieces.take place = before := by
      rw [hpieces, List.append_assoc, hplace, List.take_left]
    have hdrop : pieces.drop (place + length) = after := by
      have hskip : (before ++ List.replicate length 0).length = place + length := by
        rw [List.length_append, List.length_replicate, hplace]
      rw [hpieces, ← hskip, List.drop_left]
    have hbefore : AreWords before := fun piece hpiece => by
      rw [← htake] at hpiece
      exact hwords piece (List.mem_of_mem_take hpiece)
    have hafter : AreWords after := fun piece hpiece => by
      rw [← hdrop] at hpiece
      exact hwords piece (List.mem_of_mem_drop hpiece)
    have hzeros : [0] ++ List.replicate (7 - (before.length + after.length)) 0 =
        List.replicate length 0 := by
      rw [List.singleton_append, ← List.replicate_succ]
      congr 1
      omega
    rw [htake, hdrop, ipv6?_hexPieces_gap hbefore hafter (by omega), List.append_assoc before [0],
      hzeros, hpieces]

end SchemaTypes.Url
