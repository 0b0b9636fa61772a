import Mathlib.Algebra.Group.Nat.Defs
import SchemaTypes.Proofs.Text.Ascii
import SchemaTypes.Proofs.Text.Splitting
import SchemaTypes.Url.Host

set_option autoImplicit false

/-!
# IPv4 addresses

What is read as an IPv4 address is a number of 32 bits, and every such number is read back from its
dotted decimal form.
-/

namespace SchemaTypes

/-! ## Numerals -/

namespace Hex

theorem value?_lt {c : Char} {n : Nat} (h : value? c = some n) : n < 16 := by
  unfold value? at h
  simp only at h
  split at h
  · cases h
    omega
  · split at h
    · cases h
      omega
    · split at h
      · cases h
        omega
      · cases h

theorem value?_digitChar {n : Nat} (h : n < 16) : value? (Nat.digitChar n) = some n := by
  have hall : ∀ m < 16, value? (Nat.digitChar m) = some m := by decide
  exact hall n h

end Hex

namespace Url

theorem radixNumber?_append (base value : Nat) (digits : List Char) (c : Char) :
    radixNumber? base value (digits ++ [c]) =
      (radixNumber? base value digits).bind fun before => radixNumber? base before [c] := by
  induction digits generalizing value with
  | nil => rfl
  | cons d rest ih =>
    rw [List.cons_append, radixNumber?, radixNumber?]
    split
    · split
      · exact ih _
      · rfl
    · rfl

/-- A number is read back from its numeral. -/
theorem radixNumber?_toDigits {base : Nat} (hlow : 1 < base) (hhigh : base ≤ 16) (n : Nat) :
    radixNumber? base 0 (Nat.toDigits base n) = some n := by
  have hdigit : ∀ before digit, digit < base →
      radixNumber? base before [Nat.digitChar digit] = some (before * base + digit) := by
    intro before digit hdigit
    have hvalue := Hex.value?_digitChar (Nat.lt_of_lt_of_le hdigit hhigh)
    simp only [radixNumber?, hvalue, hdigit, if_true]
  induction n using Nat.strongRecOn with
  | ind n ih =>
    rw [Nat.toDigits_eq_if hlow]
    split
    · rename_i hlt
      rw [hdigit 0 n hlt, Nat.zero_mul, Nat.zero_add]
    · rename_i hge
      have hsmaller : n / base < n := Nat.div_lt_self (by omega) hlow
      rw [radixNumber?_append, ih _ hsmaller, Option.bind_some,
        hdigit _ _ (Nat.mod_lt _ (by omega)), Nat.div_add_mod']

/-- A number has no more digits than its numeral. -/
theorem lt_of_radixNumber? {base value n : Nat} {digits : List Char}
    (h : radixNumber? base value digits = some n) : n < (value + 1) * base ^ digits.length := by
  induction digits generalizing value with
  | nil =>
    cases h
    simp
  | cons c rest ih =>
    rw [radixNumber?] at h
    split at h
    · rename_i digit hdigit
      split at h
      · rename_i hlt
        refine Nat.lt_of_lt_of_le (ih h) ?_
        rw [List.length_cons, Nat.pow_succ', ← Nat.mul_assoc]
        refine Nat.mul_le_mul_right _ ?_
        rw [Nat.add_mul, Nat.one_mul]
        omega
      · cases h
    · cases h

theorem isSome_of_radixNumber? {base value n : Nat} {digits : List Char}
    (h : radixNumber? base value digits = some n) {c : Char} (hc : c ∈ digits) :
    (Hex.value? c).isSome = true := by
  induction digits generalizing value with
  | nil => cases hc
  | cons d rest ih =>
    rw [radixNumber?] at h
    split at h
    · rename_i digit hdigit
      split at h
      · rcases List.mem_cons.mp hc with rfl | hmem
        · rw [hdigit]
          rfl
        · exact ih h hmem
      · cases h
    · cases h

/-! ## Lists of numerals -/

theorem length_of_mapM {α β : Type} {f : α → Option β} {items : List α} {out : List β}
    (h : items.mapM f = some out) : out.length = items.length := by
  induction items generalizing out with
  | nil =>
    cases h
    rfl
  | cons item rest ih =>
    rw [List.mapM_cons] at h
    simp only [Option.bind_eq_bind, Option.bind_eq_some_iff] at h
    obtain ⟨first, -, more, hrest, hout⟩ := h
    cases hout
    rw [List.length_cons, List.length_cons, ih hrest]

theorem exists_of_mem_mapM {α β : Type} {f : α → Option β} {items : List α} {out : List β}
    (h : items.mapM f = some out) {value : β} (hvalue : value ∈ out) :
    ∃ item, f item = some value := by
  induction items generalizing out with
  | nil =>
    cases h
    cases hvalue
  | cons item rest ih =>
    rw [List.mapM_cons] at h
    simp only [Option.bind_eq_bind, Option.bind_eq_some_iff] at h
    obtain ⟨first, hfirst, more, hrest, hout⟩ := h
    cases hout
    rcases List.mem_cons.mp hvalue with rfl | hmem
    · exact ⟨item, hfirst⟩
    · exact ih hrest hmem

/-! ## IPv4 addresses -/

theorem dot_not_mem_decimal (n : Nat) : '.' ∉ Nat.toDigits 10 n := fun h =>
  absurd (Text.isDigit_of_mem_decimal h) (by decide)

/-- An octet is read back from its numeral. -/
theorem ipv4Number?_decimal {n : Nat} (h : n < 256) :
    ipv4Number? (Nat.toDigits 10 n) = some n := by
  have hall : ∀ m < 256, ipv4Number? (Nat.toDigits 10 m) = some m := by decide +kernel
  exact hall n h

theorem split_ipv4Text (address : Nat) : Text.split '.' (ipv4Text address) =
    [Nat.toDigits 10 (address / 16777216), Nat.toDigits 10 (address / 65536 % 256),
      Nat.toDigits 10 (address / 256 % 256), Nat.toDigits 10 (address % 256)] := by
  have htext : ipv4Text address = Nat.toDigits 10 (address / 16777216) ++
      [Nat.toDigits 10 (address / 65536 % 256), Nat.toDigits 10 (address / 256 % 256),
        Nat.toDigits 10 (address % 256)].flatMap ('.' :: ·) := by
    simp [ipv4Text]
  rw [htext]
  refine Text.split_append_flatMap (dot_not_mem_decimal _) fun piece hpiece => ?_
  simp only [List.mem_cons, List.not_mem_nil, or_false] at hpiece
  rcases hpiece with rfl | rfl | rfl <;> exact dot_not_mem_decimal _

theorem dropLastEmpty_ipv4Text (address : Nat) :
    dropLastEmpty (Text.split '.' (ipv4Text address)) = Text.split '.' (ipv4Text address) := by
  rw [split_ipv4Text]
  unfold dropLastEmpty
  split
  · rename_i hlast
    simp only [List.getLast?_cons_cons, List.getLast?_singleton, Option.some.injEq] at hlast
    exact absurd hlast Nat.toDigits_ne_nil
  · rfl

theorem endsInNumber_ipv4Text (address : Nat) : endsInNumber (ipv4Text address) = true := by
  have hdigits : (Nat.toDigits 10 (address % 256)).all Char.isDigit = true :=
    List.all_eq_true.mpr fun _ => Text.isDigit_of_mem_decimal
  unfold endsInNumber
  rw [dropLastEmpty_ipv4Text, split_ipv4Text]
  simp [hdigits]

/-- An address is read back from its dotted decimal form. -/
theorem ipv4?_ipv4Text {address : Nat} (h : address < 4294967296) :
    ipv4? (ipv4Text address) = some address := by
  have hnumbers : [Nat.toDigits 10 (address / 16777216), Nat.toDigits 10 (address / 65536 % 256),
      Nat.toDigits 10 (address / 256 % 256), Nat.toDigits 10 (address % 256)].mapM ipv4Number? =
      some [address / 16777216, address / 65536 % 256, address / 256 % 256, address % 256] := by
    simp [ipv4Number?_decimal (by omega : address / 16777216 < 256),
      ipv4Number?_decimal (by omega : address / 65536 % 256 < 256),
      ipv4Number?_decimal (by omega : address / 256 % 256 < 256),
      ipv4Number?_decimal (by omega : address % 256 < 256)]
  have hoctets : ipv4OfParts? [address / 16777216, address / 65536 % 256, address / 256 % 256]
      (address % 256) = some address := by
    unfold ipv4OfParts?
    rw [if_neg, if_neg]
    · simp
      omega
    · simp
      omega
    · simp
      omega
  unfold ipv4?
  rw [dropLastEmpty_ipv4Text, split_ipv4Text]
  simp only [List.length_cons, List.length_nil, hnumbers]
  exact hoctets

theorem lt_of_ipv4OfParts? {octets : List Nat} {last address : Nat} (hlength : octets.length ≤ 3)
    (h : ipv4OfParts? octets last = some address) : address < 4294967296 := by
  unfold ipv4OfParts? at h
  split at h
  · cases h
  · rename_i hoctets
    split at h
    · cases h
    · rename_i hlast
      cases h
      match octets, hlength with
      | [], _ => simp at hlast ⊢; omega
      | [a], _ => simp at hoctets hlast ⊢; omega
      | [a, b], _ => simp at hoctets hlast ⊢; omega
      | [a, b, c], _ => simp at hoctets hlast ⊢; omega

/-- What is read as an address fits into four octets. -/
theorem lt_of_ipv4? {name : List Char} {address : Nat} (h : ipv4? name = some address) :
    address < 4294967296 := by
  unfold ipv4? at h
  simp only at h
  split at h
  · cases h
  · rename_i hparts
    split at h
    · cases h
    · rename_i numbers hnumbers
      split at h
      · cases h
      · refine lt_of_ipv4OfParts? ?_ h
        rw [List.length_dropLast, length_of_mapM hnumbers]
        omega

end Url

end SchemaTypes
