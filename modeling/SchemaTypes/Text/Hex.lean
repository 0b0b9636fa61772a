set_option autoImplicit false

/-!
# Hexadecimal digits
-/

namespace SchemaTypes.Hex

/-- The value of a hexadecimal digit of either case. -/
def value? (c : Char) : Option Nat :=
  let n := c.toNat
  if 48 ≤ n ∧ n ≤ 57 then some (n - 48)
  else if 65 ≤ n ∧ n ≤ 70 then some (n - 55)
  else if 97 ≤ n ∧ n ≤ 102 then some (n - 87)
  else none

/-- The value of hexadecimal digits after those with value `start`; `none` if one is no digit. -/
def number? (start : Nat) : List Char → Option Nat
  | [] => some start
  | c :: rest =>
    match value? c with
    | some digit => number? (start * 16 + digit) rest
    | none => none

/-- The digit for a number below 16, in upper case. -/
def upperDigit (n : Nat) : Char := if n < 10 then Char.ofNat (48 + n) else Char.ofNat (55 + n)

/-- The digit for a number below 16, in lower case. -/
def lowerDigit (n : Nat) : Char := if n < 10 then Char.ofNat (48 + n) else Char.ofNat (87 + n)

/-- A digit reads back. -/
theorem value?_upperDigit (n : Nat) (h : n < 16) : value? (upperDigit n) = some n := by
  have : ∀ m : Fin 16, value? (upperDigit m.val) = some m.val := by decide
  exact this ⟨n, h⟩

end SchemaTypes.Hex
