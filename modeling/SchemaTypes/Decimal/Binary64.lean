set_option autoImplicit false

/-!
# Finite double-precision numbers

The finite numbers of the 64-bit binary interchange format, each by its three fields, so that equal
fields and equal numbers are the same thing but for the two zeros.  All arithmetic is exact on
natural numbers and rounded once, to the nearest number and on a tie to the even one.
-/

namespace SchemaTypes

/-- A finite 64-bit binary floating-point number. -/
structure Binary64 where
  negative : Bool
  /-- The exponent field. -/
  exponent : Fin 2047
  /-- The fraction field. -/
  fraction : Fin (Nat.pow 2 52)
  deriving DecidableEq, Repr

namespace Binary64

/-- Zero of a sign. -/
def zero (negative : Bool) : Binary64 := ⟨negative, ⟨0, by decide⟩, ⟨0, by decide⟩⟩

instance : Inhabited Binary64 := ⟨zero false⟩

/-- Whether the number is one of the two zeros. -/
def isZero (x : Binary64) : Bool := x.exponent.val == 0 && x.fraction.val == 0

/-- The number with the other sign. -/
def negate (x : Binary64) : Binary64 := { x with negative := !x.negative }

/-- The integer `m` of the magnitude `m * 2 ^ x.power`. -/
def significand (x : Binary64) : Nat :=
  if x.exponent.val = 0 then x.fraction.val else Nat.pow 2 52 + x.fraction.val

/-- The exponent of two of the magnitude. -/
def power (x : Binary64) : Int := (max x.exponent.val 1 : Nat) - 1075

/-- Equality of the numbers: the two zeros are equal. -/
def equal (x y : Binary64) : Bool := x = y || (x.isZero && y.isZero)

/-- The integer nearest to `num / den`; of two, the even one. -/
def roundQuotient (num den : Nat) : Nat :=
  let q := num / den
  let r := num % den
  if 2 * r < den then q else if den < 2 * r then q + 1 else if q % 2 = 0 then q else q + 1

/-- `base ^ e` as a fraction. -/
def powerRatio (base : Nat) (e : Int) : Nat × Nat :=
  if 0 ≤ e then (Nat.pow base e.toNat, 1) else (1, Nat.pow base (-e).toNat)

/-- The greatest `k` with `2 ^ k ≤ num / den`, for `num` and `den` above zero. -/
def floorLog2 (num den : Nat) : Int :=
  let k : Int := (Nat.log2 num : Int) - Nat.log2 den
  let (up, down) := powerRatio 2 k
  if up * den ≤ num * down then k else k - 1

/-- The number with magnitude `q * 2 ^ e`, where `q` is below `2 ^ 53` and, unless `e` is the least
exponent, not below `2 ^ 52`; `none` if it is too large. -/
def pack (negative : Bool) (q : Nat) (e : Int) : Option Binary64 :=
  if q < Nat.pow 2 52 then
    some ⟨negative, ⟨0, by decide⟩, ⟨q % Nat.pow 2 52, Nat.mod_lt _ (by decide)⟩⟩
  else
    let field := (e + 1075).toNat
    if h : field < 2047 then
      some ⟨negative, ⟨field, h⟩, ⟨(q - Nat.pow 2 52) % Nat.pow 2 52, Nat.mod_lt _ (by decide)⟩⟩
    else none

/-- The number nearest to `num / den`, of the given sign; `none` if that is an infinity. -/
def ofRatio (negative : Bool) (num den : Nat) : Option Binary64 :=
  if num = 0 then some (zero negative)
  else
    let e := max (-1074) (floorLog2 num den - 52)
    let (up, down) := powerRatio 2 e
    let q := roundQuotient (num * down) (den * up)
    if q = Nat.pow 2 53 then pack negative (Nat.pow 2 52) (e + 1) else pack negative q e

/-- The rounded product. -/
def mul (x y : Binary64) : Option Binary64 :=
  let (up, down) := powerRatio 2 (x.power + y.power)
  ofRatio (x.negative != y.negative) (x.significand * y.significand * up) down

/-- The rounded quotient by a number other than zero. -/
def div (x y : Binary64) : Option Binary64 :=
  let (up, down) := powerRatio 2 (x.power - y.power)
  ofRatio (x.negative != y.negative) (x.significand * up) (y.significand * down)

end Binary64

end SchemaTypes
