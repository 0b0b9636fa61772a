import SchemaTypes.Decimal.Binary64

set_option autoImplicit false

/-!
# Decimal numerals as doubles

Two readings of `digits * 10 ^ exponent`.  The exact one gives the nearest double.  The stepwise one
rounds the digits first and then multiplies or divides by a rounded power of ten, at most `10 ^ 308`
at a time; it may differ from the exact reading in the last place.
-/

namespace SchemaTypes.Decimal

/-- The number of decimal digits of `n`, at least one. -/
def digitCount (n : Nat) : Nat := (Nat.toDigits 10 n).length

/-- The double nearest to `digits * 10 ^ exponent`; `none` if that is an infinity. -/
def exact (negative : Bool) (digits : Nat) (exponent : Int) : Option Binary64 :=
  if digits = 0 then some (Binary64.zero negative)
  else if 310 < exponent + digitCount digits then none
  else if exponent + digitCount digits < -400 then some (Binary64.zero negative)
  else
    let (up, down) := Binary64.powerRatio 10 exponent
    Binary64.ofRatio negative (digits * up) down

/-- The greatest power of ten used in one step. -/
def stepLimit : Nat := 308

/-- The double nearest to `10 ^ k`, for `k` up to `stepLimit`. -/
def powerOfTen (k : Nat) : Option Binary64 := Binary64.ofRatio false (Nat.pow 10 k) 1

/-- `x` divided by the greatest power of ten `steps` times, or until it is zero, and then by
`10 ^ last`. -/
def divideSteps (last : Nat) : Nat → Binary64 → Option Binary64
  | 0, x =>
    match powerOfTen last with
    | some p => x.div p
    | none => none
  | steps + 1, x =>
    if x.isZero then some x
    else
      match powerOfTen stepLimit with
      | none => none
      | some p =>
        match x.div p with
        | none => none
        | some y => divideSteps last steps y

/-- `x / 10 ^ k`, in steps of at most the greatest power. -/
def scaleDown (x : Binary64) (k : Nat) : Option Binary64 :=
  divideSteps (k - (k - 1) / stepLimit * stepLimit) ((k - 1) / stepLimit) x

/-- `x * 10 ^ k`; `none` if that is too large. -/
def scaleUp (x : Binary64) (k : Nat) : Option Binary64 :=
  if k ≤ stepLimit then
    match powerOfTen k with
    | some p => x.mul p
    | none => none
  else if x.isZero then some x
  else none

/-- The stepwise reading of `digits * 10 ^ exponent`; `none` if it is too large. -/
def stepwise (negative : Bool) (digits : Nat) (exponent : Int) : Option Binary64 :=
  match Binary64.ofRatio false digits 1 with
  | none => none
  | some x =>
    match (if 0 ≤ exponent then scaleUp x exponent.toNat else scaleDown x (-exponent).toNat) with
    | none => none
    | some y => some (if negative then y.negate else y)

end SchemaTypes.Decimal
