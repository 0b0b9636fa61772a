import SchemaTypes.Decimal.Binary64

set_option autoImplicit false

/-!
# Shortest decimal numerals

The numeral of fewest digits that reads back as a given double; of several, the nearest to it; of
two equally near, the even one.
-/

namespace SchemaTypes.Decimal

/-- A decimal numeral `digits * 10 ^ exponent`. -/
structure Numeral where
  digits : Nat
  exponent : Int
  deriving DecidableEq, Repr, Inhabited

/-- The reals that read as a double above zero: four times its significand and the ends of the
interval around it, in quarters of a unit in the last place.  The ends belong to the interval if the
significand is even. -/
structure Interval where
  low : Nat
  middle : Nat
  high : Nat
  power : Int
  closed : Bool
  deriving DecidableEq, Repr, Inhabited

/-- The interval of the reals that round to the magnitude of `x`. -/
def Interval.of (x : Binary64) : Interval :=
  let m := x.significand
  let low := if x.fraction.val = 0 ∧ 1 < x.exponent.val then 4 * m - 1 else 4 * m - 2
  ⟨low, 4 * m, 4 * m + 2, x.power - 2, m % 2 == 0⟩

/-- Compares `a * 2 ^ p` with `d * 10 ^ k`. -/
def compareScaled (a : Nat) (p : Int) (d : Nat) (k : Int) : Ordering :=
  let (up2, down2) := Binary64.powerRatio 2 p
  let (up10, down10) := Binary64.powerRatio 10 k
  compare (a * up2 * down10) (d * up10 * down2)

/-- Whether `d * 10 ^ k` lies in the interval. -/
def Interval.holds (i : Interval) (d : Nat) (k : Int) : Bool :=
  let low := compareScaled i.low i.power d k
  let high := compareScaled i.high i.power d k
  if i.closed then low != .gt && high != .lt else low == .lt && high == .gt

/-- The greatest `d` with `d * 10 ^ k` not above the middle of the interval. -/
def Interval.floor (i : Interval) (k : Int) : Nat :=
  let (up2, down2) := Binary64.powerRatio 2 i.power
  let (up10, down10) := Binary64.powerRatio 10 k
  (i.middle * up2 * down10) / (up10 * down2)

/-- Of the two neighbours of the middle on the grid of `10 ^ k`, the one to write, if any lies in
the interval. -/
def Interval.onGrid? (i : Interval) (k : Int) : Option Nat :=
  let d := i.floor k
  match i.holds d k, i.holds (d + 1) k with
  | true, true =>
    match compareScaled (2 * i.middle) i.power (2 * d + 1) k with
    | .lt => some d
    | .gt => some (d + 1)
    | .eq => some (if d % 2 = 0 then d else d + 1)
  | true, false => some d
  | false, true => some (d + 1)
  | false, false => none

/-- The greatest `e` with `10 ^ e` not above the middle of the interval. -/
def Interval.log10 (i : Interval) : Int :=
  let estimate := ((Nat.log2 i.middle : Int) + i.power) * 30103 / 100000
  if compareScaled i.middle i.power 1 (estimate + 1) != .lt then estimate + 1
  else if compareScaled i.middle i.power 1 estimate == .lt then estimate - 1
  else estimate

/-- Tries the grids of 1, 2, … digits, `remaining` of them. -/
def Interval.search (i : Interval) (top : Int) : Nat → Nat → Numeral
  | 0, _ => ⟨i.floor (top - 20), top - 20⟩
  | remaining + 1, count =>
    let k := top - count
    match i.onGrid? k with
    | some d => ⟨d, k⟩
    | none => search i top remaining (count + 1)

/-- Moves zeros at the end of the digits into the exponent, `limit` of them at most. -/
def Numeral.trim : Nat → Numeral → Numeral
  | 0, n => n
  | limit + 1, n => if n.digits % 10 = 0 then trim limit ⟨n.digits / 10, n.exponent + 1⟩ else n

/-- The shortest numeral of the magnitude of a double other than zero. -/
def shortest (x : Binary64) : Numeral :=
  let i := Interval.of x
  (i.search i.log10 18 0).trim 20

end SchemaTypes.Decimal
