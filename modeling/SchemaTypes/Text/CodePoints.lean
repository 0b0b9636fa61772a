set_option autoImplicit false

/-!
# Sets and maps of code points

A Unicode property is a list of runs of code points, in rising order and without overlap; a simple
case mapping is a list of runs that all move by the same distance.
-/

namespace SchemaTypes.CodePoints

/-- The code points `first`, `first + step`, …, `last`. -/
structure Run where
  first : Nat
  last : Nat
  step : Nat
  deriving DecidableEq, Repr, Inhabited

/-- Whether `n` lies in one of `runs`, which stand in rising order. -/
def inRuns : List Run → Nat → Bool
  | [], _ => false
  | run :: rest, n =>
    if n < run.first then false
    else if n ≤ run.last then (n - run.first) % run.step == 0
    else inRuns rest n

/-- A run of code points and the distance from each to its image. -/
structure Shift where
  first : Nat
  last : Nat
  step : Nat
  distance : Int
  deriving DecidableEq, Repr, Inhabited

/-- The image of `n` under `shifts`, which stand in rising order, or `n` itself. -/
def shift : List Shift → Nat → Nat
  | [], n => n
  | run :: rest, n =>
    if n < run.first then n
    else if n ≤ run.last then
      if (n - run.first) % run.step == 0 then (n + run.distance).toNat else n
    else shift rest n

/-- The image of `n` under a list of one-to-many mappings. -/
def special? : List (Nat × List Nat) → Nat → Option (List Nat)
  | [], _ => none
  | (m, image) :: rest, n => if m == n then some image else special? rest n

/-- The character with code point `n`; `c` if there is none. -/
def charOr (c : Char) (n : Nat) : Char := if n.isValidChar then Char.ofNat n else c

end SchemaTypes.CodePoints
