import SchemaTypes.Json.Basic
import SchemaTypes.Text.Hex
import SchemaTypes.Decimal.Shortest

set_option autoImplicit false

/-!
# Writing JSON

The text of a JSON value without blanks.  In strings only the quote, the backslash and the control
characters are escaped.  A double is written with the fewest digits that read back: positionally
with a point from `0.00001` up to below `1e16`, with a signed exponent otherwise.
-/

namespace SchemaTypes.Json

/-- A character inside a string. -/
def escape (c : Char) : List Char :=
  if c = Char.ofNat 0x22 then ['\\', c]
  else if c = '\\' then ['\\', '\\']
  else if c = '\n' then ['\\', 'n']
  else if c = '\r' then ['\\', 'r']
  else if c = '\t' then ['\\', 't']
  else if c.toNat = 8 then ['\\', 'b']
  else if c.toNat = 12 then ['\\', 'f']
  else if c.toNat < 0x20 then
    ['\\', 'u', '0', '0', Hex.lowerDigit (c.toNat / 16), Hex.lowerDigit (c.toNat % 16)]
  else [c]

/-- A string with its quotes. -/
def quote (text : String) : String :=
  "\"" ++ String.ofList (text.toList.flatMap escape) ++ "\""

/-- A decimal numeral with a point: positional for magnitudes from `10 ^ -5` to below `10 ^ 16`. -/
def numeralText (n : Decimal.Numeral) : String :=
  let digits := Nat.toDigits 10 n.digits
  let count : Int := digits.length
  let point := count + n.exponent
  if -5 < point ∧ point ≤ 16 then
    if 0 ≤ n.exponent then
      String.ofList (digits ++ List.replicate n.exponent.toNat '0' ++ ['.', '0'])
    else if 0 < point then
      String.ofList (digits.take point.toNat ++ '.' :: digits.drop point.toNat)
    else String.ofList ('0' :: '.' :: List.replicate (-point).toNat '0' ++ digits)
  else
    let mantissa :=
      match digits with
      | first :: second :: rest => first :: '.' :: second :: rest
      | _ => digits
    let sign := if point - 1 < 0 then '-' else '+'
    String.ofList (mantissa ++ 'e' :: sign :: Nat.toDigits 10 (point - 1).natAbs)

/-- The text of a double. -/
def realText (x : Binary64) : String :=
  let magnitude := if x.isZero then "0.0" else numeralText (Decimal.shortest x)
  if x.negative then "-" ++ magnitude else magnitude

/-- The text of a number. -/
def numberText : Number → String
  | .integer value => toString value
  | .real value => realText value

mutual

/-- The text of a value. -/
def text : Json → String
  | null => "null"
  | bool true => "true"
  | bool false => "false"
  | number value => numberText value
  | string value => quote value
  | array items => "[" ++ itemsText items ++ "]"
  | object members => "\x7b" ++ membersText members ++ "\x7d"

/-- The texts of values, separated by commas. -/
def itemsText : List Json → String
  | [] => ""
  | [item] => text item
  | item :: next :: rest => text item ++ "," ++ itemsText (next :: rest)

/-- The texts of members, separated by commas. -/
def membersText : List (String × Json) → String
  | [] => ""
  | [(name, value)] => quote name ++ ":" ++ text value
  | (name, value) :: next :: rest =>
    quote name ++ ":" ++ text value ++ "," ++ membersText (next :: rest)

end

end SchemaTypes.Json
