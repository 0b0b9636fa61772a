import SchemaTypes.Decimal.Reading
import SchemaTypes.Json.Basic
import SchemaTypes.Text.Hex
import SchemaTypes.Text.Split
import SchemaTypes.Yaml.Tag

set_option autoImplicit false

/-!
# Scalars as values

What the text of a scalar means.  A plain scalar without tag is null, a truth value, an integer or a
double, if it is written as one, and else a string; any other scalar is a string, unless a tag says
what it is.  The infinities and the value that is no number have no JSON and become null.
-/

namespace SchemaTypes.Yaml.Core

/-- The text after a start, if it has that start. -/
def afterStart? (start : String) (text : List Char) : Option (List Char) :=
  if start.toList.isPrefixOf text then some (text.drop start.length) else none

/-- Whether a text starts with a sign. -/
def startsSigned (text : List Char) : Bool :=
  match text with
  | c :: _ => c = '+' || c = '-'
  | [] => false

/-- The text without a plus sign in front. -/
def dropPlus (text : List Char) : List Char :=
  match text with
  | '+' :: rest => rest
  | _ => text

/-- Whether a text has more than one digit and the first is zero; a sign may stand in front. -/
def isPadded (text : List Char) : Bool :=
  let digits :=
    match text with
    | '+' :: rest => rest
    | '-' :: rest => rest
    | _ => text
  match digits with
  | '0' :: _ :: _ => digits.all Char.isDigit
  | _ => false

/-! ## Integers -/

/-- The number that digits to a base stand for; there must be one. -/
def natural? (base : Nat) (digits : List Char) : Option Nat :=
  if digits.isEmpty then none
  else
    digits.foldl
      (fun value c =>
        match value, Hex.value? c with
        | some n, some digit => if digit < base then some (n * base + digit) else none
        | _, _ => none)
      (some 0)

/-- A number that is not above `most`. -/
def atMost (most : Nat) (value : Option Nat) : Option Nat := value.filter (· ≤ most)

/-- The number after the mark of a base, if it is not above `most`. -/
def marked? (mark : String) (base most : Nat) (text : List Char) : Option Nat :=
  (afterStart? mark text).bind fun digits => atMost most (natural? base digits)

/-- The number that a text stands for, if it is not above `most`: digits to the base ten, or to
another base after its mark. -/
def unsigned? (most : Nat) (text : List Char) : Option Nat :=
  let body := dropPlus text
  (marked? "0x" 16 most body).orElse fun _ =>
    (marked? "0o" 8 most body).orElse fun _ =>
      (marked? "0b" 2 most body).orElse fun _ =>
        if isPadded text then none else atMost most (natural? 10 body)

/-- The number that a text with a minus sign stands for, without the sign, if that is not above
`most`. -/
def negative? (most : Nat) (text : List Char) : Option Nat :=
  (marked? "-0x" 16 most text).orElse fun _ =>
    (marked? "-0o" 8 most text).orElse fun _ =>
      (marked? "-0b" 2 most text).orElse fun _ =>
        if isPadded text then none
        else (afterStart? "-" text).bind fun digits => atMost most (natural? 10 digits)

/-- What an integer numeral stands for. -/
inductive Integer where
  /-- An integer of 64 bits, signed or unsigned. -/
  | fits (value : Int)
  /-- An integer of 128 bits, which is refused. -/
  | tooLarge
  deriving DecidableEq, Repr, Inhabited

/-- The integer that a text stands for, if it is written as one of up to 128 bits. -/
def integer? (text : List Char) : Option Integer :=
  match unsigned? (Nat.pow 2 64 - 1) text with
  | some n => some (.fits n)
  | none =>
    match negative? (Nat.pow 2 63) text with
    | some n => some (.fits (-(n : Int)))
    | none =>
      if (unsigned? (Nat.pow 2 128 - 1) text).isSome ||
          (negative? (Nat.pow 2 127) text).isSome then
        some .tooLarge
      else none

/-! ## Doubles -/

/-- A numeral of a double: its sign, its digits and its exponent. -/
structure Numeral where
  isNegative : Bool
  digits : Nat
  exponent : Int
  deriving DecidableEq, Repr, Inhabited

/-- The value of decimal digits. -/
def decimal (digits : List Char) : Nat :=
  digits.foldl (fun value c => value * 10 + (c.toNat - 48)) 0

/-- Splits off the leading decimal digits. -/
def spanDigits (text : List Char) : List Char × List Char :=
  (text.takeWhile Char.isDigit, text.dropWhile Char.isDigit)

/-- Reads an exponent, or none, up to the end of the text. -/
def exponent? (text : List Char) : Option Int :=
  match text with
  | [] => some 0
  | mark :: rest =>
    if mark != 'e' && mark != 'E' then none
    else
      let (isNegative, body) :=
        match rest with
        | '+' :: digits => (false, digits)
        | '-' :: digits => (true, digits)
        | _ => (false, rest)
      if body.isEmpty || !body.all Char.isDigit then none
      else
        let value : Int := decimal body
        some (if isNegative then -value else value)

/-- Reads a numeral: digits with an optional point, which may stand first or last, and an optional
exponent. -/
def numeral? (text : List Char) : Option Numeral :=
  let (isNegative, body) :=
    match text with
    | '+' :: rest => (false, rest)
    | '-' :: rest => (true, rest)
    | _ => (false, text)
  let (whole, afterWhole) := spanDigits body
  let (fraction, afterFraction) :=
    match afterWhole with
    | '.' :: rest => spanDigits rest
    | _ => ([], afterWhole)
  if whole.isEmpty && fraction.isEmpty then none
  else
    match exponent? afterFraction with
    | some exponent =>
      some ⟨isNegative, decimal (whole ++ fraction), exponent - (fraction.length : Int)⟩
    | none => none

/-- The texts of the infinities without sign, and of the value that is no number. -/
def infinities : List String := [".inf", ".Inf", ".INF"]

/-- The texts of the value that is no number. -/
def notNumbers : List String := [".nan", ".NaN", ".NAN"]

/-- Whether a text means a double that JSON has no number for. -/
def isOutside (text : List Char) : Bool :=
  let written := String.ofList text
  infinities.contains (String.ofList (dropPlus text)) ||
    infinities.any (fun infinity => written == "-" ++ infinity) || notNumbers.contains written

/-- The double that a text stands for, as JSON. -/
def real? (text : List Char) : Option Json :=
  let body := dropPlus text
  if body.length != text.length && startsSigned body then none
  else if isOutside text then some .null
  else
    match numeral? body with
    | some n => (Decimal.exact n.isNegative n.digits n.exponent).map fun x => .number (.real x)
    | none => none

/-! ## Scalars -/

/-- Whether a text is a name of null. -/
def isNull (text : String) : Bool :=
  text == "null" || text == "Null" || text == "NULL" || text == "~"

/-- The truth value that a text names. -/
def bool? (text : String) : Option Bool :=
  if text = "true" || text = "True" || text = "TRUE" then some true
  else if text = "false" || text = "False" || text = "FALSE" then some false
  else none

/-- The value of a plain scalar without tag; `none` if it is refused. -/
def plain? (text : String) : Option Json :=
  if text.isEmpty || isNull text then some .null
  else
    match bool? text with
    | some value => some (.bool value)
    | none =>
      match integer? text.toList with
      | some (.fits value) => some (.number (.integer value))
      | some .tooLarge => none
      | none =>
        if isPadded text.toList then some (.string text)
        else some ((real? text.toList).getD (.string text))

/-- The tag of a fixed meaning with the given name. -/
def standardTag (name : String) : List UInt8 := Tag.standardStart ++ Utf8.encode name.toList

/-- Whether a tag has no meaning outside of its document. -/
def isLocalTag (tag : List UInt8) : Bool := Tag.bare.isPrefixOf tag

/-- Whether a node with this tag is refused: its tag is local and a text. -/
def isRefused (tag : Option (List UInt8)) : Bool :=
  match tag with
  | some octets => isLocalTag octets && Utf8.isText octets
  | none => false

/-- The value of a scalar that must be an integer. -/
def taggedInteger? (text : String) : Option Json :=
  match integer? text.toList with
  | some (.fits value) => some (.number (.integer value))
  | _ => none

/-- The value of a scalar without a tag of its own. -/
def untagged? (scalar : Scalar) : Option Json :=
  if scalar.isPlain then plain? scalar.text else some (.string scalar.text)

/-- The value of a scalar; `none` if it is refused. -/
def scalar? (tag : Option (List UInt8)) (scalar : Scalar) : Option Json :=
  match tag with
  | none => untagged? scalar
  | some octets =>
    if isRefused tag then none
    else if octets = standardTag "bool" then (bool? scalar.text).map Json.bool
    else if octets = standardTag "int" then taggedInteger? scalar.text
    else if octets = standardTag "float" then real? scalar.text.toList
    else if octets = standardTag "null" then if isNull scalar.text then some .null else none
    else if isLocalTag octets then untagged? scalar
    else some (.string scalar.text)

end SchemaTypes.Yaml.Core
