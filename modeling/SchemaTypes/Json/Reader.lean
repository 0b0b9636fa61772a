import SchemaTypes.Json.Basic
import SchemaTypes.Text.Hex
import SchemaTypes.Decimal.Reading

set_option autoImplicit false

/-!
# Reading JSON

A strict reader: blanks are space, tab, line feed and carriage return; strings hold no raw control
character and no escape of half a surrogate pair; arrays and objects nest up to a limit; nothing but
blanks follows the value.  A name that comes again keeps its first place and takes the last value.

An integer numeral in the range of 64 bits, signed or unsigned, is an integer; any other numeral,
`-0` among them, is a double.
-/

namespace SchemaTypes.Json

/-- A blank between tokens. -/
def isBlank (c : Char) : Bool := c = ' ' || c = '\t' || c = '\n' || c = '\r'

/-- The rest of a text after its leading blanks. -/
def skipBlanks (text : List Char) : List Char := text.dropWhile isBlank

/-! ## Strings -/

/-- The character that a backslash and `c` stand for. -/
def simpleEscape? (c : Char) : Option Char :=
  if c = Char.ofNat 0x22 || c = '\\' || c = '/' then some c
  else if c = 'b' then some (Char.ofNat 8)
  else if c = 'f' then some (Char.ofNat 12)
  else if c = 'n' then some '\n'
  else if c = 'r' then some '\r'
  else if c = 't' then some '\t'
  else none

/-- Reads a string after its opening quote, up to and past the closing one; `done` holds what was
read, last first. -/
def readString (done : List Char) : List Char → Option (String × List Char)
  | [] => none
  | '\\' :: 'u' :: a :: b :: c :: d :: rest =>
    match Hex.number? 0 [a, b, c, d] with
    | none => none
    | some unit =>
      if 0xD800 ≤ unit ∧ unit ≤ 0xDBFF then
        match rest with
        | '\\' :: 'u' :: e :: f :: g :: h :: after =>
          match Hex.number? 0 [e, f, g, h] with
          | none => none
          | some low =>
            if 0xDC00 ≤ low ∧ low ≤ 0xDFFF then
              readString
                (Char.ofNat ((unit - 0xD800) * 1024 + (low - 0xDC00) + 0x10000) :: done) after
            else none
        | _ => none
      else if 0xDC00 ≤ unit ∧ unit ≤ 0xDFFF then none
      else readString (Char.ofNat unit :: done) rest
  | '\\' :: c :: rest =>
    match simpleEscape? c with
    | none => none
    | some e => readString (e :: done) rest
  | c :: rest =>
    if c = Char.ofNat 0x22 then some (String.ofList done.reverse, rest)
    else if c = '\\' || c.toNat < 0x20 then none
    else readString (c :: done) rest

/-! ## Numbers -/

/-- The greatest unsigned integer of 64 bits. -/
def greatestUnsigned : Nat := Nat.pow 2 64 - 1

/-- Appends digits to a numeral while it stays within 64 bits; gives the numeral and how many
digits it took. -/
def absorb (value taken : Nat) : List Char → Nat × Nat
  | [] => (value, taken)
  | c :: rest =>
    let next := value * 10 + (c.toNat - 48)
    if greatestUnsigned < next then (value, taken) else absorb next (taken + 1) rest

/-- The number that plain decimal digits stand for. -/
def digitsValue (digits : List Char) : Nat :=
  digits.foldl (fun value c => value * 10 + (c.toNat - 48)) 0

/-- An integer numeral without point or exponent, or a double if it does not fit. -/
def integerOf (negative : Bool) (value : Nat) : Option Number :=
  if negative then
    if value = 0 || Nat.pow 2 63 < value then (Decimal.stepwise true value 0).map .real
    else some (.integer (-(value : Int)))
  else some (.integer value)

/-- Splits off the leading decimal digits. -/
def spanDigits (text : List Char) : List Char × List Char :=
  (text.takeWhile Char.isDigit, text.dropWhile Char.isDigit)

/-- Reads the exponent of a numeral after its `e`. -/
def readExponent (text : List Char) : Option (Int × List Char) :=
  let (negative, body) :=
    match text with
    | '+' :: rest => (false, rest)
    | '-' :: rest => (true, rest)
    | _ => (false, text)
  let (digits, rest) := spanDigits body
  if digits.isEmpty then none
  else
    let value : Int := digitsValue digits
    some (if negative then -value else value, rest)

/-- Reads a numeral.  Digits beyond the 64 bits of its significand only count for its exponent
before the point, and not at all after it. -/
def readNumber (text : List Char) : Option (Number × List Char) :=
  let (negative, body) :=
    match text with
    | '-' :: rest => (true, rest)
    | _ => (false, text)
  let (whole, afterWhole) := spanDigits body
  match whole with
  | [] => none
  | '0' :: _ :: _ => none
  | _ =>
    let (significand, taken) := absorb 0 0 whole
    let dropped := whole.length - taken
    let (fraction, afterFraction) :=
      match afterWhole with
      | '.' :: rest => let (digits, after) := spanDigits rest; (some digits, after)
      | _ => (none, afterWhole)
    if fraction = some [] then none
    else
      let (significand, shift) :=
        match fraction with
        | some digits =>
          let (value, used) := absorb significand 0 digits
          (value, (dropped : Int) - used)
        | none => (significand, (dropped : Int))
      let isExponent :=
        match afterFraction with
        | c :: _ => c = 'e' || c = 'E'
        | [] => false
      if isExponent then
        match readExponent (afterFraction.drop 1) with
        | none => none
        | some (exponent, rest) =>
          (Decimal.stepwise negative significand (shift + exponent)).map fun x => (.real x, rest)
      else if fraction.isSome || 0 < dropped then
        (Decimal.stepwise negative significand shift).map fun x => (.real x, afterFraction)
      else (integerOf negative significand).map fun n => (n, afterFraction)

/-! ## Values -/

/-- The rest of a text after a word it starts with. -/
def afterWord? (word text : List Char) : Option (List Char) :=
  match word, text with
  | [], rest => some rest
  | w :: ws, c :: rest => if w = c then afterWord? ws rest else none
  | _ :: _, [] => none

mutual

/-- Reads a value after blanks.  `depth` is how many arrays and objects may still open; `fuel`
bounds the number of steps. -/
def readValue (fuel depth : Nat) (input : List Char) : Option (Json × List Char) :=
  match fuel with
  | 0 => none
  | fuel + 1 =>
    match skipBlanks input with
    | [] => none
    | c :: rest =>
      if c = Char.ofNat 0x22 then
        match readString [] rest with
        | none => none
        | some (value, after) => some (string value, after)
      else if c = '[' then
        match depth with
        | 0 => none
        | depth + 1 =>
          match skipBlanks rest with
          | ']' :: after => some (array [], after)
          | body =>
            match readItems fuel depth body with
            | none => none
            | some (items, after) => some (array items, after)
      else if c = Char.ofNat 0x7B then
        match depth with
        | 0 => none
        | depth + 1 =>
          match skipBlanks rest with
          | [] => none
          | first :: after =>
            if first = Char.ofNat 0x7D then some (object [], after)
            else
              match readMembers fuel depth [] (first :: after) with
              | none => none
              | some (members, after) => some (object members, after)
      else if c = 'n' then (afterWord? "null".toList (c :: rest)).map fun after => (null, after)
      else if c = 't' then
        (afterWord? "true".toList (c :: rest)).map fun after => (bool true, after)
      else if c = 'f' then
        (afterWord? "false".toList (c :: rest)).map fun after => (bool false, after)
      else (readNumber (c :: rest)).map fun (value, after) => (number value, after)

/-- Reads the items of an array that has one, past its closing bracket. -/
def readItems (fuel depth : Nat) (input : List Char) : Option (List Json × List Char) :=
  match fuel with
  | 0 => none
  | fuel + 1 =>
    match readValue fuel depth input with
    | none => none
    | some (item, after) =>
      match skipBlanks after with
      | ']' :: rest => some ([item], rest)
      | ',' :: rest =>
        match readItems fuel depth rest with
        | none => none
        | some (items, rest) => some (item :: items, rest)
      | _ => none

/-- Reads the members of an object that has one, past its closing brace; `done` holds the members
read before. -/
def readMembers (fuel depth : Nat) (done : OrderedMap String Json) (input : List Char) :
    Option (OrderedMap String Json × List Char) :=
  match fuel with
  | 0 => none
  | fuel + 1 =>
    match skipBlanks input with
    | [] => none
    | quote :: rest =>
      if quote ≠ Char.ofNat 0x22 then none
      else
        match readString [] rest with
        | none => none
        | some (name, after) =>
          match skipBlanks after with
          | ':' :: rest =>
            match readValue fuel depth rest with
            | none => none
            | some (value, after) =>
              let done := done.insert name value
              match skipBlanks after with
              | [] => none
              | c :: rest =>
                if c = Char.ofNat 0x7D then some (done, rest)
                else if c = ',' then readMembers fuel depth done rest
                else none
          | _ => none

end

/-- Reads a text that holds one value, with arrays and objects nested at most `depth` deep. -/
def read? (depth : Nat) (text : List Char) : Option Json :=
  match readValue (text.length + 1) depth text with
  | none => none
  | some (value, rest) => if (skipBlanks rest).isEmpty then some value else none

/-- How deep a document may nest. -/
def documentDepth : Nat := 127

/-- Reads the text of a document. -/
def readDocument? (text : String) : Option Json := read? documentDepth text.toList

end SchemaTypes.Json
