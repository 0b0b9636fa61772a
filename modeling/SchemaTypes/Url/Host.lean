import SchemaTypes.Text.Percent
import SchemaTypes.Text.Split

set_option autoImplicit false

/-!
# Hosts

The host part of a URL: a name, an IPv4 address or an IPv6 address in brackets.  In a special URL a
name is unescaped, put into lower case and checked, and a name whose last label is a number must be
an IPv4 address.  Only ASCII names are read: internationalized ones are neither converted to ASCII
labels nor, where they come as such labels, validated.
-/

namespace SchemaTypes.Url

/-- A host. -/
inductive Host where
  | name (text : List Char)
  | ipv4 (address : Nat)
  | ipv6 (pieces : List Nat)
  deriving DecidableEq, Repr, Inhabited

/-- Whether no host is given. -/
def Host.isEmpty : Host → Bool
  | .name [] => true
  | _ => false

/-! ## IPv4 addresses -/

/-- The number written by digits of a base. -/
def radixNumber? (base value : Nat) : List Char → Option Nat
  | [] => some value
  | c :: rest =>
    match Hex.value? c with
    | some digit => if digit < base then radixNumber? base (value * base + digit) rest else none
    | none => none

/-- A part of an IPv4 address: decimal, octal after `0`, or hexadecimal after `0x`. -/
def ipv4Number? : List Char → Option Nat
  | [] => none
  | '0' :: 'x' :: digits => radixNumber? 16 0 digits
  | '0' :: 'X' :: digits => radixNumber? 16 0 digits
  | '0' :: digit :: digits => radixNumber? 8 0 (digit :: digits)
  | digits => radixNumber? 10 0 digits

/-- Drops one empty piece at the end. -/
def dropLastEmpty (pieces : List (List Char)) : List (List Char) :=
  match pieces.getLast? with
  | some [] => pieces.dropLast
  | _ => pieces

/-- Whether the last label of a name, before a dot that ends the name, is a number. -/
def endsInNumber (name : List Char) : Bool :=
  match (dropLastEmpty (Text.split '.' name)).getLast? with
  | none => false
  | some label => (!label.isEmpty && label.all Char.isDigit) || (ipv4Number? label).isSome

/-- The address made of the parts before the last, one octet each, and the last, which fills the
rest. -/
def ipv4OfParts? (octets : List Nat) (last : Nat) : Option Nat :=
  if octets.any (255 < ·) then none
  else if (Nat.pow 2 32 - 1) / Nat.pow 256 octets.length < last then none
  else
    some
      (octets.foldl (fun sum octet => sum * 256 + octet) 0 * Nat.pow 256 (4 - octets.length) +
        last)

/-- Reads an IPv4 address of one to four parts. -/
def ipv4? (name : List Char) : Option Nat :=
  let parts := dropLastEmpty (Text.split '.' name)
  if 4 < parts.length then none
  else
    match parts.mapM ipv4Number? with
    | none => none
    | some numbers =>
      match numbers.getLast? with
      | none => none
      | some last => ipv4OfParts? numbers.dropLast last

/-! ## IPv6 addresses -/

/-- Reads a decimal octet without leading zeros. -/
def decimalOctet? (digits : List Char) : Option Nat :=
  match digits with
  | [] => none
  | '0' :: _ :: _ => none
  | _ =>
    match radixNumber? 10 0 digits with
    | some value => if value ≤ 255 then some value else none
    | none => none

/-- Reads the four octets at the end of an IPv6 address as two pieces. -/
def ipv4Pieces? (text : List Char) : Option (List Nat) :=
  match (Text.split '.' text).mapM decimalOctet? with
  | some [a, b, c, d] => some [a * 256 + b, c * 256 + d]
  | _ => none

/-- Reads the pieces of an IPv6 address after those in `pieces`; a gap counts as one piece of value
zero, and `gap` is the number of pieces up to it. -/
def ipv6Pieces (pieces : List Nat) (gap : Option Nat) : Nat → List Char →
    Option (List Nat × Option Nat)
  | _, [] => some (pieces, gap)
  | 0, _ => none
  | fuel + 1, c :: rest =>
    if pieces.length = 8 then none
    else if c = ':' then
      if gap.isSome then none else ipv6Pieces (pieces ++ [0]) (some (pieces.length + 1)) fuel rest
    else
      let digits := ((c :: rest).take 4).takeWhile fun c => (Hex.value? c).isSome
      let value := (Hex.number? 0 digits).getD 0
      match (c :: rest).drop digits.length with
      | [] => some (pieces ++ [value], gap)
      | '.' :: _ =>
        if digits.isEmpty || 6 < pieces.length then none
        else (ipv4Pieces? (c :: rest)).map fun last => (pieces ++ last, gap)
      | ':' :: after =>
        if digits.isEmpty || after.isEmpty then none
        else ipv6Pieces (pieces ++ [value]) gap fuel after
      | _ => none

/-- Reads an IPv6 address without its brackets. -/
def ipv6? (text : List Char) : Option (List Nat) :=
  let start :=
    match text with
    | ':' :: ':' :: rest => ipv6Pieces [0] (some 1) (rest.length + 1) rest
    | ':' :: _ => none
    | [] => none
    | [_] => none
    | _ => ipv6Pieces [] none (text.length + 1) text
  match start with
  | none => none
  | some (pieces, some gap) =>
    some (pieces.take gap ++ List.replicate (8 - pieces.length) 0 ++ pieces.drop gap)
  | some (pieces, none) => if pieces.length = 8 then some pieces else none

/-- The number of zeros at the start of a list. -/
def leadingZeros (pieces : List Nat) : Nat := (pieces.takeWhile (· = 0)).length

/-- The first longest run of zeros: its place and its length. -/
def longestZeros (place : Nat) : List Nat → Nat × Nat
  | [] => (place, 0)
  | piece :: rest =>
    let here := leadingZeros (piece :: rest)
    let (later, length) := longestZeros (place + 1) rest
    if length ≤ here then (place, here) else (later, length)

/-- Hexadecimal digits, separated by colons. -/
def hexPieces : List Nat → List Char
  | [] => []
  | [piece] => Nat.toDigits 16 piece
  | piece :: next :: rest => Nat.toDigits 16 piece ++ ':' :: hexPieces (next :: rest)

/-- The text of an IPv6 address; the first longest run of two zeros or more is left out. -/
def ipv6Text (pieces : List Nat) : List Char :=
  let (place, length) := longestZeros 0 pieces
  if length < 2 then hexPieces pieces
  else
    hexPieces (pieces.take place) ++ ':' :: ':' :: hexPieces (pieces.drop (place + length))

/-! ## Reading and writing -/

/-- Characters that no host holds. -/
def isForbiddenHost (c : Char) : Bool :=
  c.toNat = 0 || "\t\n\r #/:<>?@[\\]^|".toList.contains c

/-- Characters that no name of a special URL holds. -/
def isForbiddenName (c : Char) : Bool :=
  isForbiddenHost c || Percent.controls c || c = '%' || 0x80 ≤ c.toNat

/-- Reads an address in brackets. -/
def bracketed? (text : List Char) : Option Host :=
  match text.getLast? with
  | some ']' => (ipv6? (text.drop 1).dropLast).map Host.ipv6
  | _ => none

/-- Reads the host of a special URL.  A name with a character outside ASCII, as it is or escaped, is
refused, and a label that starts with `xn--` is one like any other. -/
def Host.special? (text : List Char) : Option Host :=
  match text with
  | '[' :: _ => bracketed? text
  | _ =>
    let name := (Percent.decode text).map Char.toLower
    if name.isEmpty || name.any isForbiddenName then none
    else if endsInNumber name then (ipv4? name).map Host.ipv4
    else some (Host.name name)

/-- Reads the host of any other URL. -/
def Host.general? (text : List Char) : Option Host :=
  match text with
  | '[' :: _ => bracketed? text
  | _ =>
    if text.any isForbiddenHost then none
    else some (Host.name (Percent.encode Percent.controls text))

/-- An IPv4 address in dotted decimal form. -/
def ipv4Text (address : Nat) : List Char :=
  Nat.toDigits 10 (address / 16777216) ++ '.' :: Nat.toDigits 10 (address / 65536 % 256) ++
    '.' :: Nat.toDigits 10 (address / 256 % 256) ++ '.' :: Nat.toDigits 10 (address % 256)

/-- The text of a host. -/
def Host.text : Host → List Char
  | .name text => text
  | .ipv4 address => ipv4Text address
  | .ipv6 pieces => '[' :: ipv6Text pieces ++ [']']

end SchemaTypes.Url
