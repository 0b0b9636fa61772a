import SchemaTypes.Text.Hex
import SchemaTypes.Text.Utf8

set_option autoImplicit false

/-!
# Percent escapes

An octet is escaped as `%` and two upper-case hexadecimal digits.  Which ASCII characters are
escaped is the choice of a `Percent.Set`; every other character is always escaped, octet by octet
of its UTF-8 form.  Reading is lenient: a `%` that two hexadecimal digits do not follow stands for
itself, and octets that are no UTF-8 become U+FFFD.
-/

namespace SchemaTypes.Percent

/-- The ASCII characters that are escaped. -/
abbrev Set := Char → Bool

/-- The control characters: U+0000 to U+001F and U+007F. -/
def controls : Set := fun c => c.toNat < 0x20 || c.toNat = 0x7F

/-- `set` and the characters of `more`. -/
def Set.with (set : Set) (more : String) : Set := fun c => set c || more.toList.contains c

/-- One octet, escaped. -/
def escapeOctet (b : UInt8) : List Char :=
  ['%', Hex.upperDigit (b.toNat / 16), Hex.upperDigit (b.toNat % 16)]

/-- One character: itself, or the escapes of its octets. -/
def encodeChar (set : Set) (c : Char) : List Char :=
  if c.toNat < 0x80 && !set c then [c] else (Utf8.encodeChar c).flatMap escapeOctet

/-- Escapes the characters of `set` and all that are not ASCII. -/
def encode (set : Set) (text : List Char) : List Char := text.flatMap (encodeChar set)

/-- The octets that a text with escapes stands for. -/
def octets : List Char → List UInt8
  | '%' :: high :: low :: rest =>
    match Hex.value? high, Hex.value? low with
    | some h, some l => UInt8.ofNat (h * 16 + l) :: octets rest
    | _, _ => Utf8.encodeChar '%' ++ octets (high :: low :: rest)
  | c :: rest => Utf8.encodeChar c ++ octets rest
  | [] => []

/-- The text that a text with escapes stands for. -/
def decode (text : List Char) : List Char := Utf8.decodeLossy (octets text)

end SchemaTypes.Percent
