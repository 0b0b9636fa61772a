set_option autoImplicit false

/-!
# UTF-8

The octets of a character, and the reading of arbitrary octets as text.  Reading never fails: every
longest run of octets that begins a character but does not complete it, and every octet that begins
none, is read as U+FFFD.
-/

namespace SchemaTypes.Utf8

/-- The octets that encode `c`. -/
def encodeChar (c : Char) : List UInt8 :=
  let n := c.toNat
  if n < 0x80 then [UInt8.ofNat n]
  else if n < 0x800 then [UInt8.ofNat (0xC0 + n / 64), UInt8.ofNat (0x80 + n % 64)]
  else if n < 0x10000 then
    [UInt8.ofNat (0xE0 + n / 4096), UInt8.ofNat (0x80 + n / 64 % 64), UInt8.ofNat (0x80 + n % 64)]
  else
    [UInt8.ofNat (0xF0 + n / 262144), UInt8.ofNat (0x80 + n / 4096 % 64),
      UInt8.ofNat (0x80 + n / 64 % 64), UInt8.ofNat (0x80 + n % 64)]

/-- The octets that encode a text. -/
def encode (text : List Char) : List UInt8 := text.flatMap encodeChar

/-- The character that stands for octets that encode none. -/
def replacement : Char := Char.ofNat 0xFFFD

/-- An octet that continues a character. -/
def isTail (b : UInt8) : Bool := 0x80 ≤ b.toNat && b.toNat ≤ 0xBF

/-- The second octets allowed after the lead octet of three: surrogates and overlong forms are
not encodings of a character. -/
def isSecondOfThree (lead b : UInt8) : Bool :=
  if lead.toNat = 0xE0 then 0xA0 ≤ b.toNat && b.toNat ≤ 0xBF
  else if lead.toNat = 0xED then 0x80 ≤ b.toNat && b.toNat ≤ 0x9F
  else isTail b

/-- The second octets allowed after the lead octet of four: overlong forms and values above
U+10FFFF are not encodings of a character. -/
def isSecondOfFour (lead b : UInt8) : Bool :=
  if lead.toNat = 0xF0 then 0x90 ≤ b.toNat && b.toNat ≤ 0xBF
  else if lead.toNat = 0xF4 then 0x80 ≤ b.toNat && b.toNat ≤ 0x8F
  else isTail b

/-- The value that a continuing octet adds. -/
def tailBits (b : UInt8) : Nat := b.toNat - 0x80

/-- Reads octets as text, with U+FFFD for what encodes no character. -/
def decodeLossy : List UInt8 → List Char
  | [] => []
  | lead :: rest =>
    if lead.toNat < 0x80 then Char.ofNat lead.toNat :: decodeLossy rest
    else if 0xC2 ≤ lead.toNat ∧ lead.toNat ≤ 0xDF then
      match rest with
      | b :: after =>
        if isTail b then
          Char.ofNat ((lead.toNat - 0xC0) * 64 + tailBits b) :: decodeLossy after
        else replacement :: decodeLossy (b :: after)
      | [] => [replacement]
    else if 0xE0 ≤ lead.toNat ∧ lead.toNat ≤ 0xEF then
      match rest with
      | b :: c :: after =>
        if isSecondOfThree lead b then
          if isTail c then
            Char.ofNat ((lead.toNat - 0xE0) * 4096 + tailBits b * 64 + tailBits c) ::
              decodeLossy after
          else replacement :: decodeLossy (c :: after)
        else replacement :: decodeLossy (b :: c :: after)
      | [b] => if isSecondOfThree lead b then [replacement] else replacement :: decodeLossy [b]
      | [] => [replacement]
    else if 0xF0 ≤ lead.toNat ∧ lead.toNat ≤ 0xF4 then
      match rest with
      | b :: c :: d :: after =>
        if isSecondOfFour lead b then
          if isTail c then
            if isTail d then
              Char.ofNat ((lead.toNat - 0xF0) * 262144 + tailBits b * 4096 + tailBits c * 64 +
                tailBits d) :: decodeLossy after
            else replacement :: decodeLossy (d :: after)
          else replacement :: decodeLossy (c :: d :: after)
        else replacement :: decodeLossy (b :: c :: d :: after)
      | [b, c] =>
        if isSecondOfFour lead b then
          if isTail c then [replacement] else replacement :: decodeLossy [c]
        else replacement :: decodeLossy [b, c]
      | [b] => if isSecondOfFour lead b then [replacement] else replacement :: decodeLossy [b]
      | [] => [replacement]
    else replacement :: decodeLossy rest

/-- Whether octets encode a text. -/
def isText (octets : List UInt8) : Bool := encode (decodeLossy octets) == octets

end SchemaTypes.Utf8
