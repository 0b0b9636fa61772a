set_option autoImplicit false

/-!
# Characters of YAML texts

The classes of characters that the reading of YAML tells apart.
-/

namespace SchemaTypes.Yaml

/-- The quote of texts without escapes. -/
def singleQuote : Char := Char.ofNat 0x27

/-- The quote of texts with escapes. -/
def doubleQuote : Char := Char.ofNat 0x22

/-- The mark that may stand at the start of a line, before its first token. -/
def byteOrderMark : Char := Char.ofNat 0xFEFF

/-- The next-line control, a line break. -/
def nextLine : Char := Char.ofNat 0x85

/-- A line break that keeps its own character when lines are read. -/
def isSeparator (c : Char) : Bool := c.toNat = 0x2028 || c.toNat = 0x2029

/-- A line break. -/
def isBreak (c : Char) : Bool := c = '\r' || c = '\n' || c = nextLine || isSeparator c

/-- A blank within a line. -/
def isBlank (c : Char) : Bool := c = ' ' || c = '\t'

/-- A blank or a line break. -/
def isGap (c : Char) : Bool := isBlank c || isBreak c

/-- A character of names: an ASCII letter or digit, an underscore or a hyphen. -/
def isWord (c : Char) : Bool := c.isAlphanum || c = '_' || c = '-'

/-- The characters that a text may hold. -/
def isAllowed (c : Char) : Bool :=
  let n := c.toNat
  n = 0x09 || n = 0x0A || n = 0x0D || (0x20 ≤ n && n ≤ 0x7E) || n = 0x85 ||
    (0xA0 ≤ n && n ≤ 0xD7FF) || (0xE000 ≤ n && n ≤ 0xFFFD) || 0x10000 ≤ n

/-- Whether a text ends here, or a blank or a line break follows. -/
def endsWord : List Char → Bool
  | [] => true
  | c :: _ => isGap c

/-- The brackets and the comma, which have a meaning of their own between brackets. -/
def isFlowMark (c : Char) : Bool := ",[]\x7b\x7d".toList.contains c

end SchemaTypes.Yaml
