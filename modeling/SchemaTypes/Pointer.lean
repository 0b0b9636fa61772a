import SchemaTypes.Text.Percent
import SchemaTypes.Text.Split

set_option autoImplicit false

/-!
# Pointers

A pointer lists the steps from the root of a document to one of its nodes; each step is a token, the
name of a member or the place of an item.  In its written form every token follows a slash, `~`
stands as `~0`, `/` as `~1`, and what a fragment may not hold is percent-escaped.
-/

namespace SchemaTypes.Pointer

/-- Escaped in the tokens of a written pointer. -/
def tokenSet : Percent.Set := Percent.controls.with " \"#%<>`\x7b\x7d"

/-- One character of a token with the two characters that pointers use themselves spelt out. -/
def escapeChar (c : Char) : List Char :=
  if c = '~' then ['~', '0'] else if c = '/' then ['~', '1'] else [c]

/-- The written form of a token, on characters. -/
def encodeChars (token : List Char) : List Char :=
  Percent.encode tokenSet (token.flatMap escapeChar)

/-- The token of a written form, on characters: percent escapes are undone first, then `~1`, then
`~0`. -/
def decodeChars (written : List Char) : List Char :=
  Text.replacePair '~' '0' '~' (Text.replacePair '~' '1' '/' (Percent.decode written))

/-- The written form of a token. -/
def encodeToken (token : String) : String := String.ofList (encodeChars token.toList)

/-- The token of a written form. -/
def decodeToken (written : String) : String := String.ofList (decodeChars written.toList)

/-- The written form of a pointer, on characters. -/
def textChars (path : List String) : List Char :=
  path.flatMap fun token => '/' :: encodeChars token.toList

/-- The written form of a pointer: empty for the root. -/
def text (path : List String) : String := String.ofList (textChars path)

/-- Reads a fragment as a pointer: it is empty or starts with a slash. -/
def read? (fragment : List Char) : Option (List String) :=
  match fragment with
  | [] => some []
  | '/' :: rest =>
    some ((Text.split '/' rest).map fun written => String.ofList (decodeChars written))
  | _ => none

/-- The place in a list that a token means: decimal digits without leading zeros. -/
def index? (token : String) : Option Nat :=
  match token.toList with
  | [] => none
  | '0' :: _ :: _ => none
  | digits =>
    if digits.all Char.isDigit then
      some (digits.foldl (fun value c => value * 10 + (c.toNat - 48)) 0)
    else none

@[simp] theorem textChars_cons (token : String) (path : List String) :
    textChars (token :: path) = '/' :: encodeChars token.toList ++ textChars path := rfl

end SchemaTypes.Pointer
