import SchemaTypes.Yaml.Tag

set_option autoImplicit false

/-!
# Directives

A line at the start of a document that begins with a percent sign tells the version of the format or
declares a handle for tags.
-/

namespace SchemaTypes.Yaml.Directive

/-- The most digits in a part of a version. -/
def versionDigits : Nat := 9

/-- Reads a part of a version. -/
def readNumber? (c : Cursor) : Option (Nat × Cursor) :=
  let (digits, after) := c.span Char.isDigit
  if digits.isEmpty || versionDigits < digits.length then none
  else some (digits.foldl (fun value x => value * 10 + (x.toNat - 48)) 0, after)

/-- Reads a version. -/
def readVersion? (c : Cursor) : Option (Token × Cursor) :=
  match readNumber? (c.skipWhile isBlank) with
  | none => none
  | some (major, after) =>
    match after.rest with
    | '.' :: _ =>
      match readNumber? (after.skip 1) with
      | some (minor, last) => some (.version major minor, last)
      | none => none
    | _ => none

/-- Whether a handle may be declared: a single exclamation mark, or one at either end. -/
def isHandle (handle : List Char) : Bool := handle.length == 1 || handle.getLast? == some '!'

/-- Reads the declaration of a handle. -/
def readTagHandle? (c : Cursor) : Option (Token × Cursor) :=
  let c := c.skipWhile isBlank
  match c.rest with
  | '!' :: _ =>
    let (handle, after) := Tag.readHandle c
    if !isHandle handle || !(after.rest.head?.any isBlank) then none
    else
      match Tag.readSuffix? true (after.skipWhile isBlank) with
      | none => none
      | some (meaning, last) =>
        if meaning.isEmpty || !endsWord last.rest then none
        else some (.tagHandle (String.ofList handle) (Tag.untilZero meaning), last)
  | _ => none

/-- Reads a directive at its percent sign, up to and past the end of its line. -/
def read? (c : Cursor) : Option (Token × Cursor) :=
  let (name, after) := (c.skip 1).span isWord
  if !endsWord after.rest then none
  else
    let result :=
      if name = "YAML".toList then readVersion? after
      else if name = "TAG".toList then readTagHandle? after
      else none
    match result with
    | none => none
    | some (token, last) =>
      match last.endLine? with
      | some next => some (token, next)
      | none => none

end SchemaTypes.Yaml.Directive
