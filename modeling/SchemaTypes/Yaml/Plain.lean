import SchemaTypes.Yaml.Gap

set_option autoImplicit false

/-!
# Plain scalars

A plain scalar is text without quotes.  It ends before a comment, before a colon that a blank
follows, before a line of lower indentation and, between brackets, before a bracket or comma.
-/

namespace SchemaTypes.Yaml.Plain

/-- Whether a colon before `rest` may not stand between brackets. -/
def isStrayColon (rest : List Char) : Bool :=
  match rest with
  | c :: _ => c = '?' || isFlowMark c
  | [] => false

/-- The characters of a word and how many they are, and the text after them; between brackets if
`inFlow`. -/
def word (inFlow : Bool) : List Char → Option (List Char × Nat × List Char)
  | [] => some ([], 0, [])
  | c :: rest =>
    if isGap c then some ([], 0, c :: rest)
    else if inFlow && c = ':' && isStrayColon rest then none
    else if (c = ':' && endsWord rest) || (inFlow && isFlowMark c) then some ([], 0, c :: rest)
    else
      match word inFlow rest with
      | some (run, count, after) => some (c :: run, count + 1, after)
      | none => none

/-- A plain scalar: its text, the place after it and the gap that follows it, and whether a line
ended in that gap. -/
structure Result where
  text : List Char
  after : Cursor
  endsLine : Bool
  deriving Repr, Inhabited

/-- Reads the words of a scalar that follow a gap; at most `bound` of them. -/
def readFrom (inFlow : Bool) (indent : Nat) (gap : Gap) : Nat → Cursor → Option Result
  | 0, _ => none
  | bound + 1, c =>
    if c.atDocumentMark || c.rest.head? == some '#' then some ⟨[], c, gap.hasBreak⟩
    else
      match word inFlow c.rest with
      | none => none
      | some ([], _, _) => some ⟨[], c, gap.hasBreak⟩
      | some (run, count, rest) =>
        let after := c.moveTo rest count
        let text := gap.text ++ run
        match rest with
        | [] => some ⟨text, after, false⟩
        | x :: _ =>
          if !isGap x then some ⟨text, after, false⟩
          else
            match Gap.read? indent after with
            | none => none
            | some (next, place) =>
              if !inFlow && place.column < indent then some ⟨text, place, next.hasBreak⟩
              else
                match readFrom inFlow indent next bound place with
                | some result => some { result with text := text ++ result.text }
                | none => none

/-- Reads a plain scalar.  Outside brackets its further lines are indented by at least `indent`. -/
def read? (inFlow : Bool) (indent : Nat) (c : Cursor) : Option Result :=
  readFrom inFlow indent (.blanks []) (c.left + 1) c

end SchemaTypes.Yaml.Plain
