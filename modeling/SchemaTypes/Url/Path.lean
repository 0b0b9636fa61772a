import SchemaTypes.Text.Percent
import SchemaTypes.Text.Split

set_option autoImplicit false

/-!
# Paths

The path of a URL is a list of segments, each written after a slash, or a verbatim text if the URL
has no hierarchy.  A segment is read from a piece of text between slashes.  A piece `.` stands for
nothing and a piece `..` takes the segment before it away, also when their dots are escaped; a
segment that is a drive letter, as in `C:`, is never taken away.
-/

namespace SchemaTypes.Url

/-- A path. -/
inductive Path where
  | verbatim (text : List Char)
  | segments (list : List (List Char))
  deriving DecidableEq, Repr, Inhabited

/-- The text of a path. -/
def Path.text : Path → List Char
  | .verbatim text => text
  | .segments list => list.flatMap fun segment => '/' :: segment

/-- Escaped in fragments. -/
def fragmentSet : Percent.Set := Percent.controls.with " \"<>`"

/-- Escaped in paths. -/
def pathSet : Percent.Set := fragmentSet.with "#?\x7b\x7d"

/-- Escaped in user names and passwords. -/
def userSet : Percent.Set := pathSet.with "/:;=@[\\]^|"

/-- Escaped in queries. -/
def querySet : Percent.Set := Percent.controls.with " \"#<>"

/-- Escaped in queries of special URLs. -/
def specialQuerySet : Percent.Set := querySet.with "'"

/-- What stands between two slashes in the text of a path. -/
structure Piece where
  /-- Its characters, escaped. -/
  text : List Char
  /-- Whether a tab or a line break, which counts as nothing else, stands between its first two
  characters and more of them. -/
  isParted : Bool
  deriving DecidableEq, Repr, Inhabited

namespace Piece

/-- A piece that stands for nothing. -/
def isSingleDot (piece : Piece) : Bool :=
  match piece.text with
  | ['.'] => true
  | ['%', '2', e] => e = 'e' || e = 'E'
  | _ => false

/-- A piece that takes the segment before it away. -/
def isDoubleDot (piece : Piece) : Bool :=
  match piece.text with
  | ['.', '.'] => true
  | ['.', '%', '2', e] => e = 'e' || e = 'E'
  | ['%', '2', e, '.'] => e = 'e' || e = 'E'
  | ['%', '2', e, '%', '2', f] => (e = 'e' || e = 'E') && (f = 'e' || f = 'E')
  | _ => false

end Piece

/-! ## Drive letters -/

/-- An ASCII letter. -/
def isLetter (c : Char) : Bool := c.isAlpha

/-- A letter and a colon or a bar. -/
def isDriveLetter (segment : List Char) : Bool :=
  match segment with
  | [letter, mark] => isLetter letter && (mark = ':' || mark = '|')
  | _ => false

/-- A letter and a colon. -/
def isNormalDriveLetter (segment : List Char) : Bool :=
  match segment with
  | [letter, mark] => isLetter letter && mark = ':'
  | _ => false

/-- Whether a text starts with a drive letter that a separator or the end follows. -/
def startsWithDriveLetter (text : List Char) : Bool :=
  match text with
  | [letter, mark] => isDriveLetter [letter, mark]
  | letter :: mark :: next :: _ =>
    isDriveLetter [letter, mark] && "/\\?#".toList.contains next
  | _ => false

/-! ## Walking -/

/-- The directory above `dir`; a drive letter stays. -/
def parent (dir : List (List Char)) : List (List Char) :=
  match dir.getLast? with
  | none => []
  | some last => if startsWithDriveLetter (last ++ ['/']) then dir else dir.dropLast

/-- The segments at the root of a file path that a piece stands for.  A drive letter gets its colon,
and one that is parted from what follows it is a segment of its own. -/
def rootSegments (piece : Piece) : List (List Char) :=
  match piece.text with
  | [letter, mark] => if isDriveLetter [letter, mark] then [[letter, ':']] else [piece.text]
  | letter :: mark :: rest =>
    if piece.isParted && isNormalDriveLetter [letter, mark] then [[letter, mark], rest]
    else [piece.text]
  | _ => [piece.text]

/-- The segments that a piece stands for in the directory `dir`. -/
def segmentsIn (file : Bool) (dir : List (List Char)) (piece : Piece) : List (List Char) :=
  if file && dir.isEmpty then rootSegments piece else [piece.text]

/-- Walks from the directory `dir` along pieces, the last of which names what is there. -/
def walk (file : Bool) (dir : List (List Char)) : List Piece → List (List Char)
  | [] => dir ++ [[]]
  | [last] =>
    if last.isDoubleDot then parent dir ++ [[]]
    else if last.isSingleDot then dir ++ [[]]
    else dir ++ segmentsIn file dir last
  | piece :: next :: rest =>
    if piece.isDoubleDot then walk file (parent dir) (next :: rest)
    else if piece.isSingleDot then walk file dir (next :: rest)
    else walk file (dir ++ segmentsIn file dir piece) (next :: rest)

/-- Whether a walk along a file path finds a drive letter alone at the root. -/
def findsDrive (dir : List (List Char)) : List Piece → Bool
  | [] => false
  | piece :: rest =>
    if piece.isDoubleDot then findsDrive (parent dir) rest
    else if piece.isSingleDot then findsDrive dir rest
    else
      (dir.isEmpty && isDriveLetter piece.text) ||
        findsDrive (dir ++ segmentsIn true dir piece) rest

/-- Walks from a file with the path `segments` along pieces.  A drive letter at the end of that path
stays.  If it is the whole path, it is the directory; otherwise a dot piece is read beside it, and
other text is joined to it. -/
def walkBeside (segments : List (List Char)) (pieces : List Piece) : List (List Char) :=
  let dir := segments.dropLast
  let last := segments.getLastD []
  if !isNormalDriveLetter last then walk true dir pieces
  else if dir.isEmpty then walk true segments pieces
  else
    match pieces with
    | [] => segments
    | [piece] =>
      if piece.isDoubleDot then segments
      else if piece.isSingleDot then segments ++ [[]]
      else dir ++ [last ++ piece.text]
    | piece :: rest =>
      if piece.isDoubleDot || piece.isSingleDot then walk true segments rest
      else walk true (dir ++ [last ++ piece.text]) rest

/-- The segments of a file path: empty ones at its start are left out. -/
def trimRoot (segments : List (List Char)) : List (List Char) :=
  match segments.dropWhile List.isEmpty with
  | [] => [[]]
  | trimmed => trimmed

end SchemaTypes.Url
