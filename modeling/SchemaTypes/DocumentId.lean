import SchemaTypes.Url.Reading

set_option autoImplicit false

/-!
# Document ids

A document is known by an absolute URL in normal form or by a plain path.  A plain path is read as a
path on a fixed host: its `.` and `..` segments are folded, its query and fragment are dropped, its
escapes are undone, and it keeps a leading slash only if it came with one.

URLs are normalized as far as `Url.Host.special?` reads their hosts.  A text with a special scheme
and a host name outside ASCII is not read as a URL, although the name could be converted to ASCII
labels; and labels that start with `xn--` are kept as they are, whether or not they stand for a
name.
-/

namespace SchemaTypes.DocumentId

/-- The URL that plain paths are read relative to. -/
def root : Url :=
  ⟨"http".toList, some ⟨[], .name "example.invalid".toList, none⟩, .segments [[]], none, none⟩

/-- Whether a text starts with a slash. -/
def isAbsolutePath (text : List Char) : Bool := text.head? = some '/'

/-- The plain path of a URL: its path with escapes undone, and without leading slashes unless
`absolute`. -/
def plainPath (absolute : Bool) (url : Url) : List Char :=
  let path := Percent.decode url.path.text
  if absolute then path else Text.trimStart (· = '/') path

/-- The id of a plain path. -/
def ofPath? (id : List Char) : Option (List Char) :=
  (root.join? id).map (plainPath (isAbsolutePath id))

/-- The one spelling of an id, on characters.  A text that is not read as a URL, be it for its host,
is read as a plain path. -/
def canonicalChars? (id : List Char) : Option (List Char) :=
  match Url.parse? id with
  | some url => some url.text
  | none => ofPath? id

/-- The id that the document part `document` of a reference means inside the document `current`, on
characters. -/
def relativeChars? (document current : List Char) : Option (List Char) :=
  match Url.parse? document with
  | some url => some url.text
  | none =>
    if isAbsolutePath document then canonicalChars? document
    else
      match Url.parse? current with
      | some base => (base.join? document).map Url.text
      | none =>
        match root.join? current with
        | none => none
        | some base => (base.join? document).map (plainPath (isAbsolutePath current))

/-- The one spelling of a document id; `none` if the text cannot be an id. -/
def canonical? (id : String) : Option String := (canonicalChars? id.toList).map String.ofList

/-- The id that the document part `document` of a reference means inside the document `current`. -/
def relative? (document current : String) : Option String :=
  (relativeChars? document.toList current.toList).map String.ofList

end SchemaTypes.DocumentId
