import SchemaTypes.Url.Host
import SchemaTypes.Url.Path

set_option autoImplicit false

/-!
# URLs

An absolute URL in normal form, by its parts, and its text.
-/

namespace SchemaTypes

/-- The kinds of schemes that are read differently. -/
inductive Url.Kind where
  | special
  | file
  | general
  deriving DecidableEq, Repr, Inhabited

/-- What stands between `//` and the path. -/
structure Url.Authority where
  /-- User name and password with their final `@`, escaped; empty if there are none. -/
  user : List Char
  host : Url.Host
  /-- The port, unless it is the scheme's own. -/
  port : Option Nat
  deriving DecidableEq, Repr, Inhabited

/-- An absolute URL. -/
structure Url where
  scheme : List Char
  authority : Option Url.Authority
  path : Url.Path
  query : Option (List Char)
  fragment : Option (List Char)
  deriving DecidableEq, Repr, Inhabited

namespace Url

/-- The kind of a scheme. -/
def Kind.of (scheme : List Char) : Kind :=
  let name := String.ofList scheme
  if name = "file" then .file
  else if ["http", "https", "ws", "wss", "ftp"].contains name then .special
  else .general

/-- The port a scheme uses if none is given. -/
def defaultPort? (scheme : List Char) : Option Nat :=
  let name := String.ofList scheme
  if name = "http" || name = "ws" then some 80
  else if name = "https" || name = "wss" then some 443
  else if name = "ftp" then some 21
  else none

/-- The text of an authority. -/
def Authority.text (a : Authority) : List Char :=
  a.user ++ a.host.text ++
    (match a.port with
    | some port => ':' :: Nat.toDigits 10 port
    | none => [])

/-- What stands between the scheme and the path.  Without an authority a path that starts with two
slashes is set off by `/.`. -/
def beforePath (url : Url) : List Char :=
  match url.authority with
  | some a => '/' :: '/' :: a.text
  | none =>
    match url.path.text with
    | '/' :: '/' :: _ => ['/', '.']
    | _ => []

/-- The text of an optional part after its mark. -/
def partText (mark : Char) : Option (List Char) → List Char
  | some text => mark :: text
  | none => []

/-- The text of a URL. -/
def text (url : Url) : List Char :=
  url.scheme ++ ':' :: url.beforePath ++ url.path.text ++ partText '?' url.query ++
    partText '#' url.fragment

end Url

end SchemaTypes
