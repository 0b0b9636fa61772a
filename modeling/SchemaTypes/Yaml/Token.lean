set_option autoImplicit false

/-!
# Tokens of YAML texts

The words and marks that a text consists of.  Some marks are not written: indentation opens and
closes block collections, and the key of an entry may be recognised only by the colon after it.
-/

namespace SchemaTypes.Yaml

/-- A written tag: its handle and the octets that follow that. -/
structure WrittenTag where
  handle : String
  suffix : List UInt8
  deriving DecidableEq, Repr, Inhabited

/-- The text of a scalar, and whether it is plain. -/
structure Scalar where
  text : String
  isPlain : Bool
  deriving DecidableEq, Repr, Inhabited

/-- A token. -/
inductive Token where
  /-- The version that a document is written for. -/
  | version (major minor : Nat)
  /-- A handle, and what stands for it in tags. -/
  | tagHandle (handle : String) (meaning : List UInt8)
  | documentStart
  | documentEnd
  /-- A block of entries opens. -/
  | openEntries
  /-- A block of keys and values opens. -/
  | openMembers
  /-- A block closes. -/
  | close
  /-- An opening square bracket. -/
  | openList
  /-- A closing square bracket. -/
  | closeList
  /-- An opening curly bracket. -/
  | openMap
  /-- A closing curly bracket. -/
  | closeMap
  /-- An entry of a block begins. -/
  | entry
  /-- A comma between brackets. -/
  | comma
  /-- A key begins. -/
  | key
  /-- A value begins. -/
  | value
  | aliasOf (name : String)
  | anchor (name : String)
  | tag (tag : WrittenTag)
  | scalar (scalar : Scalar)
  deriving DecidableEq, Repr, Inhabited

end SchemaTypes.Yaml
