import SchemaTypes.Json.Basic

set_option autoImplicit false

/-!
# Type expressions

The structural types that schemas describe, free of any target language.  A declaration is never
part of another type: it is named by an `identifier`, and a type that contains itself is a
`recursive` declaration whose body names it by an identifier.
-/

namespace SchemaTypes

/-- The primitive types. -/
inductive Primitive where
  | boolean
  | number
  | integer
  | string
  | null
  deriving DecidableEq, Repr, Inhabited

/-- A single value used as a type. -/
inductive Literal where
  | string (value : String)
  | number (value : Number)
  | boolean (value : Bool)
  | null
  deriving DecidableEq, Repr, Inhabited

/-- Equality of literals: numbers of one sort are compared by value. -/
def Literal.same : Literal → Literal → Bool
  | .string a, .string b => a == b
  | .number a, .number b => a.equal b
  | .boolean a, .boolean b => a == b
  | .null, .null => true
  | _, _ => false

/-- What a record says of a field besides its type. -/
structure FieldLabel where
  name : String
  optional : Bool
  deriving DecidableEq, Repr, Inhabited

/-- A type. -/
inductive TypeExpr where
  | primitive (kind : Primitive)
  | array (element : TypeExpr)
  /-- An object with known fields, in the order of their declaration. -/
  | record (fields : List (FieldLabel × TypeExpr))
  /-- An object whose members all have one type. -/
  | dictionary (values : TypeExpr)
  | union (members : List TypeExpr)
  | intersection (members : List TypeExpr)
  /-- A list of fixed length. -/
  | tuple (items : List TypeExpr)
  | literal (value : Literal)
  /-- The declaration of this name under this import path. -/
  | identifier (name : String) (importPath : Option String)
  /-- A declaration that refers to itself by `name`. -/
  | recursive (name : String) (body : TypeExpr)
  /-- A type that a runtime helper provides. -/
  | provided (displayName backingName : String)
  /-- Any value. -/
  | unknown
  deriving Repr, Inhabited

namespace TypeExpr

/-- The type of `null`. -/
def null : TypeExpr := primitive .null

/-- The type of all strings. -/
def string : TypeExpr := primitive .string

/-- The type of all numbers. -/
def number : TypeExpr := primitive .number

/-- The type of the truth values. -/
def boolean : TypeExpr := primitive .boolean

/-- The type of all objects. -/
def anyObject : TypeExpr := dictionary unknown

mutual

/-- Equality of types: the same form with equal parts in the same order. -/
def same : TypeExpr → TypeExpr → Bool
  | primitive a, primitive b => a == b
  | array a, array b => same a b
  | record a, record b => sameFields a b
  | dictionary a, dictionary b => same a b
  | union a, union b => sameList a b
  | intersection a, intersection b => sameList a b
  | tuple a, tuple b => sameList a b
  | literal a, literal b => a.same b
  | identifier a p, identifier b q => a == b && p == q
  | recursive a x, recursive b y => a == b && same x y
  | provided a b, provided c d => a == c && b == d
  | unknown, unknown => true
  | _, _ => false

/-- Equality of lists of types. -/
def sameList : List TypeExpr → List TypeExpr → Bool
  | [], [] => true
  | a :: as, b :: bs => same a b && sameList as bs
  | _, _ => false

/-- Equality of lists of fields. -/
def sameFields : List (FieldLabel × TypeExpr) → List (FieldLabel × TypeExpr) → Bool
  | [], [] => true
  | (l, a) :: as, (m, b) :: bs => l == m && same a b && sameFields as bs
  | _, _ => false

end

mutual

/-- Whether a type is complex enough to get a declaration of its own: it contains a record. -/
def qualifies : TypeExpr → Bool
  | record _ => true
  | union members => anyQualifies members
  | intersection members => anyQualifies members
  | tuple items => anyQualifies items
  | array element => qualifies element
  | dictionary values => qualifies values
  | recursive _ body => qualifies body
  | _ => false

/-- Whether a type of the list is complex enough to get a declaration of its own. -/
def anyQualifies : List TypeExpr → Bool
  | [] => false
  | t :: rest => qualifies t || anyQualifies rest

end

/-- Whether the type is an identifier of the given name, under any import path. -/
def isIdentifierOf (t : TypeExpr) (name : String) : Bool :=
  match t with
  | identifier n _ => n == name
  | _ => false

end TypeExpr

end SchemaTypes
