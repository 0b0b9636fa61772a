import SchemaTypes.TypeExpr.Basic

set_option autoImplicit false

/-!
# Unions and intersections

Building a union or an intersection takes apart members of the same kind, drops members equal to an
earlier one, and gives a single member as it is.
-/

namespace SchemaTypes.TypeExpr

/-- Appends a member unless an equal one is there. -/
def addMember (members : List TypeExpr) (member : TypeExpr) : List TypeExpr :=
  if members.any (same · member) then members else members ++ [member]

/-- The members without those equal to an earlier one. -/
def distinctMembers (members : List TypeExpr) : List TypeExpr := members.foldl addMember []

/-- One member alone, none as `unknown`, several wrapped. -/
def collapse (wrap : List TypeExpr → TypeExpr) : List TypeExpr → TypeExpr
  | [] => unknown
  | [member] => member
  | members => wrap members

/-- The members of a union; any other type is its own only member. -/
def unionMembers : TypeExpr → List TypeExpr
  | union members => members
  | t => [t]

/-- The members of an intersection; any other type is its own only member. -/
def intersectionMembers : TypeExpr → List TypeExpr
  | intersection members => members
  | t => [t]

/-- The union of types. -/
def unionOf (members : List TypeExpr) : TypeExpr :=
  collapse union (distinctMembers (members.flatMap unionMembers))

/-- The intersection of types. -/
def intersectionOf (members : List TypeExpr) : TypeExpr :=
  collapse intersection (distinctMembers (members.flatMap intersectionMembers))

/-- The type, or `null`. -/
def nullable (t : TypeExpr) : TypeExpr := unionOf [t, null]

end SchemaTypes.TypeExpr
