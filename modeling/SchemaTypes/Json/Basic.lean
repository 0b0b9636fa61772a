import SchemaTypes.Decimal.Binary64
import SchemaTypes.OrderedMap

set_option autoImplicit false

/-!
# JSON values

Values of the data format.  The members of an object stand in the order in which their names first
came; a number is an integer or a double, and no integer equals a double.
-/

namespace SchemaTypes

/-- A JSON number: an integer of 64 bits, signed or unsigned, or a double. -/
inductive Number where
  | integer (value : Int)
  | real (value : Binary64)
  deriving DecidableEq, Repr, Inhabited

/-- Equality of numbers of the same sort; the two zeros among the doubles are equal. -/
def Number.equal : Number → Number → Bool
  | .integer a, .integer b => a == b
  | .real x, .real y => x.equal y
  | _, _ => false

/-- Whether the number is an integer. -/
def Number.isInteger : Number → Bool
  | .integer _ => true
  | .real _ => false

/-- A JSON value. -/
inductive Json where
  | null
  | bool (value : Bool)
  | number (value : Number)
  | string (value : String)
  | array (items : List Json)
  | object (members : List (String × Json))
  deriving Repr, Inhabited

namespace Json

/-- The members of an object. -/
def members? : Json → Option (OrderedMap String Json)
  | object members => some members
  | _ => none

/-- The items of an array. -/
def items? : Json → Option (List Json)
  | array items => some items
  | _ => none

/-- The text of a string. -/
def string? : Json → Option String
  | string value => some value
  | _ => none

/-- The truth value of a boolean. -/
def bool? : Json → Option Bool
  | bool value => some value
  | _ => none

/-- The member `name` of an object. -/
def member? (value : Json) (name : String) : Option Json :=
  match value with
  | object members => OrderedMap.get? members name
  | _ => none

/-- The member `name` of an object, if it is a string. -/
def stringMember? (value : Json) (name : String) : Option String :=
  match value.member? name with
  | some member => member.string?
  | none => none

theorem members?_eq_some_iff {value : Json} {members : OrderedMap String Json} :
    value.members? = some members ↔ value = object members := by
  cases value <;> simp [members?]

theorem items?_eq_some_iff {value : Json} {items : List Json} :
    value.items? = some items ↔ value = array items := by
  cases value <;> simp [items?]

theorem bind_members?_eq_some_iff {found : Option Json} {members : OrderedMap String Json} :
    found.bind members? = some members ↔ found = some (object members) := by
  simp only [Option.bind_eq_some_iff, members?_eq_some_iff, exists_eq_right]

theorem bind_items?_eq_some_iff {found : Option Json} {items : List Json} :
    found.bind items? = some items ↔ found = some (array items) := by
  simp only [Option.bind_eq_some_iff, items?_eq_some_iff, exists_eq_right]

theorem stringMember?_eq_some_iff {value : Json} {name text : String} :
    value.stringMember? name = some text ↔ value.member? name = some (string text) := by
  unfold stringMember?
  cases value.member? name with
  | none => simp
  | some member => cases member <;> simp [string?]

/-- What a JSON value is called in messages. -/
def typeName : Json → String
  | null => "null"
  | bool _ => "boolean"
  | number _ => "number"
  | string _ => "string"
  | array _ => "array"
  | object _ => "object"

mutual

/-- The number of values in a value, itself included. -/
def nodeCount : Json → Nat
  | array items => 1 + nodeCountItems items
  | object members => 1 + nodeCountMembers members
  | _ => 1

/-- The number of values in a list of values. -/
def nodeCountItems : List Json → Nat
  | [] => 0
  | item :: rest => nodeCount item + nodeCountItems rest

/-- The number of values in the members of an object. -/
def nodeCountMembers : List (String × Json) → Nat
  | [] => 0
  | (_, value) :: rest => nodeCount value + nodeCountMembers rest

end

mutual

/-- Whether the names of every object in the value are pairwise different. -/
def distinct : Json → Bool
  | array items => distinctItems items
  | object members => distinctMembers [] members
  | _ => true

/-- Whether every value of a list is `distinct`. -/
def distinctItems : List Json → Bool
  | [] => true
  | item :: rest => distinct item && distinctItems rest

/-- Whether the names of the members differ from each other and from those in `seen`, and every
value is `distinct`. -/
def distinctMembers (seen : List String) : List (String × Json) → Bool
  | [] => true
  | (name, value) :: rest =>
    !seen.contains name && distinct value && distinctMembers (name :: seen) rest

end

end Json

end SchemaTypes
