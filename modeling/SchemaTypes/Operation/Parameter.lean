import SchemaTypes.Operation.Follow

set_option autoImplicit false

/-!
# Parameters of an operation

The parameters of an operation are those of its path item and its own.  A parameter is known by its
name and by where it is passed; one of the operation takes the place of the path item's parameter
that is known by the same.  Entries that cannot be followed to an object with both are all kept.
-/

namespace SchemaTypes

/-- An entry of a list of parameters. -/
structure ParameterEntry where
  /-- The name and where it is passed, of the object reached. -/
  key : Option (String × String)
  /-- The place of the object, or why it was not reached. -/
  place : Except Fault Reference

namespace ParameterEntry

/-- The name of a parameter and where it is passed. -/
def keyOf (node : Json) : Option (String × String) :=
  match node.stringMember? "name", node.stringMember? "in" with
  | some name, some passing => some (name, passing)
  | _, _ => none

theorem keyOf_eq_some_iff {node : Json} {name passing : String} :
    keyOf node = some (name, passing) ↔
      node.stringMember? "name" = some name ∧ node.stringMember? "in" = some passing := by
  unfold keyOf
  cases node.stringMember? "name" <;> cases node.stringMember? "in" <;> simp

theorem keyOf_eq_none_iff {node : Json} :
    keyOf node = none ↔
      node.stringMember? "name" = none ∨ node.stringMember? "in" = none := by
  unfold keyOf
  cases node.stringMember? "name" <;> cases node.stringMember? "in" <;> simp

/-- The entry of an object at a place. -/
def ofPlace (store : Store) (place : Reference) : ParameterEntry :=
  match store.resolve place with
  | .ok node => ⟨keyOf node, .ok place⟩
  | .error _ => ⟨none, .ok place⟩

/-- The entry at an owner's list, unless nothing is there. -/
def read? (store : Store) (r : Reference) : Option ParameterEntry :=
  match store.follow r with
  | .ok (some place) => some (ofPlace store place)
  | .ok none => none
  | .error fault => some ⟨none, .error fault⟩

/-- Puts an entry in the place of the one that has its key, or at the end. -/
def put (entry : ParameterEntry) : List ParameterEntry → List ParameterEntry
  | [] => [entry]
  | head :: rest =>
    if entry.key.isSome && head.key == entry.key then entry :: rest
    else head :: put entry rest

/-- The entries of a sequence with those of one key united. -/
def merge (entries : List ParameterEntry) : List ParameterEntry :=
  entries.foldl (fun merged entry => put entry merged) []

/-- The entries of the list `parameters` of an owner. -/
def ofOwner (store : Store) (owner : Reference) (node : Json) : List ParameterEntry :=
  match (node.member? "parameters").bind Json.items? with
  | some items =>
    (List.range items.length).filterMap fun index =>
      read? store ((owner.child "parameters").child (toString index))
  | none => []

/-- An entry without a key goes to the end. -/
theorem put_of_key_eq_none (entry : ParameterEntry) (entries : List ParameterEntry)
    (h : entry.key = none) : put entry entries = entries ++ [entry] := by
  induction entries with
  | nil => rfl
  | cons head rest ih => simp [put, h, ih]

end ParameterEntry

end SchemaTypes
