import SchemaTypes.Naming.Policy
import SchemaTypes.TypeExpr.Algebra

set_option autoImplicit false

/-!
# Registries

What a session has generated so far, each kind of entry in the order in which it came: the finished
declarations, the types of references that got no declaration, the references that are open, and
the names that are taken.  All four are keyed by the canonical form of the reference, the names by
the name.  A `Mark` remembers the four sizes, and rolling back to it forgets what came later.

Apart from that the registry keeps, in sorted order, which runtime helpers were used.
-/

namespace SchemaTypes

/-- A finished declaration. -/
structure Model where
  reference : Reference
  name : String
  declaration : TypeExpr
  importPath : Option String
  deriving Repr, Inhabited

/-- The identifier of a name. -/
def ModelName.identifier (n : ModelName) : TypeExpr := .identifier n.name n.importPath

namespace Model

/-- The declaration's name with its import path. -/
def modelName (m : Model) : ModelName := ⟨m.name, m.importPath⟩

/-- The identifier that stands for the declaration. -/
def identifier (m : Model) : TypeExpr := m.modelName.identifier

end Model

/-- A reference whose target is being read. -/
structure Pending where
  policy : NamingPolicy
  /-- The name given to the reference when it was met again inside its own target. -/
  reserved : Option ModelName

/-- The state of generation. -/
structure Registry where
  /-- Finished declarations. -/
  models : OrderedMap String Model
  /-- Types of references without a declaration. -/
  inlined : OrderedMap String TypeExpr
  /-- Open references. -/
  pending : OrderedMap String Pending
  /-- Taken names, with the reference that each belongs to. -/
  names : OrderedMap ModelName String
  /-- The helpers used, by import path; paths and helpers rise. -/
  helpers : List (String × List String)

/-- The sizes of a registry. -/
structure Mark where
  models : Nat
  inlined : Nat
  pending : Nat
  names : Nat
  deriving DecidableEq, Repr, Inhabited

namespace Registry

/-- Nothing generated. -/
def empty : Registry := ⟨[], [], [], [], []⟩

instance : Inhabited Registry := ⟨empty⟩

/-! ## Helpers in sorted order -/

/-- Adds a text to a rising list. -/
def addSorted (item : String) : List String → List String
  | [] => [item]
  | head :: rest =>
    if item = head then head :: rest
    else if item < head then item :: head :: rest
    else head :: addSorted item rest

/-- Adds a helper under its import path. -/
def addHelper (path name : String) : List (String × List String) → List (String × List String)
  | [] => [(path, [name])]
  | (key, names) :: rest =>
    if path = key then (key, addSorted name names) :: rest
    else if path < key then (path, [name]) :: (key, names) :: rest
    else (key, names) :: addHelper path name rest

/-- Notes that a helper is used. -/
def recordHelper (registry : Registry) (path name : String) : Registry :=
  { registry with helpers := addHelper path name registry.helpers }

/-! ## Names -/

/-- How many variants of a name are tried. -/
def variantLimit : Nat := 10000

/-- The preferred name, then its variants. -/
def candidate (policy : NamingPolicy) (preferred : ModelName) (attempt : Nat) : ModelName :=
  if attempt = 0 then preferred else policy.variant preferred attempt

/-- Whether a name belongs to another reference. -/
def isTaken (registry : Registry) (key : String) (name : ModelName) : Bool :=
  match registry.names.get? name with
  | some owner => owner != key
  | none => false

/-- The first candidate from `attempt` on that is not taken, among `remaining` of them. -/
def firstFree (taken : ModelName → Bool) (candidates : Nat → ModelName) :
    Nat → Nat → Option ModelName
  | 0, _ => none
  | remaining + 1, attempt =>
    if taken (candidates attempt) then firstFree taken candidates remaining (attempt + 1)
    else some (candidates attempt)

/-- Takes the first free name for a reference, known by `key`. -/
def assignName (registry : Registry) (policy : NamingPolicy) (r : Reference) (key : String) :
    Except Fault (ModelName × Registry) :=
  let preferred := policy.name r
  match firstFree (registry.isTaken key) (candidate policy preferred) (variantLimit + 1) 0 with
  | none =>
    .error (.namingConflict
      ("no free variant of '" ++ preferred.display ++ "' for " ++ key))
  | some name => .ok (name, { registry with names := registry.names.insert name key })

/-! ## Open references -/

/-- Opens a reference. -/
def begin (registry : Registry) (key : String) (policy : NamingPolicy) : Registry :=
  { registry with pending := registry.pending.insert key ⟨policy, none⟩ }

/-- The name of a reference that is open, fixed now if it was not before; `none` if the reference is
not open. -/
def reserve (registry : Registry) (r : Reference) : Except Fault (Option (ModelName × Registry)) :=
  match registry.pending.get? r.canonical with
  | none => .ok none
  | some ⟨_, some name⟩ => .ok (some (name, registry))
  | some ⟨policy, none⟩ =>
    match registry.assignName policy r r.canonical with
    | .error fault => .error fault
    | .ok (name, registry) =>
      .ok (some (name,
        { registry with pending := registry.pending.insert r.canonical ⟨policy, some name⟩ }))

/-- Closes a reference: what was open under it, and the registry without it. -/
def finish (registry : Registry) (key : String) : Option Pending × Registry :=
  match registry.pending.get? key with
  | none => (none, registry)
  | some entry => (some entry, { registry with pending := registry.pending.erase key })

/-! ## Finished references -/

/-- Notes the type of a reference that gets no declaration. -/
def recordInlined (registry : Registry) (key : String) (type : TypeExpr) : Registry :=
  { registry with inlined := registry.inlined.insert key type }

/-- Adds a declaration, unless the reference has one. -/
def addModel (registry : Registry) (r : Reference) (name : ModelName) (declaration : TypeExpr) :
    Registry :=
  if registry.models.contains r.canonical then registry
  else
    { registry with
      models := registry.models.insert r.canonical ⟨r, name.name, declaration, name.importPath⟩ }

/-- The declaration of a reference. -/
def lookup (registry : Registry) (r : Reference) : Option Model :=
  registry.models.get? r.canonical

/-- Whether a reference is open. -/
def isPending (registry : Registry) (key : String) : Bool := registry.pending.contains key

/-! ## Rolling back -/

/-- The present sizes. -/
def mark (registry : Registry) : Mark :=
  ⟨registry.models.length, registry.inlined.length, registry.pending.length,
    registry.names.length⟩

/-- Forgets what came after a mark; helpers stay. -/
def rollback (registry : Registry) (m : Mark) : Registry :=
  { registry with
    models := registry.models.take m.models
    inlined := registry.inlined.take m.inlined
    pending := registry.pending.take m.pending
    names := registry.names.take m.names }

end Registry

end SchemaTypes
