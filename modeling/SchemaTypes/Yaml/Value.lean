import SchemaTypes.Yaml.Core
import SchemaTypes.Yaml.Structure

set_option autoImplicit false

/-!
# YAML documents as values

The JSON value that a document stands for, with every alias replaced by its node.  Keys are scalars,
whatever their tags, and count as strings.  Lists and maps nest up to a limit, which also ends
aliases of nodes around them; the number of aliases followed is limited by the length of the
document.
-/

namespace SchemaTypes.Yaml

/-- What the nodes of a document need to be read: its anchors, and how many aliases may be
followed. -/
structure Scope where
  anchors : Anchors
  limit : Nat
  deriving Repr, Inhabited

/-- The scope of a document: a hundred times as many aliases as the document is long. -/
def Document.scope (document : Document) : Scope :=
  match document.root with
  | some node => ⟨document.anchors, 100 * node.size⟩
  | none => ⟨document.anchors, 0⟩

namespace Scope

/-- The node that a node stands for, and how many aliases have been followed when `followed` were
before. -/
def target? (scope : Scope) (node : Node) (followed : Nat) : Option (Node × Nat) :=
  match node with
  | .aliasOf number =>
    if followed < scope.limit then
      (scope.anchors.node? number).map fun target => (target, followed + 1)
    else none
  | _ => some (node, followed)

/-- The text of a scalar. -/
def text? (scope : Scope) (node : Node) (followed : Nat) : Option (String × Nat) :=
  match scope.target? node followed with
  | some (.scalar _ scalar, followed) => some (scalar.text, followed)
  | _ => none

/-- The values of a list of nodes, if `read` gives the value of each. -/
def readItems? (read : Node → Nat → Option (Json × Nat)) : List Node → Nat →
    Option (List Json × Nat)
  | [], followed => some ([], followed)
  | node :: rest, followed =>
    match read node followed with
    | none => none
    | some (value, followed) =>
      match readItems? read rest followed with
      | some (values, followed) => some (value :: values, followed)
      | none => none

/-- The members that the entries of a map stand for, after those in `done`, if `read` gives the
value of each.  A key that comes again keeps its place and takes the last value. -/
def readEntries? (scope : Scope) (read : Node → Nat → Option (Json × Nat)) :
    OrderedMap String Json → List (Node × Node) → Nat → Option (OrderedMap String Json × Nat)
  | done, [], followed => some (done, followed)
  | done, (key, node) :: rest, followed =>
    match scope.text? key followed with
    | none => none
    | some (name, followed) =>
      match read node followed with
      | none => none
      | some (value, followed) =>
        readEntries? scope read (done.insert name value) rest followed

/-- The value of a node in which lists and maps nest up to `depth`. -/
def readNode? (scope : Scope) : Nat → Node → Nat → Option (Json × Nat)
  | depth, node, followed =>
    match scope.target? node followed with
    | some (.scalar tag scalar, followed) =>
      (Core.scalar? tag scalar).map fun value => (value, followed)
    | some (.list tag items, followed) =>
      match depth with
      | 0 => none
      | depth + 1 =>
        if Core.isRefused tag then none
        else
          match readItems? (readNode? scope depth) items followed with
          | some (values, followed) => some (.array values, followed)
          | none => none
    | some (.map tag entries, followed) =>
      match depth with
      | 0 => none
      | depth + 1 =>
        if Core.isRefused tag then none
        else
          match readEntries? scope (readNode? scope depth) [] entries followed with
          | some (members, followed) => some (.object members, followed)
          | none => none
    | _ => none

end Scope

/-- How deep lists and maps may nest. -/
def depthLimit : Nat := 128

/-- The value of a document; an empty text is null. -/
def Document.toJson? (document : Document) : Option Json :=
  match document.root with
  | none => some .null
  | some node => (document.scope.readNode? depthLimit node 0).map Prod.fst

end SchemaTypes.Yaml

namespace SchemaTypes

/-- The JSON value of a YAML text. -/
def Json.ofYaml? (text : String) : Option Json :=
  match Yaml.Document.read? text.toList with
  | some document => document.toJson?
  | none => none

end SchemaTypes
