import SchemaTypes.OrderedMap
import SchemaTypes.Yaml.Token

set_option autoImplicit false

/-!
# YAML documents

A document is a tree of scalars, lists and maps.  An alias stands for an anchored node of the
document, which may lie anywhere in it, even around the alias.

Anchors are numbered: a name gets as its number the number of names that were known before, also if
the name itself is one of them.  An alias takes the number that its name has where it stands, and in
the end means the last node that got this number.
-/

namespace SchemaTypes.Yaml

/-- A node of a document; `tag` is the full text of its tag, in octets. -/
inductive Node where
  | scalar (tag : Option (List UInt8)) (scalar : Scalar)
  | list (tag : Option (List UInt8)) (items : List Node)
  | map (tag : Option (List UInt8)) (entries : List (Node × Node))
  /-- The node with an anchor of this number. -/
  | aliasOf (number : Nat)
  deriving Repr, Inhabited

namespace Node

/-- A plain scalar without text, which stands where a node is missing. -/
def missing : Node := .scalar none ⟨"", true⟩

mutual

/-- The length of a node when it is told as a series of scalars, aliases, and starts and ends. -/
def size : Node → Nat
  | scalar _ _ => 1
  | aliasOf _ => 1
  | list _ items => 2 + sizeItems items
  | map _ entries => 2 + sizeEntries entries

/-- The length of a list of nodes. -/
def sizeItems : List Node → Nat
  | [] => 0
  | item :: rest => size item + sizeItems rest

/-- The length of the entries of a map. -/
def sizeEntries : List (Node × Node) → Nat
  | [] => 0
  | (key, value) :: rest => size key + size value + sizeEntries rest

end

end Node

/-- The anchors of a document. -/
structure Anchors where
  /-- The number that a name has at present. -/
  numbers : OrderedMap String Nat
  /-- Which anchored node has a number, by the order in which these nodes begin. -/
  owners : OrderedMap Nat Nat
  /-- How many anchored nodes have begun. -/
  begun : Nat
  /-- The anchored nodes that are complete. -/
  nodes : OrderedMap Nat Node
  deriving Repr, Inhabited

namespace Anchors

/-- No anchors. -/
def empty : Anchors := ⟨[], [], 0, []⟩

/-- Notes that a node with an anchor begins; without a name, nothing is to be noted. -/
def begin (anchors : Anchors) (name : Option String) : Anchors :=
  match name with
  | none => anchors
  | some name =>
    let number := anchors.numbers.length
    { anchors with
      numbers := anchors.numbers.insert name number
      owners := anchors.owners.insert number anchors.begun
      begun := anchors.begun + 1 }

/-- Notes that the anchored node that began as the given one is complete. -/
def complete (anchors : Anchors) (name : Option String) (order : Nat) (node : Node) : Anchors :=
  match name with
  | none => anchors
  | some _ => { anchors with nodes := anchors.nodes.insert order node }

/-- The node that an alias of this number stands for. -/
def node? (anchors : Anchors) (number : Nat) : Option Node :=
  match anchors.owners.get? number with
  | some order => anchors.nodes.get? order
  | none => none

/-- The node that a node stands for: itself, unless it is an alias. -/
def target? (anchors : Anchors) (node : Node) : Option Node :=
  match node with
  | .aliasOf number => anchors.node? number
  | _ => some node

end Anchors

/-- A document; a text may also hold none. -/
structure Document where
  root : Option Node
  anchors : Anchors
  deriving Repr, Inhabited

end SchemaTypes.Yaml
