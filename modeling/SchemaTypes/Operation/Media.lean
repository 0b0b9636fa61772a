import SchemaTypes.Config.Basic
import SchemaTypes.Operation.Follow

set_option autoImplicit false

/-!
# Schemas of contents

A parameter, a request body or a response carries its schema either directly, as `schema`, or below
`content`, once for each media type.  Of several media types the configured ones come first, in the
order of the configuration; then the others, in the order of the document.
-/

namespace SchemaTypes.Media

/-- Whether a node carries a schema. -/
def hasSchema (node : Json) : Bool := (node.member? "schema").isSome

/-- The media type whose schema is taken. -/
def choose? (preferred : List String) (content : OrderedMap String Json) : Option String :=
  match preferred.find? fun media => (content.get? media).any hasSchema with
  | some media => some media
  | none => (content.find? fun entry => hasSchema entry.2).map Prod.fst

/-- The place of the schema that the node at `owner` carries. -/
def schemaPlace? (preferred : List String) (owner : Reference) (node : Json) : Option Reference :=
  match (node.member? "content").bind Json.members? with
  | some content =>
    (choose? preferred content).map fun media =>
      ((owner.child "content").child media).child "schema"
  | none => if hasSchema node then some (owner.child "schema") else none

/-- The place of the schema carried at `owner`, which must exist. -/
def schemaAt (store : Store) (config : Config) (owner : Reference) :
    Except Fault (Option Reference) :=
  match store.resolve owner with
  | .error fault => .error fault
  | .ok node => .ok (schemaPlace? config.preferredMediaTypes owner node)

/-- The place of the schema carried at the end of the links from `owner`, if there is one. -/
def locate (store : Store) (config : Config) (owner : Reference) :
    Except Fault (Option Reference) :=
  match store.follow owner with
  | .error fault => .error fault
  | .ok none => .ok none
  | .ok (some place) => schemaAt store config place

end SchemaTypes.Media
