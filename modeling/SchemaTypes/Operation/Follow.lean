import SchemaTypes.Store

set_option autoImplicit false

/-!
# Following links

A parameter, a request body or a response may be given by a link, an object whose `$ref` is a
written reference.  Links are followed, each in the document it stands in, until a node is reached
that is no link.  A chain that comes back to one of its links is a fault, and so is a chain that
breaks off; only a start that does not exist in its document is nothing at all.
-/

namespace SchemaTypes

/-- The written reference of a link. -/
def Json.link? (node : Json) : Option String := node.stringMember? "$ref"

/-- What a place on a chain of links leads to. -/
inductive LinkStep where
  /-- The chain ends, with a place, with nothing or with a fault. -/
  | ends (result : Except Fault (Option Reference))
  /-- The place is a link to this one. -/
  | leads (next : Reference)

namespace Store

/-- The fault of a chain of links that comes back to `r`. -/
def linkCycle (r : Reference) : Fault :=
  .malformedSchema r.canonical "reference cycle between components"

/-- What a node at `r` leads to, after the links in `seen`. -/
def stepAt (seen : List Reference) (r : Reference) (node : Json) : LinkStep :=
  match node.link? with
  | none => .ends (.ok (some r))
  | some target =>
    if r ∈ seen then .ends (.error (linkCycle r))
    else
      match Reference.parse target r.document with
      | .ok next => .leads next
      | .error fault => .ends (.error fault)

/-- What `r` leads to, after the links in `seen`.  The first place of a chain may be missing. -/
def linkStep (store : Store) (seen : List Reference) (r : Reference) : LinkStep :=
  match store.resolve r with
  | .ok node => stepAt seen r node
  | .error (.unresolvedReference text) =>
    .ends (if seen.isEmpty then .ok none else .error (.unresolvedReference text))
  | .error fault => .ends (.error fault)

/-- Follows a chain of links that has led to `r` from the links in `seen`; `bound` more may come. -/
def followFrom (store : Store) : Nat → List Reference → Reference →
    Except Fault (Option Reference)
  | 0, seen, r =>
    match store.linkStep seen r with
    | .ends result => result
    | .leads _ => .error .nestingExhausted
  | bound + 1, seen, r =>
    match store.linkStep seen r with
    | .ends result => result
    | .leads next => followFrom store bound (r :: seen) next

/-- The place of the node that a chain of links leads to, or `none` if the first place does not
exist.  The links of a chain are different nodes of the store, which bounds their number. -/
def follow (store : Store) (r : Reference) : Except Fault (Option Reference) :=
  store.followFrom store.nodeCount [] r

/-- The end of a chain needs no further links. -/
theorem followFrom_of_ends (store : Store) (bound : Nat) (seen : List Reference) (r : Reference)
    (result : Except Fault (Option Reference)) (h : store.linkStep seen r = .ends result) :
    store.followFrom bound seen r = result := by
  cases bound <;> simp [followFrom, h]

/-- A link is left for the place that it leads to. -/
theorem followFrom_of_leads (store : Store) (bound : Nat) (seen : List Reference)
    (r next : Reference) (h : store.linkStep seen r = .leads next) :
    store.followFrom (bound + 1) seen r = store.followFrom bound (r :: seen) next := by
  simp [followFrom, h]

end Store

end SchemaTypes
