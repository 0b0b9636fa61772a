import SchemaTypes.DocumentId
import SchemaTypes.Fault
import SchemaTypes.Pointer

set_option autoImplicit false

/-!
# References

A reference names one node of one document: the document's id and the path to the node.  Its
canonical form is the id, `#` and the written pointer.
-/

namespace SchemaTypes

/-- A place in a document. -/
structure Reference where
  document : String
  /-- The tokens from the root of the document, decoded. -/
  path : List String
  deriving DecidableEq, Repr, Inhabited

namespace Reference

/-- The root of a document. -/
def root (document : String) : Reference := ⟨document, []⟩

/-- The place one step below. -/
def child (r : Reference) (token : String) : Reference := { r with path := r.path ++ [token] }

/-- Whether the reference names a whole document. -/
def isRoot (r : Reference) : Bool := r.path.isEmpty

/-- The last token. -/
def last? (r : Reference) : Option String := r.path.getLast?

/-- The written pointer. -/
def pointer (r : Reference) : String := Pointer.text r.path

/-- The canonical form. -/
def canonical (r : Reference) : String := r.document ++ "#" ++ r.pointer

/-- The order of references: by document, then by path, token by token. -/
def compare (a b : Reference) : Ordering :=
  (Ord.compare a.document b.document).then (comparePaths a.path b.path)
where
  comparePaths : List String → List String → Ordering
    | [], [] => .eq
    | [], _ :: _ => .lt
    | _ :: _, [] => .gt
    | x :: xs, y :: ys => (Ord.compare x y).then (comparePaths xs ys)

/-- The fault of a fragment that is no pointer. -/
def unsupportedFragment (raw fragment : String) : Fault :=
  .malformedSchema raw
    ("unsupported fragment '#" ++ fragment ++ "': only JSON Pointers are resolved")

/-- The document and the fragment of a written reference; without `#` there is no fragment. -/
def splitFragment (raw : List Char) : List Char × List Char :=
  (Text.splitFirst? '#' raw).getD (raw, [])

/-- Reads a written reference that stands in the document `current`.  An empty document part means
that document; any other is resolved against it. -/
def parse (raw current : String) : Except Fault Reference :=
  let (documentPart, fragment) := splitFragment raw.toList
  let document :=
    if documentPart.isEmpty then some current
    else (DocumentId.relativeChars? documentPart current.toList).map String.ofList
  match document with
  | none => .error (.unknownDocument (String.ofList documentPart))
  | some document =>
    match Pointer.read? fragment with
    | none => .error (unsupportedFragment raw (String.ofList fragment))
    | some path => .ok ⟨document, path⟩

/-- A written reference cannot be read because its document cannot be named or because its fragment
is no pointer. -/
theorem parse_error {raw current : String} {fault : Fault} (h : parse raw current = .error fault) :
    (∃ document, fault = .unknownDocument document) ∨
      ∃ fragment, fault = unsupportedFragment raw fragment := by
  unfold parse at h
  simp only at h
  split at h
  · cases h
    exact Or.inl ⟨_, rfl⟩
  · split at h
    · cases h
      exact Or.inr ⟨_, rfl⟩
    · cases h

/-- Reading a reference has nothing to do with how deep references nest. -/
theorem parse_ne_exhausted {raw current : String} :
    parse raw current ≠ .error .nestingExhausted := by
  intro h
  rcases parse_error h with ⟨document, hfault⟩ | ⟨fragment, hfault⟩ <;> cases hfault

@[simp] theorem child_document (r : Reference) (token : String) :
    (r.child token).document = r.document := rfl

@[simp] theorem child_path (r : Reference) (token : String) :
    (r.child token).path = r.path ++ [token] := rfl

end Reference

end SchemaTypes
