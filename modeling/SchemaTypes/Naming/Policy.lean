import SchemaTypes.Naming.Identifier
import SchemaTypes.Reference

set_option autoImplicit false

/-!
# Naming policies

A policy chooses the name of the declaration generated for a reference, and variants of it for the
case that the name is taken.
-/

namespace SchemaTypes

/-- The name of a declaration. -/
structure ModelName where
  name : String
  /-- Where the declaration is emitted; `none` is the local file. -/
  importPath : Option String
  deriving DecidableEq, Repr, Inhabited

namespace ModelName

/-- A name in the local file. -/
def inLocal (name : String) : ModelName := ⟨name, none⟩

/-- The name with its import path in front. -/
def display (n : ModelName) : String :=
  match n.importPath with
  | some path => path ++ "::" ++ n.name
  | none => n.name

/-- The variant for the given collision, the first being 1: the number after it is appended. -/
def numbered (n : ModelName) (attempt : Nat) : ModelName :=
  { n with name := n.name ++ toString (attempt + 1) }

end ModelName

/-- A choice of names. -/
structure NamingPolicy where
  /-- The preferred name for the declaration at a reference. -/
  name : Reference → ModelName
  /-- The variant of the preferred name for the given collision. -/
  variant : ModelName → Nat → ModelName := ModelName.numbered

/-- The schemas that belong to an operation. -/
inductive OperationPart where
  | requestBody
  | response (code : String)
  | parameter (index : Nat)
  deriving DecidableEq, Repr, Inhabited

/-- The part of a name that stands for a part of an operation. -/
def OperationPart.display : OperationPart → String
  | requestBody => "RequestBody"
  | response code => "Response" ++ Words.upperCamel code
  | parameter index => "Parameter" ++ toString index

namespace NamingPolicy

/-- The name of a schema after its last token, or after its document if it is the whole of it. -/
def localName (r : Reference) : String :=
  match r.last? with
  | some token => Identifier.sanitize token
  | none =>
    Identifier.sanitize
      (Words.upperCamel (String.ofList (Identifier.documentStem r.document.toList)))

/-- Schemas are named after their last token. -/
def component : NamingPolicy := ⟨fun r => .inLocal (localName r), ModelName.numbered⟩

/-- The name of a part of an operation. -/
def operationName (operation : String) (part : OperationPart) (suffix : String) : String :=
  Identifier.sanitize (Words.upperCamel operation) ++ part.display ++ suffix

/-- A part of an operation is named after the operation and the part. -/
def operation (operation : String) (part : OperationPart) (suffix : String) : NamingPolicy :=
  ⟨fun _ => .inLocal (operationName operation part suffix), ModelName.numbered⟩

/-- What a kind of reusable component is called in names. -/
def componentKindName (kind : String) : String :=
  if kind = "parameters" then "Parameter"
  else if kind = "requestBodies" then "RequestBody"
  else if kind = "responses" then "Response"
  else if kind = "headers" then "Header"
  else Words.upperCamel kind

/-- The name of a schema below a reusable component. -/
def sharedName (suffix : String) (r : Reference) : String :=
  match r.path with
  | _ :: kind :: component :: _ =>
    Identifier.sanitize (Words.upperCamel component) ++ componentKindName kind ++ suffix
  | _ => localName r

/-- The schema of a reusable component is named after the component and its kind. -/
def shared (suffix : String) : NamingPolicy :=
  ⟨fun r => .inLocal (sharedName suffix r), ModelName.numbered⟩

/-- Whether a reference lies in an entry of `components`. -/
def isShared (r : Reference) : Bool :=
  match r.path with
  | components :: _ :: _ :: _ => components == "components"
  | _ => false

/-- The import path of the declarations of a document. -/
def importPathOf (nameSpace document : String) : String :=
  String.ofList
    (Text.trimEnd (· = '/') nameSpace.toList ++
      '/' :: Identifier.documentNamespace document.toList)

/-- Schemas of another document are named after their last token, under the document's import
path. -/
def external (nameSpace : String) : NamingPolicy :=
  ⟨fun r => ⟨localName r, some (importPathOf nameSpace r.document)⟩, ModelName.numbered⟩

/-- The name of an operation that has no id: its method in lower case and its path, with
underscores for slashes and without braces. -/
def derivedOperationName (method path : String) : String :=
  let flat :=
    (path.toList.filter fun c => !(c.toNat = 0x7B || c.toNat = 0x7D)).map fun c =>
      if c = '/' then '_' else c
  String.ofList
    (CodePoints.lowerText method.toList ++ '_' :: Text.trimStart (· = '_') flat)

end NamingPolicy

end SchemaTypes
