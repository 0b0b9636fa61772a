set_option autoImplicit false

/-!
# Faults

Every way in which reading, storing or resolving schema documents can fail, one constructor per
cause.  The wording of a fault is made in one place, `Fault.message`.
-/

namespace SchemaTypes

/-- Why an operation on schema documents failed. -/
inductive Fault where
  /-- A reference names a document that is not in the store. -/
  | unknownDocument (document : String)
  /-- A path does not exist inside a document that is in the store. -/
  | unresolvedReference (reference : String)
  /-- A schema node that no rule can read; `location` is the canonical form of where it stands. -/
  | malformedSchema (location reason : String)
  /-- A document id that is registered already. -/
  | duplicateDocument (document : String)
  /-- No variant of a declaration's name was free. -/
  | namingConflict (conflict : String)
  /-- Any other failure, already put into words. -/
  | general (reason : String)
  /-- The bound on nested references was reached.  The bound that the library itself sets lies
  above the number of references that can be open at once. -/
  | nestingExhausted
  deriving DecidableEq, Repr, Inhabited

namespace Fault

/-- The text shown for a fault. -/
def message : Fault → String
  | unknownDocument document => "Unknown document: " ++ document
  | unresolvedReference reference => "Unresolved reference: " ++ reference
  | malformedSchema location reason => "Malformed schema at " ++ location ++ ": " ++ reason
  | duplicateDocument document => "Document already registered: " ++ document
  | namingConflict conflict => "Naming conflict: " ++ conflict
  | general reason => "General Error: " ++ reason
  | nestingExhausted => "General Error: references nested too deeply"

end Fault

end SchemaTypes
