import SchemaTypes.Config.Basic
import SchemaTypes.Registry
import SchemaTypes.Store

set_option autoImplicit false

/-!
# Sessions

The state of one run of generation: the documents, the root document, the configuration, the
registry, and the current document, against which written references are read.  A `Run` is a step
of such a session: it gives a value or a fault, and a session in either case.
-/

namespace SchemaTypes

/-- The state of a run. -/
structure Session where
  /-- The id of the root document. -/
  root : String
  store : Store
  config : Config
  /-- The id of the document that written references are relative to. -/
  current : String
  registry : Registry

/-- A step of a session, which may fail. -/
abbrev Run (α : Type) := EStateM Fault Session α

namespace Session

/-- A session at a root document, which must be in the store. -/
def start (store : Store) (root : String) (config : Config) : Except Fault Session :=
  match DocumentId.canonical? root with
  | none => .error (.unknownDocument root)
  | some id =>
    if store.contains id then .ok ⟨id, store, config, id, Registry.empty⟩
    else .error (.unknownDocument root)

/-- Reads a written reference in the current document. -/
def reference (session : Session) (raw : String) : Except Fault Reference :=
  Reference.parse raw session.current

/-- The naming of references met in schemas: by document if that is not the root. -/
def defaultPolicy (session : Session) (r : Reference) : NamingPolicy :=
  if r.document = session.root then .component else .external session.config.externalNamespace

/-- How deep references can nest: every open one but the last names another node of the store. -/
def nestingBound (session : Session) : Nat := session.store.nodeCount + 1

end Session

namespace Run

/-- Changes the registry. -/
def modifyRegistry (f : Registry → Registry) : Run Unit :=
  fun session => .ok () { session with registry := f session.registry }

/-- Runs a step with another current document, and restores the document afterwards, also after a
fault. -/
def inDocument {α : Type} (document : String) (step : Run α) : Run α := fun session =>
  match step { session with current := document } with
  | .ok value after => .ok value { after with current := session.current }
  | .error fault after => .error fault { after with current := session.current }

/-- Runs a step and, after a fault, rolls the registry back to where it was before. -/
def undoOnFault {α : Type} (step : Run α) : Run α := fun session =>
  match step session with
  | .ok value after => .ok value after
  | .error fault after =>
    .error fault { after with registry := after.registry.rollback session.registry.mark }

end Run

end SchemaTypes
