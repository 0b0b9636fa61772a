import SchemaTypes.Config.Json
import SchemaTypes.Config.Reading
import SchemaTypes.Dump
import SchemaTypes.Generate
import SchemaTypes.Json.Writer
import SchemaTypes.Proofs.OrderedMap
import SchemaTypes.Proofs.Run
import SchemaTypes.Proofs.Schema.Elaboration
import SchemaTypes.Proofs.Schema.Questions
import SchemaTypes.Proofs.Store.Places
import SchemaTypes.Proofs.Registry.Answers
import SchemaTypes.Proofs.Registry.Pending
import SchemaTypes.Proofs.Registry.Growth
import SchemaTypes.Proofs.Resolve.Growth
import SchemaTypes.Proofs.Session.Requests
import SchemaTypes.Proofs.Session.Undo
import SchemaTypes.Proofs.Session.Names
import SchemaTypes.Proofs.Reference
import SchemaTypes.Proofs.TypeExpr.Occurrences
import SchemaTypes.Proofs.Resolve.Coherence
import SchemaTypes.Proofs.Registry.Names
import SchemaTypes.Proofs.Resolve.Identifiers
import SchemaTypes.Proofs.Registry.Order
import SchemaTypes.Proofs.Resolve.Order
import SchemaTypes.Proofs.Resolve.Nesting
import SchemaTypes.Proofs.Session.Agreement
import SchemaTypes.Proofs.Resolve.Productive
import SchemaTypes.Proofs.Session.Stability
import SchemaTypes.Proofs.Registry.Memory
import SchemaTypes.Proofs.Schema.Parsing
import SchemaTypes.Proofs.Resolve.Bookkeeping
import SchemaTypes.Proofs.Resolve.Trace
import SchemaTypes.Proofs.Session.Documents
import SchemaTypes.Proofs.Session.Enlargement
import SchemaTypes.Proofs.TypeExpr.Embedded
import SchemaTypes.Proofs.TypeExpr.Equality
import SchemaTypes.Proofs.TypeExpr.Normal
import SchemaTypes.Proofs.TypeExpr.Algebra
import SchemaTypes.Proofs.Resolve.Filing
import SchemaTypes.Proofs.Enumeration
import SchemaTypes.Proofs.Operation.Tasks
import SchemaTypes.Proofs.Session.Generation
import SchemaTypes.Proofs.Resolve.Recall
import SchemaTypes.Proofs.Schema.Hollow
import SchemaTypes.Proofs.Resolve.Founded
import SchemaTypes.Proofs.Resolve.Failures
import SchemaTypes.Proofs.Session.Failures
import SchemaTypes.Proofs.Session.Helpers
import SchemaTypes.Proofs.Resolve.Dates
import SchemaTypes.Proofs.Store.Keys
import SchemaTypes.Proofs.Schema.Keywords
import SchemaTypes.Proofs.Schema.Alike
import SchemaTypes.Proofs.Schema.Spellings
import SchemaTypes.Proofs.Session.Spellings
import SchemaTypes.Proofs.Operation.Chains
import SchemaTypes.Proofs.Operation.Parameters
import SchemaTypes.Proofs.TypeExpr.Members
import SchemaTypes.Proofs.Schema.Listed
import SchemaTypes.Proofs.Session.Listed
import SchemaTypes.Proofs.Schema.Calls
import SchemaTypes.Proofs.Store.Distinct
import SchemaTypes.Proofs.Store.Calls
import SchemaTypes.Proofs.Resolve.Blame
import SchemaTypes.Proofs.Session.Blame
import SchemaTypes.Proofs.Registry.FreeNames
import SchemaTypes.Proofs.DocumentId.Directory
import SchemaTypes.Proofs.Naming.Identifiers
import SchemaTypes.Proofs.Operation.Media
import SchemaTypes.Proofs.Naming.Namespaces
import SchemaTypes.Proofs.Store.Addresses
import SchemaTypes.Proofs.Store.Registration
import SchemaTypes.Proofs.Session.Written
import SchemaTypes.Proofs.Session.Locations
