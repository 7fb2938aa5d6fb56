import RowAccess.Access.Run
import RowAccess.Scope.Stack
import RowAccess.Registry
import RowAccess.Restriction
import RowAccess.Predicate.Held
import RowAccess.Stored
import RowAccess.Config
import RowAccess.Data.Json
import RowAccess.Data.Shape
import RowAccess.Data.Toml.Document
import RowAccess.Pattern.Matcher
import RowAccess.Value
import RowAccess.Token
import RowAccess.Calendar.Reader
import RowAccess.Uuid
import RowAccess.Number.Whole
import RowAccess.Number.Binary64
import RowAccess.Number.Decimal
import RowAccess.Pattern.Regex.Size
import RowAccess.Pattern.Regex.Search
import RowAccess.Pattern.Regex.Reader
import RowAccess.Pattern.Regex.Syntax
import RowAccess.Text.Blank
import RowAccess.Unicode.Class
import RowAccess.Proofs.Registry.Fingerprint
import RowAccess.Proofs.Registry.Fresh
import RowAccess.Proofs.Registry.Lookup
import RowAccess.Proofs.Registry.OwnSlot
import RowAccess.Proofs.Registry.Coherence
import RowAccess.Proofs.Registry.Traversal
import RowAccess.Proofs.Scope.Change
import RowAccess.Proofs.Scope.Tree
import RowAccess.Proofs.Scope.Current
import RowAccess.Proofs.Access.Step
import RowAccess.Proofs.Access.CurrentScope
import RowAccess.Proofs.Scope.Version
import RowAccess.Proofs.Source.Version
import RowAccess.Proofs.Access.Evolution
import RowAccess.Proofs.Access.Transparency
import RowAccess.Proofs.Predicate.Held
import RowAccess.Proofs.Registry.Chain
import RowAccess.Proofs.Access.Admission
import RowAccess.Proofs.Registry.Frame
import RowAccess.Proofs.Registry.Bound
import RowAccess.Proofs.Scope.Sight
import RowAccess.Proofs.Scope.SightStep
import RowAccess.Proofs.Access.Turn
import RowAccess.Proofs.Access.Sight
import RowAccess.Proofs.Access.OwnStep
import RowAccess.Proofs.Access.Hearing
import RowAccess.Proofs.Access.Isolation
import RowAccess.Proofs.Access.Grant
import RowAccess.Proofs.Access.Version
import RowAccess.Proofs.Scope.Through
import RowAccess.Proofs.Access.Return
import RowAccess.Proofs.Registry.Consultation
import RowAccess.Proofs.Registry.InclusiveSlot
import RowAccess.Proofs.Registry.Course
import RowAccess.Proofs.Registry.Renewal
import RowAccess.Proofs.Registry.Acyclic
import RowAccess.Proofs.Registry.Ready
import RowAccess.Proofs.Registry.Since
import RowAccess.Proofs.Access.Consulted
import RowAccess.Proofs.Access.SameObject
import RowAccess.Proofs.Access.Monotone
import RowAccess.Proofs.Predicate.Denial
import RowAccess.Proofs.Access.Bookkeeping
import RowAccess.Proofs.Access.Permission
import RowAccess.Proofs.Token
import RowAccess.Proofs.Predicate.Meaning
import RowAccess.Proofs.Registry.Visit
import RowAccess.Proofs.Access.Termination
import RowAccess.Proofs.Scope.Clearance
import RowAccess.Proofs.Access.Clearance
import RowAccess.Proofs.Scope.Insertion
import RowAccess.Proofs.Access.Insertion
import RowAccess.Proofs.Predicate.Coercion
import RowAccess.Proofs.Registry.Mapping
import RowAccess.Proofs.Registry.Fault
import RowAccess.Proofs.Access.Mapping
import RowAccess.Proofs.Access.Refusal
import RowAccess.Proofs.Registry.Distinct
import RowAccess.Proofs.NameMap
import RowAccess.Proofs.Config
import RowAccess.Proofs.Scope.Configuration
import RowAccess.Proofs.Access.Configuration
import RowAccess.Proofs.Access.Overlay
import RowAccess.Proofs.Registry.Replay
import RowAccess.Proofs.Access.Reload
import RowAccess.Proofs.Registry.Succession
import RowAccess.Proofs.Access.Failure
import RowAccess.Proofs.Scope.Revision
import RowAccess.Proofs.Access.Revision
import RowAccess.Proofs.Row
import RowAccess.Proofs.Predicate.Definite
import RowAccess.Proofs.Token.Display
import RowAccess.Proofs.Calendar.Formats
import RowAccess.Proofs.Value.Display
import RowAccess.Proofs.Predicate.Display
import RowAccess.Proofs.Token.Entry
import RowAccess.Proofs.Registry.Way
import RowAccess.Proofs.Registry.Whole
import RowAccess.Proofs.Access.Completeness
