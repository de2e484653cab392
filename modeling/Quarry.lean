import Quarry.PredicateTree.Encoding
import Quarry.Record.Encoding
import Quarry.Index.Encoding
import Quarry.Session
import Quarry.Proofs.Index.Content
import Quarry.Proofs.Store.Reachable
import Quarry.Proofs.Evaluation.Branches
import Quarry.Proofs.Scan.Splitting
import Quarry.Proofs.Index.NumberOrder
import Quarry.Proofs.Index.Agreement
import Quarry.Proofs.Scan.Walking
import Quarry.Proofs.Index.Lookup
import Quarry.Proofs.Scan.Pushing
import Quarry.Proofs.Scan.Transparency
import Quarry.Proofs.Scan.Driving
import Quarry.Proofs.Text.ByteOrder
import Quarry.Proofs.Store.Plain
import Quarry.Proofs.Session.Run
import Quarry.Proofs.Session.Refinement
import Quarry.Proofs.Session.Isolation
import Quarry.Proofs.Session.OpenCursors
import Quarry.Proofs.Json.Literals
import Quarry.Proofs.Json.Access
import Quarry.Proofs.Value.Encoding
import Quarry.Proofs.Documents
import Quarry.Proofs.PredicateTree.Encoding
import Quarry.Proofs.Store.Atomicity
import Quarry.Proofs.Scan.Answering
import Quarry.Proofs.Index.ExactOrder
import Quarry.Proofs.Store.Querying
import Quarry.Proofs.Scan.Choosing
import Quarry.Proofs.Scan.Shadowing
import Quarry.Proofs.PredicateTree.Combining
import Quarry.Proofs.PredicateTree.NormalForm
import Quarry.Proofs.Outcome
import Quarry.Proofs.Predicate.WellFormed
import Quarry.Proofs.Evaluation.Comparing
import Quarry.Proofs.Evaluation.Rules
import Quarry.Proofs.Evaluation.Faults
import Quarry.Proofs.Evaluation.Reordering
import Quarry.Proofs.Evaluation.Trichotomy
import Quarry.Proofs.Evaluation.Spellings
import Quarry.Proofs.Evaluation.Literal
import Quarry.Proofs.Text.Lowercasing
import Quarry.Proofs.Evaluation.IgnoringCase
import Quarry.Proofs.Evaluation.Metadata
import Quarry.Proofs.Predicate.Construction
import Quarry.Proofs.Scan.Admission
import Quarry.Proofs.Scan.Hinting
import Quarry.Proofs.Geometry.Document
import Quarry.Proofs.Record.Segments
import Quarry.Proofs.Record.Locations
