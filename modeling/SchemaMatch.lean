import SchemaMatch.Derive.Capability
import SchemaMatch.Derive.Schema
import SchemaMatch.Expr.Json
import SchemaMatch.Pattern.Cache
import SchemaMatch.Pattern.Inspect
import SchemaMatch.Proofs.Compilation.Slots
import SchemaMatch.Proofs.Syntax.Tail.Escape
import SchemaMatch.Proofs.Regex.Start
import SchemaMatch.Record.View
import SchemaMatch.Proofs.Syntax.Tail.Bracket
import SchemaMatch.Proofs.Syntax.Tail.Repetition
import SchemaMatch.Proofs.Syntax.Tail.Group
import SchemaMatch.Proofs.Syntax.Groups
import SchemaMatch.Proofs.Syntax.Tail.Reader
import SchemaMatch.Proofs.Expr.SelfContained
import SchemaMatch.Proofs.Expr.Composed
import SchemaMatch.Proofs.Regex.Meaning
import SchemaMatch.Proofs.Regex.Frame
import SchemaMatch.Proofs.Regex.Reduced
import SchemaMatch.Proofs.Expr.Meaning
import SchemaMatch.Proofs.Compilation.Composition
import SchemaMatch.Proofs.Pattern.Build
import SchemaMatch.Proofs.Pattern.Semantics
import SchemaMatch.Proofs.Compilation.Fit
import SchemaMatch.Proofs.Pattern.Fit
import SchemaMatch.Proofs.Fragment
import SchemaMatch.Proofs.Pattern.Process
import SchemaMatch.Proofs.Pattern.Writing
import SchemaMatch.Union.Shared
import SchemaMatch.Proofs.Compilation.Fault
import SchemaMatch.Proofs.Union.Run
import SchemaMatch.Proofs.Compilation.Outcome
import SchemaMatch.Proofs.Record.Visit
import SchemaMatch.Proofs.Record.Failure
import SchemaMatch.Proofs.Regex.Successive
import SchemaMatch.Proofs.Pattern.Agreement
import SchemaMatch.Proofs.Compilation.Inversion
import SchemaMatch.Proofs.Compilation.Uniqueness
import SchemaMatch.Proofs.Compilation.Dependence
import SchemaMatch.Proofs.Compilation.Offset
import SchemaMatch.Proofs.Json.Nesting
import SchemaMatch.Proofs.Expr.RoundTrip
import SchemaMatch.Proofs.Compilation.Twins
import SchemaMatch.Proofs.Record.Restriction
import SchemaMatch.Proofs.Record.Twins
import SchemaMatch.Proofs.Compilation.Revision
import SchemaMatch.Proofs.Pattern.Revision
import SchemaMatch.Proofs.Compilation.Recursion
import SchemaMatch.Proofs.Compilation.Coverage
import SchemaMatch.Proofs.Compilation.Reordering
import SchemaMatch.Proofs.Pattern.Reordering
import SchemaMatch.Proofs.Stencil.Outline
import SchemaMatch.Proofs.Stencil.Printing
import SchemaMatch.Proofs.Derive.Schema
import SchemaMatch.Proofs.Derive.Attribute
import SchemaMatch.Proofs.Syntax.Uncaptured
