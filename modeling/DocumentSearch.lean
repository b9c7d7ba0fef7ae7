import DocumentSearch.Comparison
import DocumentSearch.CompileError
import DocumentSearch.Criteria.Basic
import DocumentSearch.Criteria.Combine
import DocumentSearch.Criteria.Predicate
import DocumentSearch.Criteria.Wire
import DocumentSearch.Decimal.Binary
import DocumentSearch.Decimal.Layout
import DocumentSearch.Decimal.Reader
import DocumentSearch.Decimal.Shortest
import DocumentSearch.Document
import DocumentSearch.Expr.Basic
import DocumentSearch.Expr.Builder
import DocumentSearch.Expr.Builtin
import DocumentSearch.Expr.Eval
import DocumentSearch.Expr.Fold
import DocumentSearch.Expr.Tagged
import DocumentSearch.Expr.Text
import DocumentSearch.Json.Basic
import DocumentSearch.Json.Fields
import DocumentSearch.Json.Number
import DocumentSearch.Json.Reader
import DocumentSearch.Json.Writer
import DocumentSearch.Mapping.Basic
import DocumentSearch.Mapping.Document
import DocumentSearch.Mapping.FieldTypes
import DocumentSearch.Members
import DocumentSearch.Projection
import DocumentSearch.Proofs.Criteria.Absence
import DocumentSearch.Proofs.Criteria.Alternatives
import DocumentSearch.Proofs.Criteria.Canonical
import DocumentSearch.Proofs.Criteria.Combine
import DocumentSearch.Proofs.Criteria.Disjunction
import DocumentSearch.Proofs.Criteria.Evaluation
import DocumentSearch.Proofs.Criteria.Folding
import DocumentSearch.Proofs.Criteria.Grouping
import DocumentSearch.Proofs.Criteria.LowerCase
import DocumentSearch.Proofs.Criteria.Meaning
import DocumentSearch.Proofs.Criteria.Nesting
import DocumentSearch.Proofs.Criteria.Nodes
import DocumentSearch.Proofs.Criteria.NormalForm
import DocumentSearch.Proofs.Criteria.Nulls
import DocumentSearch.Proofs.Criteria.Pattern
import DocumentSearch.Proofs.Criteria.Predicate
import DocumentSearch.Proofs.Criteria.Spelling
import DocumentSearch.Proofs.Criteria.Wire
import DocumentSearch.Proofs.Document
import DocumentSearch.Proofs.Expr.Arithmetic
import DocumentSearch.Proofs.Expr.Eval
import DocumentSearch.Proofs.Expr.Fold
import DocumentSearch.Proofs.Expr.Nodes
import DocumentSearch.Proofs.Expr.NormalForm
import DocumentSearch.Proofs.Expr.Parts
import DocumentSearch.Proofs.Expr.Scope
import DocumentSearch.Proofs.Expr.Type
import DocumentSearch.Proofs.Json.Nodes
import DocumentSearch.Proofs.Mapping.FieldTypes
import DocumentSearch.Proofs.Mapping.Path
import DocumentSearch.Proofs.Members
import DocumentSearch.Proofs.Projection
import DocumentSearch.Proofs.Projection.Fold
import DocumentSearch.Proofs.Projection.Lookups
import DocumentSearch.Proofs.Projection.Values
import DocumentSearch.Proofs.Query
import DocumentSearch.Proofs.Query.Reserved
import DocumentSearch.Proofs.Search.Cardinality
import DocumentSearch.Proofs.Search.Results
import DocumentSearch.Proofs.Steps
import DocumentSearch.Proofs.Text.Case
import DocumentSearch.Proofs.Value.Compare
import DocumentSearch.Proofs.Value.Conformance
import DocumentSearch.Proofs.Value.Json
import DocumentSearch.Proofs.Value.LooseEquality
import DocumentSearch.Proofs.Value.Order
import DocumentSearch.Proofs.Value.RoundTrip
import DocumentSearch.Proofs.Value.Rounding
import DocumentSearch.Proofs.Value.Truncation
import DocumentSearch.Query
import DocumentSearch.Search.Request
import DocumentSearch.Search.Response
import DocumentSearch.Search.Results
import DocumentSearch.Text.Blank
import DocumentSearch.Text.Case
import DocumentSearch.Text.Case.Tables
import DocumentSearch.Text.CharClass
import DocumentSearch.Text.Escape
import DocumentSearch.Text.Naming
import DocumentSearch.Text.Quoted
import DocumentSearch.Text.Search
import DocumentSearch.Text.Structure
import DocumentSearch.Text.Unprinted
import DocumentSearch.Time.Calendar
import DocumentSearch.Time.Instant
import DocumentSearch.Time.Reader
import DocumentSearch.Value.Basic
import DocumentSearch.Value.Cast
import DocumentSearch.Value.Compare
import DocumentSearch.Value.Json
import DocumentSearch.Value.Tagged
import DocumentSearch.Value.Text
import DocumentSearch.Value.Type
