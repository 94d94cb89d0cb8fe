import RowQuery.Json.Reader
import RowQuery.Json.Writer
import RowQuery.Text.Base64
import RowQuery.Text.Casing
import RowQuery.Text.Character
import RowQuery.Text.Integer
import RowQuery.Text.Pattern
import RowQuery.Filter.Size
import RowQuery.Sql.Text
import RowQuery.Comparison.Test
import RowQuery.Comparison.Truth
import RowQuery.Registry
import RowQuery.Scoped.Condition
import RowQuery.Scoped.Joins
import RowQuery.Scoped.Truth
import RowQuery.Paging.Plan
import RowQuery.Aggregate.Compute
import RowQuery.Aggregate.Response
import RowQuery.Service
import RowQuery.Toml.Text
import RowQuery.Toml.Number
import RowQuery.Toml.Table
import RowQuery.Toml.Reader
import RowQuery.Catalog.Document
import RowQuery.Command
import RowQuery.Program.Basic
import RowQuery.Fixture.Uuid
import RowQuery.Fixture.Rows
import RowQuery.Fixture.Assertion
import RowQuery.Main
import RowQuery.Proofs.Filter.Judgement
import RowQuery.Proofs.Filter.Structure
import RowQuery.Proofs.Comparison.ThreeValued
import RowQuery.Proofs.Filter.Agreement
import RowQuery.Proofs.Filter.Combination
import RowQuery.Proofs.Json.RoundTrip
import RowQuery.Proofs.Paging.Cursor
import RowQuery.Proofs.Paging.Keyset
import RowQuery.Proofs.Paging.Walk
import RowQuery.Proofs.Paging.Windows
import RowQuery.Proofs.Paging.CursorText
import RowQuery.Proofs.Joins.Selection
import RowQuery.Proofs.Paging.Merging
import RowQuery.Proofs.Store
import RowQuery.Proofs.Outline.Compiler
import RowQuery.Proofs.Sql.Binding
import RowQuery.Proofs.Sql.Precedence
import RowQuery.Proofs.Paging.Positions
import RowQuery.Proofs.Registry.Log
import RowQuery.Proofs.Aggregate.Partition
import RowQuery.Proofs.Paging.Resumption
import RowQuery.Proofs.Aggregate.Responses
import RowQuery.Proofs.Joins.Scoping
import RowQuery.Proofs.Filter.Reread
import RowQuery.Proofs.Comparison.Patterns
import RowQuery.Proofs.Aggregate.Sums
import RowQuery.Proofs.SortOrder.Preorder
import RowQuery.Proofs.Sql.Summaries
import RowQuery.Proofs.Handler.PathEq
import RowQuery.Proofs.Handler.MultipleOf
import RowQuery.Proofs.Paging.Arguments
import RowQuery.Proofs.Joins.Targets
import RowQuery.Proofs.Paging.Bounds
import RowQuery.Proofs.Config
import RowQuery.Proofs.Filter.Depth
import RowQuery.Proofs.Filter.ValueForms
import RowQuery.Proofs.Handler.DecimalMultiple
import RowQuery.Proofs.Handler.PathSegments
