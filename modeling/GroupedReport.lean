import GroupedReport.Binary64.Basic
import GroupedReport.Binary64.Order
import GroupedReport.Binary64.Shortest
import GroupedReport.Binary64.Text
import GroupedReport.Calendar.Date
import GroupedReport.Calendar.DateTime
import GroupedReport.Calendar.Text
import GroupedReport.CommandLine.Arguments
import GroupedReport.CommandLine.Command
import GroupedReport.CommandLine.Perform
import GroupedReport.CommandLine.Session
import GroupedReport.Data.DataSet
import GroupedReport.Data.Grouping
import GroupedReport.Data.Source
import GroupedReport.Decimal.Arithmetic
import GroupedReport.Decimal.Basic
import GroupedReport.Decimal.Binary64
import GroupedReport.Decimal.Text
import GroupedReport.Definition.Basic
import GroupedReport.Definition.Build
import GroupedReport.Definition.Formula
import GroupedReport.Diagnostic.Basic
import GroupedReport.Diagnostic.Code
import GroupedReport.Diagnostic.Written
import GroupedReport.Evaluation.Cache
import GroupedReport.Evaluation.Engine
import GroupedReport.Evaluation.Error
import GroupedReport.Evaluation.Run
import GroupedReport.Expression.Builder
import GroupedReport.Expression.Fold
import GroupedReport.Expression.Node
import GroupedReport.Expression.Program
import GroupedReport.Expression.Tree
import GroupedReport.Fields
import GroupedReport.Flag
import GroupedReport.Json.Basic
import GroupedReport.Json.Canonical
import GroupedReport.Json.Document
import GroupedReport.Json.Number
import GroupedReport.Json.Record
import GroupedReport.Json.Text
import GroupedReport.Json.Token
import GroupedReport.Kind
import GroupedReport.Main
import GroupedReport.Operator.Apply
import GroupedReport.Operator.Basic
import GroupedReport.Options
import GroupedReport.Proofs.Binary64.Finite
import GroupedReport.Proofs.Binary64.Identity
import GroupedReport.Proofs.Binary64.Order
import GroupedReport.Proofs.Binary64.Whole
import GroupedReport.Proofs.Calendar.Text
import GroupedReport.Proofs.Data.Calls
import GroupedReport.Proofs.Data.Classes
import GroupedReport.Proofs.Data.Declarations
import GroupedReport.Proofs.Data.Enclosure
import GroupedReport.Proofs.Data.Fields
import GroupedReport.Proofs.Data.Grouping
import GroupedReport.Proofs.Data.Lookup
import GroupedReport.Proofs.Data.Nesting
import GroupedReport.Proofs.Data.Notations
import GroupedReport.Proofs.Data.Partition
import GroupedReport.Proofs.Data.Scope
import GroupedReport.Proofs.Decimal.Exactness
import GroupedReport.Proofs.Decimal.Identity
import GroupedReport.Proofs.Decimal.Text
import GroupedReport.Proofs.Definition.Building
import GroupedReport.Proofs.Definition.Elaboration
import GroupedReport.Proofs.Definition.ReadBack
import GroupedReport.Proofs.Definition.Resolution
import GroupedReport.Proofs.Evaluation.Agreement
import GroupedReport.Proofs.Evaluation.Cache
import GroupedReport.Proofs.Evaluation.Comparison
import GroupedReport.Proofs.Evaluation.Crossing
import GroupedReport.Proofs.Evaluation.Deviation
import GroupedReport.Proofs.Evaluation.Ensures
import GroupedReport.Proofs.Evaluation.Failures
import GroupedReport.Proofs.Evaluation.Folding
import GroupedReport.Proofs.Evaluation.Greatest
import GroupedReport.Proofs.Evaluation.Growth
import GroupedReport.Proofs.Evaluation.Identities
import GroupedReport.Proofs.Evaluation.Integers
import GroupedReport.Proofs.Evaluation.Kinds
import GroupedReport.Proofs.Evaluation.Meaning
import GroupedReport.Proofs.Evaluation.Memoization
import GroupedReport.Proofs.Evaluation.MissingCells
import GroupedReport.Proofs.Evaluation.Nested
import GroupedReport.Proofs.Evaluation.Origins
import GroupedReport.Proofs.Evaluation.Outcome
import GroupedReport.Proofs.Evaluation.Reached
import GroupedReport.Proofs.Evaluation.Resemblance
import GroupedReport.Proofs.Evaluation.Sharing
import GroupedReport.Proofs.Evaluation.Visits
import GroupedReport.Proofs.Expression.Aggregates
import GroupedReport.Proofs.Expression.Arena
import GroupedReport.Proofs.Expression.Building
import GroupedReport.Proofs.Expression.Calls
import GroupedReport.Proofs.Expression.Findings
import GroupedReport.Proofs.Expression.Folding
import GroupedReport.Proofs.Expression.Normal
import GroupedReport.Proofs.Expression.Passes
import GroupedReport.Proofs.Expression.Placing
import GroupedReport.Proofs.Expression.Preorder
import GroupedReport.Proofs.Expression.Recursion
import GroupedReport.Proofs.Expression.References
import GroupedReport.Proofs.Expression.Roots
import GroupedReport.Proofs.Expression.Shape
import GroupedReport.Proofs.Expression.Walk
import GroupedReport.Proofs.Json.Canonical
import GroupedReport.Proofs.Json.Finite
import GroupedReport.Proofs.Json.Record
import GroupedReport.Proofs.Operator.Comparison
import GroupedReport.Proofs.Operator.Identity
import GroupedReport.Proofs.Operator.Kind
import GroupedReport.Proofs.Operator.Order
import GroupedReport.Proofs.Operator.Side
import GroupedReport.Proofs.Report.Building
import GroupedReport.Proofs.Report.Caching
import GroupedReport.Proofs.Report.Cells
import GroupedReport.Proofs.Report.Emission
import GroupedReport.Proofs.Report.Evaluations
import GroupedReport.Proofs.Report.Failures
import GroupedReport.Proofs.Report.Following
import GroupedReport.Proofs.Report.Layout
import GroupedReport.Proofs.Report.Loading
import GroupedReport.Proofs.Report.Reference
import GroupedReport.Proofs.Report.Values
import GroupedReport.Proofs.Result
import GroupedReport.Proofs.Text.Digits
import GroupedReport.Proofs.Text.LetterCase
import GroupedReport.Proofs.Value.Integers
import GroupedReport.Proofs.Value.Json
import GroupedReport.Proofs.Value.Narrowing
import GroupedReport.Proofs.Value.Order
import GroupedReport.Proofs.Value.Same
import GroupedReport.Report.Basic
import GroupedReport.Report.Column
import GroupedReport.Report.Error
import GroupedReport.Report.Format
import GroupedReport.Report.Output
import GroupedReport.Report.Run
import GroupedReport.Rounding
import GroupedReport.Row
import GroupedReport.Scope
import GroupedReport.Text.Blank
import GroupedReport.Text.Digits
import GroupedReport.Text.DisplayWidth
import GroupedReport.Text.DisplayWidthTables
import GroupedReport.Text.LetterCase
import GroupedReport.Text.LetterCaseTables
import GroupedReport.Text.Style
import GroupedReport.Text.Table
import GroupedReport.Value.Basic
import GroupedReport.Value.Coercion
import GroupedReport.Value.Json
import GroupedReport.Value.Tagged
