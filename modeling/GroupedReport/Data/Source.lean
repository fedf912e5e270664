import GroupedReport.Evaluation.Error

/-!
# Data sources

Evaluation asks two things of its data: which rows a scope covers, and what value a column has in
a row.
-/

namespace GroupedReport

abbrev RowId := Nat

/-- The rows that a scope covers as seen from a row. The value of an aggregate may be kept if the
extent is the same wherever it is looked at from. -/
structure Extent where
  rows : List RowId
  cacheable : Bool
deriving DecidableEq, Repr

/-- What evaluation needs of its data. A scope may have no extent where it is looked at from. -/
structure DataSource where
  extent? : Scope → Option RowId → Option Extent
  value : RowId → Nat → Except EvaluationError Value

namespace DataSource

def empty : DataSource where
  extent? _ _ := none
  value _ column := .error (.fieldNotFound column)

instance : Inhabited DataSource := ⟨empty⟩

end DataSource

end GroupedReport
