import GroupedReport.Evaluation.Error
import GroupedReport.Row

/-!
# Report errors

Why a report cannot be run over some rows.
-/

namespace GroupedReport

inductive ReportError where
  | row (error : RowError)
  /-- The report is run by a grouping that its data set does not have. -/
  | unknownGroup (name : String)
  | evaluation (error : EvaluationError)

namespace ReportError

def message : ReportError → String
  | row error => error.message
  | unknownGroup name => "Unknown group '" ++ name ++ "'"
  | evaluation error => error.message

/-- What is behind an error, if its message does not say all by itself. -/
def cause? : ReportError → Option String
  | row (.value _ _ error) => some error.message
  | row (.shape index found) => some (RowError.shapeReason index found)
  | evaluation (.conversion error) => some error.message
  | unknownGroup _ | evaluation _ => none

def detailedMessage (error : ReportError) : String :=
  match error.cause? with
  | some cause => error.message ++ ": " ++ cause
  | none => error.message

def code : ReportError → Diagnostic.Code
  | row error => error.code
  | unknownGroup _ => .unknownScope
  | evaluation error => error.code

end ReportError

end GroupedReport
