import GroupedReport.Data.DataSet
import GroupedReport.Report.Column
import GroupedReport.Report.Error

/-!
# Reports

A report is a definition whose names are resolved and whose expressions are built. Making one
never fails; what is wrong with the definition is in the log of the report.
-/

namespace GroupedReport

open Expression

/-- A report that is ready to be run. -/
structure Report where
  name : String
  dataSetName : String
  fields : Fields
  groupings : List (String × List Nat)
  group : Option String
  columns : List Column
  rows : List Json
  engine : Engine
  log : Diagnostic.Log

namespace Report

/-- The columns that the fields of a grouping stand for. A name that means nothing is reported
and left out. -/
def groupingColumns (fields : Fields) (grouping : String) :
    List String → List Nat × Diagnostic.Log
  | [] => ([], [])
  | name :: rest =>
      let (columns, log) := groupingColumns fields grouping rest
      match fields.get? name with
      | some field => (field.column :: columns, log)
      | none =>
          (columns, .error .unknownField
            ("Grouping " ++ grouping ++ " uses unknown field '" ++ name ++ "'.") :: log)

def resolveGroupings (fields : Fields) :
    List Definition.Grouping → List (String × List Nat) × Diagnostic.Log
  | [] => ([], [])
  | grouping :: rest =>
      let (columns, log) := groupingColumns fields grouping.name grouping.fields
      let (groupings, restLog) := resolveGroupings fields rest
      ((grouping.name, columns) :: groupings, log ++ restLog)

def isGrouping (groupings : List (String × List Nat)) (name : String) : Bool :=
  groupings.any fun grouping => Text.sameIgnoringCase grouping.1 name

def groupLog (groupings : List (String × List Nat)) : Option String → Diagnostic.Log
  | none => []
  | some name =>
      if isGrouping groupings name then []
      else [.error .unknownScope ("Report groups by unknown grouping '" ++ name ++ "'.")]

def buildColumns (fields : Fields) (foldConstants : Bool)
    (definitions : List Definition.Column) : Build (List Column) := do
  let columns ← Column.buildFrom fields 0 definitions
  if foldConstants then columns.mapM Column.fold else return columns

def ofDefinition (options : Options) (definition : Definition.Report) : Report :=
  let (fields, fieldLog) := Fields.load (definition.dataSet.fields.map Subtype.val)
  let (groupings, groupingLog) := resolveGroupings fields definition.dataSet.groupings
  let (columns, builder) :=
    (buildColumns fields options.foldConstants definition.columns).run {}
  { name := definition.name
    dataSetName := definition.dataSet.name
    fields
    groupings
    group := definition.group
    columns
    rows := definition.rows.map Subtype.val
    engine := { program := .ofBuilder 0 builder, options }
    log := fieldLog ++ groupingLog ++ groupLog groupings definition.group ++ builder.log }

def roots (report : Report) : List NodeId :=
  report.columns.flatMap Column.roots

def emptyDataSet (report : Report) : DataSet :=
  report.groupings.foldl (fun dataSet grouping => dataSet.groupBy grouping.1 grouping.2)
    { name := report.dataSetName, columns := report.fields.columns }

def dataSet (report : Report) (data : List Json) : Except ReportError DataSet := do
  let rows ← (Row.load report.fields data).mapError ReportError.row
  (report.emptyDataSet.pushRows rows).mapError ReportError.evaluation

end Report

end GroupedReport
