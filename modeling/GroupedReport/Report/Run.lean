import GroupedReport.Report.Basic
import GroupedReport.Report.Output

/-!
# Running reports

A report is run over the groups of a grouping one after the other, or over all rows at once. The
values of aggregates are kept as long as the rows stay in one group of the run and in one
innermost group; whenever that changes they are dropped.
-/

namespace GroupedReport

open Expression

/-- Where a run is: the number of its group, and the index of the innermost group of the row. -/
structure Position where
  group : Nat
  innermost : Option Nat
deriving DecidableEq, Repr

structure Progress where
  run : Run
  position? : Option Position := none

abbrev Step := StateT Progress (Except EvaluationError)

namespace Step

def evaluate (action : Evaluate α) : Step α := fun progress =>
  match action.run progress.run with
  | (.ok value, run) => .ok (value, { progress with run })
  | (.error error, _) => .error error

/-- Move to a row of a group. The boundary is crossed if that is elsewhere. -/
def enter (dataSet : DataSet) (boundary : Boundary) (group : Nat) (row? : Option RowId) :
    Step Unit :=
  modify fun progress =>
    let position : Position := ⟨group, row?.bind dataSet.innermostIndex?⟩
    let elsewhere := progress.position?.any fun current => current != position
    { run := if elsewhere then progress.run.cross boundary else progress.run
      position? := some position }

end Step

namespace Report

/-- Lay out the columns from a position on; the visible ones store their positions and are
given. -/
def layOut (report : Report) (row? : Option RowId) (position : Float) :
    List Column → Step (List Column)
  | [] => return []
  | column :: rest => do
      if ← Step.evaluate (column.isHidden report.engine row?) then
        layOut report row? position rest
      else
        modify fun progress =>
          { progress with run := column.setPosition position progress.run }
        let visible ← layOut report row? (position + column.width) rest
        return column :: visible

def rowCells (report : Report) (row : RowId) (cells : Cells) : List Column → Step Cells
  | [] => return cells
  | column :: rest => do
      let value ← Step.evaluate (report.engine.evaluate column.value (some row))
      rowCells report row (cells.put column.name value.toJson) rest

def footerCells (report : Report) (row? : Option RowId) (cells : Cells) :
    List Column → Step Cells
  | [] => return cells
  | column :: rest =>
      match column.footer with
      | none => footerCells report row? cells rest
      | some id => do
          let value ← Step.evaluate (report.engine.evaluate id row?)
          footerCells report row? (cells.put column.name value.toJson) rest

def rowsCells (report : Report) (enter : RowId → Step Unit) (visible : List Column) :
    List RowId → Step (List Cells)
  | [] => return []
  | row :: rest => do
      enter row
      let cells ← rowCells report row [] visible
      let others ← rowsCells report enter visible rest
      return cells :: others

/-- Run one group. Layout and footer are seen from its first row. -/
def runGroup (report : Report) (dataSet : DataSet) (boundary : Boundary) (group : Nat)
    (rows : List RowId) : Step GroupOutput := do
  let first := rows.head?
  Step.enter dataSet boundary group first
  let visible ← layOut report first (Binary64.zero false) report.columns
  let run := (← get).run
  let columns := visible.map fun column => ⟨column.name, column.position run⟩
  let cells ← rowsCells report (fun row => Step.enter dataSet boundary group (some row))
    visible rows
  Step.enter dataSet boundary group first
  let footer ← footerCells report first [] visible
  return { columns, rows := cells, footer }

def runGroups (report : Report) (dataSet : DataSet) (boundary : Boundary) (group : Nat) :
    List (List RowId) → Step (List GroupOutput)
  | [] => return []
  | rows :: rest => do
      let output ← runGroup report dataSet boundary group rows
      let others ← runGroups report dataSet boundary (group + 1) rest
      return output :: others

def groups (report : Report) (dataSet : DataSet) : Except ReportError (List (List RowId)) :=
  match report.group with
  | none => .ok [dataSet.allRows]
  | some name =>
      match dataSet.groupRows? name with
      | some groups => .ok groups
      | none => .error (.unknownGroup name)

/-- The aggregates whose values are dropped between groups: all of the report. -/
def boundary (report : Report) : Boundary :=
  .ofRoots (report.group.getD report.dataSetName) report.engine.program report.roots

def runOver (report : Report) (dataSet : DataSet) : Except ReportError ReportOutput := do
  let groups ← report.groups dataSet
  match runGroups report dataSet report.boundary 0 groups ⟨.start dataSet.source, none⟩ with
  | .error error => .error (.evaluation error)
  | .ok (outputs, progress) =>
      .ok { name := report.name, groups := outputs, stats := progress.run.cache.stats }

def run (report : Report) (data : List Json) : Except ReportError ReportOutput := do
  report.runOver (← report.dataSet data)

end Report

end GroupedReport
