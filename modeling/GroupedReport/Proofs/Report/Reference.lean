import GroupedReport.Report.Run

/-!
# Reports without a cache

The same report, with every expression evaluated in a run of its own. Nothing that one evaluation
keeps can be seen by another, so this says what the groups of a report are apart from all caching.
-/

namespace GroupedReport

/-- What an evaluation gives in a run in which nothing was kept before. -/
def Evaluate.alone (data : DataSource) (action : Evaluate α) : Except EvaluationError α :=
  (action.run (.start data)).1

/-- The position of a column as it is shown; one that is not a number is shown as zero. -/
def Column.shown (position : Float) : Float :=
  if position.isNaN then Binary64.zero false else position

namespace Engine

def placeAlone (engine : Engine) (data : DataSource) (row? : Option RowId) (position : Float) :
    List Column → Except EvaluationError (List (Column × Float))
  | [] => return []
  | column :: rest => do
      if ← (column.isHidden engine row?).alone data then
        placeAlone engine data row? position rest
      else
        let others ← placeAlone engine data row? (position + column.width) rest
        return (column, position) :: others

def cellsAlone (engine : Engine) (data : DataSource) (row : RowId) (cells : Cells) :
    List Column → Except EvaluationError Cells
  | [] => return cells
  | column :: rest => do
      let value ← (engine.evaluate column.value (some row)).alone data
      cellsAlone engine data row (cells.put column.name value.toJson) rest

def footerAlone (engine : Engine) (data : DataSource) (row? : Option RowId) (cells : Cells) :
    List Column → Except EvaluationError Cells
  | [] => return cells
  | column :: rest =>
      match column.footer with
      | none => footerAlone engine data row? cells rest
      | some id => do
          let value ← (engine.evaluate id row?).alone data
          footerAlone engine data row? (cells.put column.name value.toJson) rest

def groupAlone (engine : Engine) (data : DataSource) (columns : List Column)
    (rows : List RowId) : Except EvaluationError GroupOutput := do
  let placed ← engine.placeAlone data rows.head? (Binary64.zero false) columns
  let visible := placed.map Prod.fst
  let cells ← rows.mapM fun row => engine.cellsAlone data row [] visible
  let footer ← engine.footerAlone data rows.head? [] visible
  return {
    columns := placed.map fun entry => ⟨entry.1.name, Column.shown entry.2⟩
    rows := cells
    footer }

end Engine

/-- The tables of all groups of a report, with every expression evaluated by an engine in a run of
its own. -/
def Report.runAlone (report : Report) (engine : Engine) (data : List Json) :
    Except ReportError (List GroupOutput) := do
  let dataSet ← report.dataSet data
  let groups ← report.groups dataSet
  (groups.mapM (engine.groupAlone dataSet.source report.columns)).mapError ReportError.evaluation

end GroupedReport
