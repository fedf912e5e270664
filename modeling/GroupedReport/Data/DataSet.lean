import GroupedReport.Data.Grouping
import GroupedReport.Text.LetterCase

/-!
# Data sets

A data set holds rows under named columns, and groupings of these rows. Each grouping is nested
inside of those declared before it. Names are found whatever the case of their ASCII letters.
-/

namespace GroupedReport

structure DataSet where
  name : String
  columns : List String
  rows : List (List Value) := []
  groupings : List (String × Grouping) := []

namespace DataSet

def column? (dataSet : DataSet) (name : String) : Option Nat :=
  dataSet.columns.findIdx? (Text.sameIgnoringCase · name)

def grouping? (dataSet : DataSet) (name : String) : Option Grouping :=
  (dataSet.groupings.find? fun entry => Text.sameIgnoringCase entry.1 name).map Prod.snd

def innermost? (dataSet : DataSet) : Option Grouping :=
  dataSet.groupings.getLast?.map Prod.snd

def groupNames (dataSet : DataSet) : List String :=
  dataSet.groupings.map Prod.fst

def groupRows? (dataSet : DataSet) (name : String) : Option (List (List RowId)) :=
  (dataSet.grouping? name).map fun grouping => grouping.groups.map Group.rows

def innermostIndex? (dataSet : DataSet) (row : RowId) : Option Nat :=
  dataSet.innermost?.bind fun grouping => grouping.groupIndex? row

def allRows (dataSet : DataSet) : List RowId :=
  List.range dataSet.rows.length

/-- Put a row behind the others, assign it in every grouping and give its number. Values may be
missing at its end, but where there are more than columns the data set stays as it is. -/
def push (dataSet : DataSet) (values : List Value) : Except EvaluationError RowId × DataSet :=
  if dataSet.columns.length < values.length then
    (.error (.rowTooLong values.length dataSet.name dataSet.columns.length), dataSet)
  else
    let row := dataSet.rows.length
    (.ok row,
      { dataSet with
        rows := dataSet.rows ++ [values]
        groupings := dataSet.groupings.map fun (name, grouping) =>
          (name, grouping.assign row values) })

def pushRow (dataSet : DataSet) (values : List Value) : Except EvaluationError DataSet :=
  let (result, after) := dataSet.push values
  result.map fun _ => after

def pushRows (dataSet : DataSet) : List (List Value) → Except EvaluationError DataSet
  | [] => .ok dataSet
  | values :: rest => do
      let dataSet ← dataSet.pushRow values
      dataSet.pushRows rest

/-- Put a grouping behind the others, or in the place of one with the same name. -/
def putGrouping (name : String) (grouping : Grouping) :
    List (String × Grouping) → List (String × Grouping)
  | [] => [(name, grouping)]
  | (other, old) :: rest =>
      if other = name then (name, grouping) :: rest
      else (other, old) :: putGrouping name grouping rest

/-- Group the rows by columns, inside of the groups that there are. -/
def groupBy (dataSet : DataSet) (name : String) (columns : List Nat) : DataSet :=
  let enclosing := (dataSet.innermost?.map Grouping.columns).getD []
  let grouping : Grouping := { columns := enclosing ++ columns }
  { dataSet with
    groupings := putGrouping name (grouping.assignFrom 0 dataSet.rows) dataSet.groupings }

/-! ## As a source of data -/

def rowsOf? (dataSet : DataSet) (name : String) (row : RowId) : Option (List RowId) :=
  (dataSet.grouping? name).bind fun grouping => grouping.rowsOf? row

/-- The rows that a scope covers. A group and a cell are only seen from a row. -/
def extent? (dataSet : DataSet) : Scope → Option RowId → Option Extent
  | .default, row? =>
      match row?, dataSet.innermost? with
      | some row, some grouping => (grouping.rowsOf? row).map (⟨·, true⟩)
      | _, _ => some ⟨dataSet.allRows, true⟩
  | .dataSet name, _ =>
      if Text.sameIgnoringCase dataSet.name name then some ⟨dataSet.allRows, true⟩ else none
  | .group name, row? => row?.bind fun row => (dataSet.rowsOf? name row).map (⟨·, true⟩)
  | .cell rowGroup columnGroup, row? => do
      let row ← row?
      let across ← dataSet.rowsOf? rowGroup row
      let down ← dataSet.rowsOf? columnGroup row
      some ⟨across.filter down.contains, false⟩

def value (dataSet : DataSet) (row : RowId) (column : Nat) : Except EvaluationError Value :=
  match dataSet.rows[row]? with
  | none => .error (.noSuchRow row dataSet.name)
  | some values =>
      if dataSet.columns.length ≤ column then .error (.fieldNotFound column)
      else .ok (values[column]?.getD .null)

def source (dataSet : DataSet) : DataSource where
  extent? := dataSet.extent?
  value := dataSet.value

end DataSet

end GroupedReport
