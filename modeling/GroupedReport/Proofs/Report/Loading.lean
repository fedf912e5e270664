import GroupedReport.Proofs.Data.Calls
import GroupedReport.Report.Basic

/-!
# Loading the rows of a report

Every row of data becomes one value for each column, so no row is too long for the data set. The
data set of a report is made by declaring its groupings and putting the rows behind each other.
-/

namespace GroupedReport

/-! ## Rows -/

namespace Row

variable {fields : Fields}

theorem length_ofElements {row column : Nat} {names : List String} {elements : List Json}
    {values : Row} (loaded : ofElements fields row column names elements = .ok values) :
    values.length = names.length := by
  induction names generalizing column elements values with
  | nil =>
      cases loaded
      rfl
  | cons name rest induction =>
      cases elements with
      | nil =>
          cases loaded
          simp
      | cons json others =>
          rcases Result.bind_eq_ok loaded with ⟨value, _, loaded⟩
          rcases Result.bind_eq_ok loaded with ⟨following, restLoaded, equal⟩
          cases equal
          rw [List.length_cons, List.length_cons, induction restLoaded]

theorem length_ofMembers {row : Nat} {before values : Row} {members : List (String × Json)}
    (loaded : ofMembers fields row before members = .ok values) :
    values.length = before.length := by
  induction members generalizing before with
  | nil =>
      cases loaded
      rfl
  | cons entry rest induction =>
      rw [ofMembers] at loaded
      split at loaded
      · exact induction loaded
      · rcases Result.bind_eq_ok loaded with ⟨value, _, restLoaded⟩
        rw [induction restLoaded, List.length_set]

theorem length_ofJson {row : Nat} {json : Json} {values : Row}
    (loaded : ofJson fields row json = .ok values) : values.length = fields.columns.length := by
  unfold ofJson at loaded
  split at loaded
  · exact length_ofElements loaded
  · rw [length_ofMembers loaded, List.length_map]
  · cases loaded

theorem length_of_loadFrom {row : Nat} {data : List Json} {rows : List Row}
    (loaded : loadFrom fields row data = .ok rows) :
    ∀ values ∈ rows, values.length = fields.columns.length := by
  induction data generalizing row rows with
  | nil =>
      cases loaded
      exact List.forall_mem_nil _
  | cons json rest induction =>
      rcases Result.bind_eq_ok loaded with ⟨values, first, loaded⟩
      rcases Result.bind_eq_ok loaded with ⟨others, restLoaded, equal⟩
      cases equal
      rw [List.forall_mem_cons]
      exact ⟨length_ofJson first, induction restLoaded⟩

end Row

/-! ## Data sets -/

namespace DataSet

theorem pushRows_eq {dataSet : DataSet} {rows : List (List Value)}
    (short : ∀ values ∈ rows, fits dataSet.columns values = true) :
    dataSet.pushRows rows = .ok (dataSet.performAll (rows.map Call.pushRow)) := by
  induction rows generalizing dataSet with
  | nil => rfl
  | cons values rest induction =>
      rw [List.forall_mem_cons] at short
      have pushed : dataSet.pushRow values = .ok (dataSet.perform (.pushRow values)) := by
        rw [pushRow, perform, push_of_fits short.1]
        rfl
      rw [pushRows, pushed, List.map_cons, performAll, List.foldl_cons]
      apply induction
      rw [columns_perform]
      exact short.2

end DataSet

namespace Report

open DataSet

def calls (report : Report) (rows : List Row) : List Call :=
  report.groupings.map (fun grouping => .groupBy grouping.1 grouping.2) ++ rows.map .pushRow

def filled (report : Report) (rows : List Row) : DataSet :=
  performAll { name := report.dataSetName, columns := report.fields.columns } (report.calls rows)

variable {report : Report}

theorem dataSet_eq (data : List Json) :
    report.dataSet data =
      ((Row.load report.fields data).mapError ReportError.row).map report.filled := by
  rw [dataSet]
  cases loaded : Row.load report.fields data with
  | error error => rfl
  | ok rows =>
      have empty : report.emptyDataSet =
          performAll { name := report.dataSetName, columns := report.fields.columns }
            (report.groupings.map fun grouping => .groupBy grouping.1 grouping.2) := by
        rw [performAll, List.foldl_map]
        rfl
      have short : ∀ values ∈ rows, fits report.emptyDataSet.columns values = true := by
        intro values member
        rw [empty, columns_performAll]
        exact decide_eq_true (Nat.le_of_eq (Row.length_of_loadFrom loaded values member))
      change (report.emptyDataSet.pushRows rows).mapError ReportError.evaluation = _
      rw [pushRows_eq short]
      refine congrArg Except.ok ?_
      rw [filled, calls, performAll, performAll, List.foldl_append, empty, performAll]

theorem isSome_grouping?_filled (rows : List Row) (name : String) :
    ((report.filled rows).grouping? name).isSome = isGrouping report.groupings name := by
  have declared (group : String) : group ∈ (report.filled rows).groupNames ↔
      group ∈ report.groupings.map Prod.fst := by
    rw [filled, mem_groupNames_performAll, calls]
    simp
  rw [grouping?, Option.isSome_map, isGrouping, Bool.eq_iff_iff, List.find?_isSome,
    List.any_eq_true]
  constructor
  · rintro ⟨entry, member, same⟩
    rcases List.mem_map.mp ((declared entry.1).mp (List.mem_map_of_mem member)) with
      ⟨grouping, isDeclared, equal⟩
    exact ⟨grouping, isDeclared, by rw [equal]; exact same⟩
  · rintro ⟨grouping, isDeclared, same⟩
    rcases List.mem_map.mp ((declared grouping.1).mpr (List.mem_map_of_mem isDeclared)) with
      ⟨entry, member, equal⟩
    exact ⟨entry, member, by rw [equal]; exact same⟩

end Report

end GroupedReport
