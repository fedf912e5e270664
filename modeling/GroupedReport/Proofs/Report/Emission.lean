import GroupedReport.Proofs.Data.Calls
import GroupedReport.Proofs.Report.Evaluations

/-!
# Every row is shown once

The groups that a report is run over part the rows of its data set, and the table of a group shows
what the visible columns evaluate to in each of its rows. So a run shows every row exactly once.
-/

namespace GroupedReport

open DataSet in
/-- The groupings of a data set are those that its calls declare, and they part its rows, whatever
the order of the calls. Its rows are those that were not rejected, and a rejected row changes
nothing. So a report over it shows every row exactly once. -/
theorem groupings_part_rows (name : String) (columns : List String) (calls : List Call) :
    let empty : DataSet := { name, columns }
    let dataSet := empty.performAll calls
    dataSet.rows = (calls.filterMap Call.row?).filter (fits columns) ∧
    dataSet.groupNames = ((calls.filterMap Call.grouping?).map Prod.fst).eraseDups ∧
    (∀ entry ∈ dataSet.groupings,
      Declares empty calls entry.1 entry.2.columns ∧ entry.2.Partitions dataSet.rows) ∧
    (∀ others : List Call, others.filterMap Call.grouping? = calls.filterMap Call.grouping? →
      others.filterMap Call.row? = calls.filterMap Call.row? →
        empty.performAll others = dataSet) ∧
    (∀ values error, (dataSet.push values).1 = .error error →
      (dataSet.push values).2 = dataSet) ∧
    ∀ (options : Options) (definition : Definition.Report) (output : ReportOutput),
      let report := Report.ofDefinition options definition
      report.runOver dataSet = .ok output →
        ∃ groups values, report.groups dataSet = .ok groups ∧
          report.evaluateOver dataSet = .ok values ∧
          groups.flatten.Perm (List.range dataSet.rows.length) ∧
          List.Forall₂ (report.Evaluates (Run.Reached report.engine.program dataSet.source))
            groups values ∧
          List.Forall₂ (fun (values : GroupValues) (table : GroupOutput) =>
            let visible := visibleOf report.columns values.hidden
            table.columns.map ColumnLayout.name = visible.map Column.name ∧
            table.rows = values.rows.map fun row => Cells.putValues [] visible (row.map some))
            values output.groups := by
  intro empty dataSet
  have partitions := partitions_performAll name columns calls
  refine ⟨?_, groupNames_performAll name columns calls, ?_, ?_, ?_, ?_⟩
  · change (performAll { name, columns } calls).rows = _
    rw [performAll_eq]
    rfl
  · intro entry member
    exact ⟨declares_performAll name columns calls entry member, partitions entry member⟩
  · intro others groupings rows
    exact performAll_congr name columns groupings rows
  · intro values error
    exact push_snd_of_error
  · intro options definition output report ran
    have distinct : (report.columns.map Column.owner).Nodup :=
      Report.owners_buildColumns _ options.foldConstants definition.columns
    have tables := Report.groups_runOver distinct dataSet
    rw [ran] at tables
    rcases Result.map_eq_ok tables.symm with ⟨values, evaluated, made⟩
    rcases Report.evaluates_evaluateOver evaluated with ⟨groups, found, evaluates⟩
    refine ⟨groups, values, found, evaluated, Report.groups_cover partitions found, evaluates, ?_⟩
    rw [made, List.forall₂_map_right_iff, List.forall₂_same]
    exact fun values _ => ⟨values.names_eq_visible report.columns, rfl⟩

open DataSet in
/-- Amounts of two regions are grouped alike before and after their regions are declared, and a
report by region shows each of them once. -/
theorem regions_part_amounts :
    let empty : DataSet := { name := "Sales", columns := ["Region", "Amount"] }
    let early : List Call := [.groupBy "Regions" [0], .pushRow [.string "East", .int32 3],
      .pushRow [.string "West", .int32 7], .pushRow [.string "East"]]
    let late : List Call := [.pushRow [.string "East", .int32 3],
      .pushRow [.string "West", .int32 7], .pushRow [.string "East"], .groupBy "Regions" [0]]
    let dataSet := empty.performAll early
    let report := Report.ofDefinition {} { Definition.Report.sales with group := some "Regions" }
    dataSet.groupRows? "regions" = some [[0, 2], [1]] ∧
      dataSet.groupNames = ["Regions"] ∧
      (∀ entry ∈ dataSet.groupings, Declares empty early entry.1 entry.2.columns) ∧
      empty.performAll late = dataSet ∧
      (dataSet.push [.null, .null, .null]).1 = .error (.rowTooLong 3 "Sales" 2) ∧
      (dataSet.push [.null, .null, .null]).2 = dataSet ∧
      ∃ output groups values, report.runOver dataSet = .ok output ∧
        report.evaluateOver dataSet = .ok values ∧
        groups.flatten.Perm (List.range 3) ∧
        List.Forall₂ (report.Evaluates (Run.Reached report.engine.program dataSet.source))
          groups values := by
  intro empty early late dataSet report
  rcases groupings_part_rows "Sales" ["Region", "Amount"] early with
    ⟨_, names, groupings, reordered, rejected, shows⟩
  have tooLong : (dataSet.push [.null, .null, .null]).1 = .error (.rowTooLong 3 "Sales" 2) := rfl
  have gives : (report.runOver dataSet).isOk = true := by decide +kernel
  refine ⟨by decide +kernel, names.trans (by decide),
    fun entry member => (groupings entry member).1, reordered late rfl rfl, tooLong,
    rejected [.null, .null, .null] _ tooLong, ?_⟩
  cases ran : report.runOver dataSet with
  | error error =>
      rw [ran] at gives
      cases gives
  | ok output =>
      rcases shows {} _ output ran with ⟨groups, values, _, evaluated, covers, evaluates, _⟩
      exact ⟨output, groups, values, rfl, evaluated, covers, evaluates⟩

end GroupedReport
