import GroupedReport.Proofs.Data.Classes
import GroupedReport.Proofs.Definition.Resolution
import GroupedReport.Proofs.Report.Evaluations
import GroupedReport.Proofs.Report.Loading

/-!
# How a report fails

A report fails over some rows if they cannot be loaded, if it is run by an unknown grouping, which
its log says, or as the values are to blame for. Whatever it asks its data and its program for is
there.
-/

namespace GroupedReport

open Expression

/-! ## What is there -/

theorem DataSet.lt_of_extent? {dataSet : DataSet}
    (partitions : ∀ entry ∈ dataSet.groupings, entry.2.Partitions dataSet.rows) {scope : Scope}
    {row? : Option RowId} {extent : Extent} (covers : dataSet.extent? scope row? = some extent) :
    ∀ row ∈ extent.rows, row < dataSet.rows.length := by
  have all : ∀ row ∈ dataSet.allRows, row < dataSet.rows.length :=
    fun row member => List.mem_range.mp member
  unfold DataSet.extent? at covers
  cases scope with
  | default =>
      dsimp only at covers
      split at covers
      · rename_i innermost
        rcases Option.map_eq_some_iff.mp innermost with ⟨entry, last, rfl⟩
        rcases Option.map_eq_some_iff.mp covers with ⟨rows, found, rfl⟩
        exact (partitions entry (List.mem_of_getLast? last)).lt_of_rowsOf? found
      · cases covers
        exact all
  | dataSet name =>
      dsimp only at covers
      split at covers
      · cases covers
        exact all
      · cases covers
  | group name =>
      rcases Option.bind_eq_some_iff.mp covers with ⟨row, _, covered⟩
      rcases Option.map_eq_some_iff.mp covered with ⟨rows, found, rfl⟩
      exact (DataSet.isClassOf_rowsOf? partitions found).known
  | cell rowGroup columnGroup =>
      rcases Option.bind_eq_some_iff.mp covers with ⟨row, _, covers⟩
      rcases Option.bind_eq_some_iff.mp covers with ⟨across, found, covers⟩
      rcases Option.bind_eq_some_iff.mp covers with ⟨down, _, covers⟩
      cases covers
      intro row member
      exact (DataSet.isClassOf_rowsOf? partitions found).known row (List.mem_filter.mp member).1

theorem Expression.Builder.Resolved.admits_tree {builder : Builder} (valid : builder.Valid)
    {fields : Fields} (resolved : builder.Resolved fields) {dataSet : DataSet}
    (columns : dataSet.columns = fields.columns) {id : NodeId} (known : id < builder.nodes.size) :
    (builder.tree id).Admits dataSet.source (· < dataSet.rows.length)
      EvaluationError.IsOfValues := by
  induction id using valid.node_induction with
  | unknown id absent =>
      rw [Array.getElem?_eq_none_iff] at absent
      exact absurd known (Nat.not_lt.mpr absent)
  | literal id value kind found =>
      rw [valid.tree_eq found]
      trivial
  | field id column kind found =>
      rw [valid.tree_eq found]
      intro row present
      have below : ¬dataSet.columns.length ≤ column := by
        rw [columns]
        exact Nat.not_le.mpr (resolved.column (Array.mem_of_getElem? found))
      change Evaluate.FailsOnly _ (dataSet.value row column)
      rw [DataSet.value, List.getElem?_eq_getElem present]
      dsimp only
      rw [if_neg below]
      exact Evaluate.failsOnly_ok
  | unary id operator operand found induction =>
      rw [valid.tree_eq found]
      exact induction (Nat.lt_trans (valid.node found) known)
  | binary id operator left right found leftInduction rightInduction =>
      rcases valid.node found with ⟨leftBelow, rightBelow⟩
      rw [valid.tree_eq found]
      exact ⟨leftInduction (Nat.lt_trans leftBelow known),
        rightInduction (Nat.lt_trans rightBelow known)⟩
  | aggregate id function inner scope key kind found induction =>
      rcases valid.node found with ⟨below, _⟩
      rw [valid.tree_eq found]
      exact induction (Nat.lt_trans below known)

namespace Report

/-- A report and its data fit together: what the report reads is there, in a data set whose
groupings part its rows. -/
structure Fitting (report : Report) (dataSet : DataSet) : Prop where
  partitions : ∀ entry ∈ dataSet.groupings, entry.2.Partitions dataSet.rows
  roots : ∀ root ∈ report.roots, (report.engine.program.tree root).Admits dataSet.source
    (· < dataSet.rows.length) EvaluationError.IsOfValues

theorem Fitting.runs {report : Report} {dataSet : DataSet} (fitting : report.Fitting dataSet) :
    report.Runs (· < dataSet.rows.length) (Run.Over dataSet.source report.engine.program.id)
      EvaluationError.IsOfValues where
  native isRoot known := by
    have engine : report.engine.Runs dataSet.source (· < dataSet.rows.length)
        (Run.Over dataSet.source report.engine.program.id) EvaluationError.IsOfValues :=
      { steady := Run.Over.steady
        source := Run.Over.data
        stored := fun _ _ free => ⟨free.data, free.program⟩
        covered := DataSet.lt_of_extent? fitting.partitions
        ofValues := fun _ => id
        foreign := by
          intro run error free fails
          rcases free.bindTo_ok with ⟨bound, binds⟩
          rw [binds] at fails
          cases fails }
    exact engine.ensures_evaluateTree (fitting.roots _ isRoot) known
  converts _ := trivial
  cross free := free.cross _

/-! ## Reports of definitions -/

def unknownGrouping (name : String) : Diagnostic :=
  .error .unknownScope ("Report groups by unknown grouping '" ++ name ++ "'.")

theorem unknownGrouping_injective {first second : String}
    (same : unknownGrouping first = unknownGrouping second) : first = second := by
  have messages := congrArg Diagnostic.message same
  exact (String.append_right_inj _).mp ((String.append_left_inj _).mp messages)

theorem unknownGrouping_mem_groupLog {groupings : List (String × List Nat)}
    {group? : Option String} {name : String} :
    unknownGrouping name ∈ groupLog groupings group? ↔
      group? = some name ∧ isGrouping groupings name = false := by
  cases group? with
  | none => exact iff_of_false List.not_mem_nil fun impossible => nomatch impossible.1
  | some group =>
      rw [groupLog]
      cases declared : isGrouping groupings group with
      | true =>
          refine iff_of_false List.not_mem_nil ?_
          rintro ⟨same, missing⟩
          cases same
          rw [declared] at missing
          cases missing
      | false =>
          rw [if_neg Bool.false_ne_true, List.mem_singleton]
          constructor
          · intro same
            cases unknownGrouping_injective same
            exact ⟨rfl, declared⟩
          · rintro ⟨same, _⟩
            cases same
            rfl

section

variable (options : Options) (definition : Definition.Report)

theorem fitting_ofDefinition (rows : List Row) :
    (ofDefinition options definition).Fitting ((ofDefinition options definition).filled rows) where
  partitions := DataSet.partitions_performAll _ _ _
  roots root isRoot := by
    have bounded : ∀ column ∈ definition.columns, ∀ formula ∈ column.formulas,
        formula.nesting ≤ (definition.formulas.map Formula.nesting).sum := by
      intro column member formula inColumn
      apply List.le_sum_of_mem
      exact List.mem_map_of_mem (List.mem_flatMap.mpr ⟨column, member, inColumn⟩)
    have gains := gains_buildColumns (Fields.load (definition.dataSet.fields.map Subtype.val)).1
      options.foldConstants bounded
    have resolved := resolved_buildColumns
      (Fields.bounded_load (definition.dataSet.fields.map Subtype.val)) options.foldConstants
      definition.columns
    exact resolved.admits_tree gains.valid (DataSet.columns_performAll _ _)
      (gains.known root isRoot)

theorem unknownGrouping_mem_log {name : String} :
    unknownGrouping name ∈ (ofDefinition options definition).log ↔
      (ofDefinition options definition).group = some name ∧
        isGrouping (ofDefinition options definition).groupings name = false := by
  have elsewhere {log : Diagnostic.Log} (free : log.FreeOf .unknownScope) :
      unknownGrouping name ∉ log :=
    fun member => free _ member rfl
  have resolved := resolved_buildColumns
    (Fields.bounded_load (definition.dataSet.fields.map Subtype.val)) options.foldConstants
    definition.columns
  have ofFields := elsewhere (Fields.freeOf_load (definition.dataSet.fields.map Subtype.val))
  have ofGroupings := elsewhere (freeOf_resolveGroupings
    (Fields.load (definition.dataSet.fields.map Subtype.val)).1 definition.dataSet.groupings)
  have ofColumns := elsewhere resolved.log
  have log : (ofDefinition options definition).log =
      (Fields.load (definition.dataSet.fields.map Subtype.val)).2 ++
        (resolveGroupings (Fields.load (definition.dataSet.fields.map Subtype.val)).1
          definition.dataSet.groupings).2 ++
        groupLog (ofDefinition options definition).groupings definition.group ++
        ((buildColumns (Fields.load (definition.dataSet.fields.map Subtype.val)).1
          options.foldConstants definition.columns).run {}).2.log := rfl
  rw [log, List.mem_append, or_iff_left ofColumns, List.mem_append, List.mem_append,
    or_iff_right (not_or.mpr ⟨ofFields, ofGroupings⟩)]
  exact unknownGrouping_mem_groupLog

end

theorem groups_filled_eq_error_iff {report : Report} {rows : List Row} {error : ReportError} :
    report.groups (report.filled rows) = .error error ↔
      ∃ name, report.group = some name ∧ isGrouping report.groupings name = false ∧
        .unknownGroup name = error := by
  rw [groups]
  cases report.group with
  | none => simp
  | some name =>
      have found : ((report.filled rows).grouping? name).isSome =
          isGrouping report.groupings name := isSome_grouping?_filled rows name
      rw [← Option.isSome_map (f := fun grouping => grouping.groups.map Group.rows)] at found
      change ((report.filled rows).groupRows? name).isSome = _ at found
      dsimp only
      cases grouped : (report.filled rows).groupRows? name with
      | some groups => rw [grouped] at found; simp [← found]
      | none => rw [grouped] at found; simp [← found]

theorem Fitting.runOver {report : Report} {dataSet : DataSet} (fitting : report.Fitting dataSet)
    (distinct : (report.columns.map Column.owner).Nodup) {groups : List (List RowId)}
    (found : report.groups dataSet = .ok groups) :
    (∃ output, report.runOver dataSet = .ok output) ∨
      ∃ error, report.runOver dataSet = .error (.evaluation error) ∧ error.IsOfValues := by
  have present : ∀ rows ∈ groups, ∀ row ∈ rows, row < dataSet.rows.length := by
    intro rows member row inRows
    have inAll := List.mem_flatten.mpr ⟨rows, member, inRows⟩
    exact List.mem_range.mp ((groups_cover fitting.partitions found).mem_iff.mp inAll)
  have tables := groups_runOver distinct dataSet
  rcases fitting.runs.evaluateOver (.start ..) found present with
    ⟨values, evaluated, _⟩ | ⟨error, fails, isOfValues⟩
  · rw [evaluated] at tables
    rcases Result.map_eq_ok tables with ⟨output, gives, _⟩
    exact .inl ⟨output, gives⟩
  · rw [fails] at tables
    exact .inr ⟨error, Result.map_eq_error tables, isOfValues⟩

theorem run_eq (report : Report) (data : List Json) :
    report.run data = (Row.load report.fields data).mapError ReportError.row >>= fun rows =>
      report.runOver (report.filled rows) := by
  change report.dataSet data >>= report.runOver = _
  rw [dataSet_eq]
  cases Row.load report.fields data <;> rfl

end Report

/-- A report fails to load its rows exactly if they cannot be loaded, and with the same error. It
fails for an unknown group exactly if the rows can be loaded and its log says that the grouping is
unknown. Everything else that it fails with, the values are to blame for. -/
theorem report_fails_only_for_reasons (definition : Definition.Report) (options : Options)
    (data : List Json) :
    let report := Report.ofDefinition options definition
    (∀ error, report.run data = .error (.row error) ↔
      Row.load report.fields data = .error error) ∧
    (∀ name, report.run data = .error (.unknownGroup name) ↔
      (∃ rows, Row.load report.fields data = .ok rows) ∧
        Report.unknownGrouping name ∈ report.log) ∧
    ∀ error, report.run data = .error (.evaluation error) → error.IsOfValues := by
  intro report
  have logged (name : String) : Report.unknownGrouping name ∈ report.log ↔ _ :=
    Report.unknownGrouping_mem_log options definition
  have runs := Report.run_eq report data
  cases loaded : Row.load report.fields data with
  | error error =>
      have run : report.run data = .error (.row error) := by
        rw [runs, loaded]
        rfl
      simp [run, eq_comm]
  | ok rows =>
      have run : report.run data = report.runOver (report.filled rows) := by
        rw [runs, loaded]
        rfl
      cases found : report.groups (report.filled rows) with
      | error error =>
          have fails : report.run data = .error error := by
            rw [run, Report.runOver, found]
            rfl
          rcases Report.groups_filled_eq_error_iff.mp found with ⟨name, byName, missing, rfl⟩
          refine ⟨fun error => by simp [fails], ?_, fun error => by simp [fails]⟩
          intro other
          rw [fails, logged]
          constructor
          · intro same
            cases same
            exact ⟨⟨rows, rfl⟩, byName, missing⟩
          · rintro ⟨_, byOther, _⟩
            cases byName.symm.trans byOther
            rfl
      | ok groups =>
          -- Groups are not found where the log has a finding about an unknown one.
          have notLogged (name : String) : Report.unknownGrouping name ∉ report.log := by
            rw [logged]
            rintro ⟨byName, missing⟩
            have fails : report.groups (report.filled rows) = .error (.unknownGroup name) :=
              Report.groups_filled_eq_error_iff.mpr ⟨name, byName, missing, rfl⟩
            rw [fails] at found
            cases found
          have distinct : (report.columns.map Column.owner).Nodup :=
            Report.owners_buildColumns _ options.foldConstants definition.columns
          rcases (Report.fitting_ofDefinition options definition rows).runOver distinct found with
            ⟨output, gives⟩ | ⟨error, fails, isOfValues⟩
          · rw [run, gives]
            simp [notLogged]
          · rw [run, fails]
            simp [notLogged, isOfValues]

def Definition.Report.quotients (group : Option String) : Definition.Report :=
  { Definition.Report.sales with
    group
    columns := [{
      name := "quotient"
      value :=
        some (.binary "/" (some (.field "amount")) (some (.literal ⟨.integer 0, by decide⟩))) }] }

/-- Dividing by zero fails as the values are to blame for, running by a grouping that is not
declared fails for that group, and what is no row cannot be loaded. -/
theorem quotients_fail :
    (∃ error, ((Report.ofDefinition {} (.quotients none)).run alternatingSales =
      .error (.evaluation error)) ∧ error.IsOfValues) ∧
    (Report.ofDefinition {} (.quotients (some "Nowhere"))).run alternatingSales =
      .error (.unknownGroup "Nowhere") ∧
    (Report.ofDefinition {} (.quotients none)).run [.bool true] =
      .error (.row (.shape 0 (.bool true))) := by
  have fields : (Report.ofDefinition {} (.quotients none)).fields =
      ⟨[⟨"region", .string, 0⟩, ⟨"amount", .int32, 1⟩], ["region", "amount"]⟩ := by decide +kernel
  have loads : Row.load (Report.ofDefinition {} (.quotients none)).fields alternatingSales =
      .ok [[.string "East", .int32 3], [.string "West", .int32 7], [.string "East", .int32 5]] := by
    rw [fields]
    rfl
  refine ⟨?_, ?_, ?_⟩
  · rcases report_fails_only_for_reasons (.quotients none) {} alternatingSales with
      ⟨rows, unknown, values⟩
    have fails :
        ((Report.ofDefinition {} (.quotients none)).run alternatingSales).isOk = false := by
      decide +kernel
    cases equal : (Report.ofDefinition {} (.quotients none)).run alternatingSales with
    | ok output =>
        rw [equal] at fails
        cases fails
    | error error =>
        cases error with
        | row error => cases loads.symm.trans ((rows error).mp equal)
        | unknownGroup name =>
            have logged := (Report.unknownGrouping_mem_log {} _).mp ((unknown name).mp equal).2
            cases logged.1
        | evaluation error => exact ⟨error, rfl, values error equal⟩
  · have logs : Report.unknownGrouping "Nowhere" ∈
        (Report.ofDefinition {} (.quotients (some "Nowhere"))).log := by decide +kernel
    exact ((report_fails_only_for_reasons (.quotients (some "Nowhere")) {}
      alternatingSales).2.1 "Nowhere").mpr ⟨⟨_, loads⟩, logs⟩
  · have noRow : Row.load (Report.ofDefinition {} (.quotients none)).fields [.bool true] =
        .error (.shape 0 (.bool true)) := rfl
    exact ((report_fails_only_for_reasons (.quotients none) {} [.bool true]).1 _).mpr noRow

end GroupedReport
