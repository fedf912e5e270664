import GroupedReport.Proofs.Data.Nesting
import GroupedReport.Proofs.Evaluation.Meaning
import GroupedReport.Proofs.Expression.Walk
import GroupedReport.Proofs.Report.Building
import GroupedReport.Proofs.Report.Following
import GroupedReport.Proofs.Report.Reference

/-!
# The cache of a report cannot be seen

What a run keeps for an aggregate is the value that the aggregate has wherever the run is: in every
row of the innermost group that it is in. Where it moves on, all of it is dropped. So a run gives
what single evaluations give, with or without a cache.
-/

namespace GroupedReport

open Expression

/-! ## What a run relies on -/

namespace Report

/-- What evaluation relies on in a run of a report, seen from a row: the innermost group of the
row is that of all rows that are seen, and rows are not mixed with the outside of all rows. -/
def outlook (report : Report) (dataSet : DataSet) (row? : Option RowId) : Outlook where
  program := report.engine.program.id
  data := dataSet.source
  aggregations := report.aggregations
  sees other := other.map dataSet.innermostIndex? = row?.map dataSet.innermostIndex?

theorem Apart.clear {report : Report} (apart : report.Apart) {dataSet : DataSet}
    (nested : dataSet.Nested) (row? : Option RowId) : (report.outlook dataSet row?).Clear where
  distinct := apart.keys
  flat := apart.flat
  shares := dataSet.sharesByScope
  same {scope first second} shared seesFirst seesSecond := by
    have together := seesFirst.trans seesSecond.symm
    cases first with
    | none =>
        cases second with
        | none => rfl
        | some => cases together
    | some first =>
        cases second with
        | none => cases together
        | some second => exact nested.extent?_eq (Option.some.inj together) shared

theorem mem_aggregations {report : Report} {root : NodeId} (isRoot : root ∈ report.roots) :
    ∀ aggregation ∈ (report.engine.program.tree root).aggregations,
      aggregation ∈ report.aggregations :=
  fun _ member => List.mem_flatMap.mpr ⟨root, isRoot, member⟩

theorem mem_boundary {report : Report} {aggregation : Aggregation}
    (member : aggregation ∈ report.aggregations) : aggregation.key ∈ report.boundary.keys := by
  rcases List.mem_flatMap.mp member with ⟨root, isRoot, inTree⟩
  apply Boundary.mem_keys_ofRoots.mpr
  refine ⟨root, isRoot, ?_⟩
  rw [Tree.keys_eq_map_aggregations]
  exact List.mem_map_of_mem inTree

end Report

/-! ## Crossing a boundary -/

namespace Run

theorem current_of_absent {report : Report} {dataSet : DataSet} {run : Run}
    (data : run.data = dataSet.source)
    (program : run.program? = none ∨ run.program? = some report.engine.program.id)
    (absent : ∀ aggregation ∈ report.aggregations,
      run.cache.peek? (.aggregate aggregation.key) = none) (row? : Option RowId) :
    run.Current (report.outlook dataSet row?) [] where
  data := data
  program := program
  value {aggregation value from?} member held _ := by
    rw [absent aggregation member] at held
    cases held
  state member := by cases member

theorem current_cross {report : Report} {dataSet : DataSet} {run : Run}
    (data : run.data = dataSet.source)
    (program : run.program? = none ∨ run.program? = some report.engine.program.id)
    (row? : Option RowId) :
    (run.cross report.boundary).Current (report.outlook dataSet row?) [] := by
  apply current_of_absent
  · rw [data_cross]
    exact data
  · rw [program?_cross]
    exact program
  · intro aggregation member
    rw [peek?_cross]
    apply if_pos
    exact List.mem_map_of_mem (Report.mem_boundary member)

end Run

namespace Progress

/-- Whether a run is at a row of a group, and keeps the values of there. -/
structure At (report : Report) (dataSet : DataSet) (group : Nat) (row? : Option RowId)
    (stored : List (String × String × Value)) (progress : Progress) : Prop where
  position : progress.position? = some ⟨group, row?.bind dataSet.innermostIndex?⟩
  current : progress.run.Current (report.outlook dataSet row?) stored

structure Before (report : Report) (dataSet : DataSet) (group : Nat) (progress : Progress) :
    Prop where
  data : progress.run.data = dataSet.source
  program : progress.run.program? = none ∨
    progress.run.program? = some report.engine.program.id
  position {position : Position} : progress.position? = some position → position.group < group
  fresh : progress.position? = none → ∀ aggregation ∈ report.aggregations,
    progress.run.cache.peek? (.aggregate aggregation.key) = none

section

variable {report : Report} {dataSet : DataSet} {group : Nat} {row? other? : Option RowId}
  {stored : List (String × String × Value)}

theorem before_start (report : Report) (dataSet : DataSet) :
    Before report dataSet 0 ⟨.start dataSet.source, none⟩ where
  data := rfl
  program := .inl rfl
  position equal := by cases equal
  fresh _ _ _ := rfl

theorem At.before_next {progress : Progress} (isAt : progress.At report dataSet group row? stored) :
    progress.Before report dataSet (group + 1) where
  data := isAt.current.data
  program := isAt.current.program
  position equal := by
    rw [isAt.position] at equal
    cases equal
    exact Nat.lt_succ_self group
  fresh nowhere := by
    rw [isAt.position] at nowhere
    cases nowhere

def Inside (report : Report) (dataSet : DataSet) (group : Nat) (present : Bool)
    (progress : Progress) : Prop :=
  ∃ row? : Option RowId, row?.isSome = present ∧ progress.At report dataSet group row? []

theorem gives_enter_group (report : Report) (dataSet : DataSet) (group : Nat)
    (row? : Option RowId) :
    (Step.enter dataSet report.boundary group row?).Gives (Before report dataSet group) (.ok ())
      (At report dataSet group row? []) := by
  intro progress before
  refine ⟨(), _, rfl, rfl, rfl, ?_⟩
  dsimp only
  cases position : progress.position? with
  | none =>
      rw [Option.any_none, if_neg Bool.false_ne_true]
      exact Run.current_of_absent before.data before.program (before.fresh position) row?
  | some current =>
      have elsewhere : (current != ⟨group, row?.bind dataSet.innermostIndex?⟩) = true := by
        rw [bne_iff_ne]
        rintro rfl
        exact Nat.lt_irrefl group (before.position position)
      rw [Option.any_some, elsewhere, if_pos rfl]
      exact Run.current_cross before.data before.program row?

theorem outlook_eq (inside : row?.isSome = other?.isSome)
    (same : row?.bind dataSet.innermostIndex? = other?.bind dataSet.innermostIndex?) :
    report.outlook dataSet row? = report.outlook dataSet other? := by
  have views : row?.map dataSet.innermostIndex? = other?.map dataSet.innermostIndex? := by
    cases row? with
    | none =>
        cases other? with
        | none => rfl
        | some => cases inside
    | some row =>
        cases other? with
        | none => cases inside
        | some other => exact congrArg some same
  rw [Report.outlook, Report.outlook, views]

theorem gives_enter (inside : row?.isSome = other?.isSome) :
    (Step.enter dataSet report.boundary group other?).Gives (At report dataSet group row? stored)
      (.ok ()) (At report dataSet group other? []) := by
  intro progress isAt
  refine ⟨(), _, rfl, rfl, rfl, ?_⟩
  dsimp only
  rw [isAt.position, Option.any_some]
  cases moved : (⟨group, row?.bind dataSet.innermostIndex?⟩ : Position) !=
      ⟨group, other?.bind dataSet.innermostIndex?⟩ with
  | true =>
      rw [if_pos rfl]
      exact Run.current_cross isAt.current.data isAt.current.program other?
  | false =>
      have same := bne_eq_false_iff_eq.mp moved
      rw [if_neg Bool.false_ne_true, ← outlook_eq inside (Position.mk.inj same).2]
      exact isAt.current.forget (List.forall_mem_nil _)

end

end Progress

def Column.storedPosition (placed : Column × Float) : String × String × Value :=
  (placed.1.owner, positionName, .float64 placed.2)

/-! ## Single evaluations -/

namespace Step

variable {report : Report} {dataSet : DataSet} {group : Nat} {row? : Option RowId}
  {stored : List (String × String × Value)}

theorem gives_evaluate {action reference : Evaluate α} {expected : Except EvaluationError α}
    (ensures : action.Ensures (Run.Current (report.outlook dataSet row?) stored) (· = expected))
    (same : reference.Ensures (Run.Current (report.outlook dataSet row?) []) (· = expected)) :
    (Step.evaluate action).Gives (Progress.At report dataSet group row? stored)
      (reference.alone dataSet.source) (Progress.At report dataSet group row? stored) := by
  have start : (Run.start dataSet.source).Current (report.outlook dataSet row?) [] :=
    Run.current_of_absent rfl (.inl rfl) (fun _ _ => rfl) row?
  have alone : reference.alone dataSet.source = expected := (same _ start).1
  intro progress isAt
  rcases ensures progress.run isAt.current with ⟨outcome, current⟩
  rw [alone, run_evaluate]
  rcases equal : action.run progress.run with ⟨_ | value, after⟩ <;> rw [equal] at outcome current
  · rw [← outcome]
  · rw [← outcome]
    exact ⟨value, { progress with run := after }, rfl, rfl, isAt.position, current⟩

end Step

/-- Whether columns store under names of their own, and under none that is taken. -/
structure Column.OwnersFree (taken : List String) (columns : List Column) : Prop where
  distinct : (columns.map Column.owner).Nodup
  free : ∀ owner ∈ taken, owner ∉ columns.map Column.owner

namespace Column.OwnersFree

variable {taken : List String} {column : Column} {rest : List Column}

theorem own (apart : OwnersFree taken (column :: rest)) : column.owner ∉ taken :=
  fun member => apart.free column.owner member List.mem_cons_self

theorem skip (apart : OwnersFree taken (column :: rest)) : OwnersFree taken rest where
  distinct := (List.nodup_cons.mp apart.distinct).2
  free owner member inRest := apart.free owner member (List.mem_cons_of_mem _ inRest)

theorem take (apart : OwnersFree taken (column :: rest)) :
    OwnersFree (column.owner :: taken) rest where
  distinct := apart.skip.distinct
  free := List.forall_mem_cons.mpr ⟨(List.nodup_cons.mp apart.distinct).1, apart.skip.free⟩

end Column.OwnersFree

theorem Progress.gives_setPosition (report : Report) (dataSet : DataSet) {group : Nat}
    {row? : Option RowId} {stored : List (String × String × Value)} (column : Column)
    (position : Float) (own : column.owner ∉ stored.map Prod.fst) :
    Step.Gives (modify fun progress =>
        { progress with run := column.setPosition position progress.run })
      (At report dataSet group row? stored) (.ok ())
      (At report dataSet group row? (Column.storedPosition (column, position) :: stored)) := by
  intro progress isAt
  refine ⟨(), _, rfl, rfl, isAt.position, isAt.current.setWorkState ?_ _ _⟩
  intro entry member same
  exact own (same ▸ List.mem_map_of_mem member)

namespace Report

section

variable {report : Report} (apart : report.Apart) {dataSet : DataSet} (nested : dataSet.Nested)
  {engine : Engine} (same : engine.program = report.engine.program)
  {group : Nat} {row? : Option RowId} {stored : List (String × String × Value)}
include apart nested same

theorem ensures_native {root : NodeId} (isRoot : root ∈ report.roots) :
    (engine.native root row?).Ensures (Run.Current (report.outlook dataSet row?) stored)
      (· = (report.engine.program.tree root).value dataSet.source row?) := by
  rw [Engine.native, same]
  apply (apart.clear nested row?).ensures_evaluateTree (congrArg Program.id same)
  intro aggregation member
  exact ⟨mem_aggregations isRoot aggregation member, rfl⟩

theorem ensures_evaluate {root : NodeId} (isRoot : root ∈ report.roots) :
    (engine.evaluate root row?).Ensures (Run.Current (report.outlook dataSet row?) stored)
      (· = (report.engine.program.tree root).value dataSet.source row? >>= fun value =>
        .ok (if value.isAbsent then .null else value)) := by
  apply (ensures_native apart nested same isRoot).bind_eq
  intro value
  exact Evaluate.ensures_pure rfl

theorem gives_value {root : NodeId} (isRoot : root ∈ report.roots) :
    (Step.evaluate (report.engine.evaluate root row?)).Gives
      (Progress.At report dataSet group row? stored)
      ((engine.evaluate root row?).alone dataSet.source)
      (Progress.At report dataSet group row? stored) :=
  Step.gives_evaluate (ensures_evaluate apart nested rfl isRoot)
    (ensures_evaluate apart nested same isRoot)

theorem gives_isHidden {column : Column} (member : column ∈ report.columns) :
    (Step.evaluate (column.isHidden report.engine row?)).Gives
      (Progress.At report dataSet group row? stored)
      ((column.isHidden engine row?).alone dataSet.source)
      (Progress.At report dataSet group row? stored) := by
  rw [Column.isHidden, Column.isHidden]
  cases hidden : column.hidden with
  | none => exact Step.gives_evaluate (Evaluate.ensures_pure rfl) (Evaluate.ensures_pure rfl)
  | some root =>
      have isRoot : root ∈ report.roots := mem_roots member (by simp [Column.roots, hidden])
      have converts {engine : Engine} (same : engine.program = report.engine.program)
          (stored : List (String × String × Value)) :
          (Column.isHidden { column with hidden := some root } engine row?).Ensures
            (Run.Current (report.outlook dataSet row?) stored)
            (· = (report.engine.program.tree root).value dataSet.source row? >>= fun value =>
              value.toBoolean.mapError .conversion) := by
        apply (ensures_native apart nested same isRoot).bind_eq
        intro value
        exact Evaluate.ensures_conversion rfl
      exact Step.gives_evaluate (converts rfl stored) (converts same [])

/-! ## Layout -/

theorem follows_layOut {columns : List Column} (known : ∀ column ∈ columns, column ∈ report.columns)
    (free : Column.OwnersFree (stored.map Prod.fst) columns) (position : Float) :
    (report.layOut row? position columns).Follows (Progress.At report dataSet group row? stored)
      (engine.placeAlone dataSet.source row? position columns)
      fun visible placed progress =>
        visible = placed.map Prod.fst ∧ (∀ entry ∈ placed, entry.1 ∈ report.columns) ∧
          progress.At report dataSet group row? (placed.map Column.storedPosition ++ stored) := by
  induction columns generalizing position stored with
  | nil =>
      apply Step.follows_pure
      intro progress isAt
      exact ⟨rfl, List.forall_mem_nil _, isAt⟩
  | cons column rest induction =>
      rw [List.forall_mem_cons] at known
      rw [layOut, Engine.placeAlone]
      apply (gives_isHidden apart nested same known.1).follows_bind
      intro hidden
      cases hidden with
      | true => exact induction known.2 free.skip position
      | false =>
          apply (Progress.gives_setPosition report dataSet column position free.own).before_step
          have stillFree : Column.OwnersFree
              ((Column.storedPosition (column, position) :: stored).map Prod.fst) rest := free.take
          apply (induction known.2 stillFree (position + column.width)).bind
          intro visible placed
          apply Step.follows_pure
          rintro progress ⟨rfl, placedKnown, isAt⟩
          refine ⟨rfl, List.forall_mem_cons.mpr ⟨known.1, placedKnown⟩, isAt.position,
            isAt.current.forget fun entry member => ?_⟩
          exact List.perm_middle.mem_iff.mpr member

/-! ## Cells -/

theorem gives_rowCells {row : RowId} {columns : List Column}
    (known : ∀ column ∈ columns, column ∈ report.columns) (cells : Cells) :
    (report.rowCells row cells columns).Gives
      (Progress.At report dataSet group (some row) stored)
      (engine.cellsAlone dataSet.source row cells columns)
      (Progress.At report dataSet group (some row) stored) := by
  induction columns generalizing cells with
  | nil => exact Step.gives_pure cells
  | cons column rest induction =>
      rw [List.forall_mem_cons] at known
      have isRoot : column.value ∈ report.roots := mem_roots known.1 List.mem_cons_self
      rw [rowCells, Engine.cellsAlone]
      apply (gives_value apart nested same isRoot).bind
      intro value
      exact induction known.2 _

theorem gives_footerCells {columns : List Column}
    (known : ∀ column ∈ columns, column ∈ report.columns) (cells : Cells) :
    (report.footerCells row? cells columns).Gives
      (Progress.At report dataSet group row? stored)
      (engine.footerAlone dataSet.source row? cells columns)
      (Progress.At report dataSet group row? stored) := by
  induction columns generalizing cells with
  | nil => exact Step.gives_pure cells
  | cons column rest induction =>
      rw [List.forall_mem_cons] at known
      rw [footerCells, Engine.footerAlone]
      cases footer : column.footer with
      | none => exact induction known.2 cells
      | some root =>
          have isRoot : root ∈ report.roots :=
            mem_roots known.1 (by simp [Column.roots, footer])
          apply (gives_value apart nested same isRoot).bind
          intro value
          exact induction known.2 _

theorem gives_rowsCells {visible : List Column}
    (known : ∀ column ∈ visible, column ∈ report.columns) {rows : List RowId} {present : Bool}
    (inside : rows ≠ [] → present = true) :
    (report.rowsCells (fun row => Step.enter dataSet report.boundary group (some row)) visible
      rows).Gives (Progress.Inside report dataSet group present)
      (rows.mapM fun row => engine.cellsAlone dataSet.source row [] visible)
      (Progress.Inside report dataSet group present) := by
  induction rows with
  | nil => exact Step.gives_pure []
  | cons row rest induction =>
      have isPresent := inside (List.cons_ne_nil row rest)
      have enters : (Step.enter dataSet report.boundary group (some row)).Gives
          (Progress.Inside report dataSet group present) (.ok ())
          (Progress.At report dataSet group (some row) []) := by
        rintro progress ⟨from?, isSome, isAt⟩
        have rows : from?.isSome = (some row).isSome := isSome.trans isPresent
        exact Progress.gives_enter rows progress isAt
      have cells : (report.rowCells row [] visible).Gives
          (Progress.At report dataSet group (some row) [])
          (engine.cellsAlone dataSet.source row [] visible)
          (Progress.Inside report dataSet group present) := by
        apply (gives_rowCells apart nested same known []).weaken
        intro progress isAt
        exact ⟨some row, isPresent.symm, isAt⟩
      rw [rowsCells, List.mapM_cons]
      apply enters.before_step
      apply cells.bind
      intro given
      apply (induction fun _ => isPresent).bind
      intro others
      exact Step.gives_pure _

/-! ## Groups -/

omit apart nested same in
theorem position_eq_shown {run : Run} {placed : Column × Float}
    (held : run.workState? placed.1.owner Column.positionName = some (.float64 placed.2)) :
    placed.1.position run = Column.shown placed.2 := by
  rw [Column.position, held]
  rfl

theorem gives_table (rows : List RowId) {visible : List Column}
    (known : ∀ column ∈ visible, column ∈ report.columns) (columns : List ColumnLayout) :
    Step.Gives (do
        let cells ← report.rowsCells
          (fun row => Step.enter dataSet report.boundary group (some row)) visible rows
        Step.enter dataSet report.boundary group rows.head?
        let footer ← report.footerCells rows.head? [] visible
        return { columns, rows := cells, footer })
      (Progress.Inside report dataSet group rows.head?.isSome)
      (do
        let cells ← rows.mapM fun row => engine.cellsAlone dataSet.source row [] visible
        let footer ← engine.footerAlone dataSet.source rows.head? [] visible
        return { columns, rows := cells, footer : GroupOutput })
      (Progress.Before report dataSet (group + 1)) := by
  have inside : rows ≠ [] → rows.head?.isSome = true := by
    intro notEmpty
    rcases List.exists_cons_of_ne_nil notEmpty with ⟨first, rest, rfl⟩
    rfl
  have returns : (Step.enter dataSet report.boundary group rows.head?).Gives
      (Progress.Inside report dataSet group rows.head?.isSome) (.ok ())
      (Progress.At report dataSet group rows.head? []) := by
    rintro progress ⟨from?, present, isAt⟩
    exact Progress.gives_enter present progress isAt
  apply (gives_rowsCells apart nested same known inside).bind
  intro cells
  apply returns.before_step
  apply (gives_footerCells apart nested same known []).bind
  intro footer
  apply Step.follows_pure
  intro progress isAt
  exact ⟨rfl, isAt.before_next⟩

theorem gives_runGroup (rows : List RowId) :
    (report.runGroup dataSet report.boundary group rows).Gives
      (Progress.Before report dataSet group) (engine.groupAlone dataSet.source report.columns rows)
      (Progress.Before report dataSet (group + 1)) := by
  rw [runGroup, Engine.groupAlone]
  apply (Progress.gives_enter_group report dataSet group rows.head?).before_step
  apply (follows_layOut apart nested same (fun _ => id)
    ⟨apart.owners, List.forall_mem_nil _⟩ (Binary64.zero false)).bind
  rintro visible placed progress ⟨rfl, known, isAt⟩
  have visibleKnown : ∀ column ∈ placed.map Prod.fst, column ∈ report.columns := by
    intro column member
    rcases List.mem_map.mp member with ⟨entry, isPlaced, rfl⟩
    exact known entry isPlaced
  have columns : (placed.map Prod.fst).map
        (fun column => (⟨column.name, column.position progress.run⟩ : ColumnLayout)) =
      placed.map fun entry => ⟨entry.1.name, Column.shown entry.2⟩ := by
    rw [List.map_map]
    apply List.map_congr_left
    intro entry member
    -- No column stores under the name of another one, so each still finds its own position.
    have held := isAt.current.state (List.mem_append_left _ (List.mem_map_of_mem member))
    exact congrArg _ (position_eq_shown held)
  have somewhere : progress.Inside report dataSet group rows.head?.isSome :=
    ⟨rows.head?, rfl, isAt.position, isAt.current.forget (List.forall_mem_nil _)⟩
  rw [← columns]
  exact gives_table apart nested same rows visibleKnown _ progress somewhere

theorem gives_runGroups (groups : List (List RowId)) :
    (report.runGroups dataSet report.boundary group groups).Gives
      (Progress.Before report dataSet group)
      (groups.mapM (engine.groupAlone dataSet.source report.columns)) fun _ => True := by
  induction groups generalizing group with
  | nil =>
      apply Step.follows_pure
      intro progress _
      exact ⟨rfl, trivial⟩
  | cons rows rest induction =>
      rw [runGroups, List.mapM_cons]
      apply (gives_runGroup apart nested same rows).bind
      intro output
      apply induction.bind
      intro others
      exact Step.gives_pure _

end

/-! ## Whole reports -/

theorem Apart.nested {report : Report} (apart : report.Apart) {data : List Json}
    {dataSet : DataSet} (made : report.dataSet data = .ok dataSet) : dataSet.Nested := by
  rcases Result.bind_eq_ok made with ⟨rows, _, pushed⟩
  have empty : report.emptyDataSet.Nested :=
    (DataSet.nested_empty report.dataSetName report.fields.columns).groupByAll apart.groupings
  exact empty.pushRows (Result.mapError_eq_ok pushed)

theorem Apart.run_eq {report : Report} (apart : report.Apart) {engine : Engine}
    (same : engine.program = report.engine.program) (data : List Json) :
    (report.run data).map (fun output => (output.name, output.groups)) =
      (report.runAlone engine data).map (report.name, ·) := by
  rw [run, runAlone]
  cases made : report.dataSet data with
  | error error => rfl
  | ok dataSet =>
      change (report.runOver dataSet).map _ = (report.groups dataSet >>= _).map _
      cases found : report.groups dataSet with
      | error error =>
          rw [runOver, found]
          rfl
      | ok groups =>
          have follows := gives_runGroups apart (apart.nested made) same groups
            ⟨.start dataSet.source, none⟩ (Progress.before_start report dataSet)
          change _ = ((groups.mapM (engine.groupAlone dataSet.source report.columns)).mapError
            ReportError.evaluation).map _
          rw [runOver_of_groups found]
          cases expected : groups.mapM (engine.groupAlone dataSet.source report.columns) with
          | error error =>
              rw [expected] at follows
              dsimp only at follows
              rw [follows]
              rfl
          | ok outputs =>
              rw [expected] at follows
              rcases follows with ⟨given, left, equal, rfl, _⟩
              rw [equal]
              rfl

end Report

/-- A report whose groupings have different names, and in which no aggregate lies inside of
another, gives the groups or the error that it gives if every expression is evaluated in a run of
its own. With and without a cache, its outputs are the same but for the counts of the cache. -/
theorem cache_is_invisible (definition : Definition.Report)
    (distinct : (definition.dataSet.groupings.map Definition.Grouping.name).Nodup)
    (flat : ∀ formula ∈ definition.formulas, formula.nesting ≤ 1) (options : Options)
    (data : List Json) :
    ((Report.ofDefinition options definition).run data).map ReportOutput.groups =
      (Report.ofDefinition options definition).runAlone
        (Report.ofDefinition options definition).engine data ∧
    ((Report.ofDefinition { options with cacheAggregates := true } definition).run data).map
        (fun output => (output.name, output.groups)) =
      ((Report.ofDefinition { options with cacheAggregates := false } definition).run data).map
        fun output => (output.name, output.groups) := by
  have apart := Report.apart_ofDefinition distinct flat
  constructor
  · have groups := congrArg (Except.map Prod.snd) ((apart options).run_eq rfl data)
    rw [Result.map_map, Result.map_map, Result.map_id] at groups
    exact groups
  · -- Both are compared with what the engine without a cache gives.
    have program : (Report.ofDefinition { options with cacheAggregates := false }
          definition).engine.program =
        (Report.ofDefinition { options with cacheAggregates := true } definition).engine.program :=
      rfl
    rw [(apart { options with cacheAggregates := true }).run_eq program data,
      (apart { options with cacheAggregates := false }).run_eq rfl data]
    rfl

def Definition.Report.sales : Definition.Report where
  name := "Sales"
  dataSet :=
    { fields :=
        [⟨.object [("name", .string "region"), ("type", .string "string")], by decide⟩,
          ⟨.object [("name", .string "amount"), ("type", .string "int32")], by decide⟩]
      groupings := [⟨"Regions", ["region"]⟩] }
  columns :=
    [{ name := "amount", value := some (.field "amount") },
      { name := "greatest", value := some (.aggregate "max" (some (.field "amount")) .default) }]

def alternatingSales : List Json :=
  [.array [.string "East", .integer 3], .array [.string "West", .integer 7],
    .array [.string "East", .integer 5]]

/-- Where the rows of two regions alternate, every row has the greatest amount of its region. -/
theorem alternating_regions_stay_apart :
    (Definition.Report.sales.dataSet.groupings.map Definition.Grouping.name).Nodup ∧
      (∀ formula ∈ Definition.Report.sales.formulas, formula.nesting ≤ 1) ∧
      ((Report.ofDefinition {} .sales).run alternatingSales).toOption.map
          (fun output => output.groups.map fun group =>
            group.rows.map (List.map fun cell => cell.2.compact)) =
        some [[["3", "5"], ["7", "7"], ["5", "5"]]] ∧
      ((Report.ofDefinition {} .sales).run alternatingSales).map ReportOutput.groups =
        (Report.ofDefinition {} .sales).runAlone (Report.ofDefinition {} .sales).engine
          alternatingSales := by
  have distinct : (Definition.Report.sales.dataSet.groupings.map
      Definition.Grouping.name).Nodup := by decide
  have flat : ∀ formula ∈ Definition.Report.sales.formulas, formula.nesting ≤ 1 := by decide
  exact ⟨distinct, flat, by decide +kernel,
    (cache_is_invisible .sales distinct flat {} alternatingSales).1⟩

end GroupedReport
