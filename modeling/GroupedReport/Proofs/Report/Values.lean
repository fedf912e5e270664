import GroupedReport.Proofs.Evaluation.Crossing
import GroupedReport.Proofs.Evaluation.Resemblance
import GroupedReport.Proofs.Report.Building
import GroupedReport.Proofs.Report.Caching

/-!
# What is evaluated for a report

The tables of a report are laid out while it is run, and positions are stored next to the values of
aggregates. The same evaluations can be made in the same order without any layout. The tables are
then a function of the columns and of the values: which columns are hidden, what each visible one
gives in each row, and what its footer gives.
-/

namespace GroupedReport

open Expression

/-! ## Evaluation without layout -/

/-- What is evaluated for a group: whether each column of the report is hidden, the values of the
visible ones in each row, and those of the footers that they have. -/
structure GroupValues where
  hidden : List Bool
  rows : List (List Value)
  footers : List (Option Value)

def visibleOf : List α → List Bool → List α
  | item :: items, isHidden :: hidden =>
      if isHidden then visibleOf items hidden else item :: visibleOf items hidden
  | _, _ => []

theorem map_visibleOf (transform : α → β) (items : List α) (hidden : List Bool) :
    (visibleOf items hidden).map transform = visibleOf (items.map transform) hidden := by
  induction items generalizing hidden with
  | nil => rfl
  | cons item rest induction =>
      cases hidden with
      | nil => rfl
      | cons isHidden others =>
          rw [visibleOf, List.map_cons, visibleOf, ← induction others]
          cases isHidden <;> rfl

theorem visibleOf_sublist (items : List α) (hidden : List Bool) :
    (visibleOf items hidden).Sublist items := by
  induction items generalizing hidden with
  | nil => exact .refl []
  | cons item rest induction =>
      cases hidden with
      | nil => exact List.nil_sublist _
      | cons isHidden others =>
          rw [visibleOf]
          split
          · exact (induction others).cons item
          · exact (induction others).cons_cons item

namespace Report

def evaluateRow (report : Report) (row : RowId) (visible : List Column) : Step (List Value) :=
  visible.mapM fun column => Step.evaluate (report.engine.evaluate column.value (some row))

def evaluateFooter (report : Report) (row? : Option RowId) (column : Column) :
    Step (Option Value) :=
  match column.footer with
  | none => return none
  | some id => some <$> Step.evaluate (report.engine.evaluate id row?)

def evaluateGroup (report : Report) (dataSet : DataSet) (boundary : Boundary) (group : Nat)
    (rows : List RowId) : Step GroupValues := do
  let first := rows.head?
  Step.enter dataSet boundary group first
  let hidden ← report.columns.mapM fun column =>
    Step.evaluate (column.isHidden report.engine first)
  let visible := visibleOf report.columns hidden
  let values ← rows.mapM fun row => do
    Step.enter dataSet boundary group (some row)
    report.evaluateRow row visible
  Step.enter dataSet boundary group first
  let footers ← visible.mapM (report.evaluateFooter first)
  return { hidden, rows := values, footers }

def evaluateGroups (report : Report) (dataSet : DataSet) (boundary : Boundary) (group : Nat) :
    List (List RowId) → Step (List GroupValues)
  | [] => return []
  | rows :: rest => do
      let values ← evaluateGroup report dataSet boundary group rows
      let others ← evaluateGroups report dataSet boundary (group + 1) rest
      return values :: others

def evaluateOver (report : Report) (dataSet : DataSet) :
    Except ReportError (List GroupValues) := do
  let groups ← report.groups dataSet
  match report.evaluateGroups dataSet report.boundary 0 groups ⟨.start dataSet.source, none⟩ with
  | .error error => .error (.evaluation error)
  | .ok (values, _) => .ok values

end Report

/-! ## Layout without evaluation -/

def Column.placed (position : Float) : List Column → List (Column × Float)
  | [] => []
  | column :: rest => (column, position) :: placed (position + column.width) rest

def Cells.putValues (cells : Cells) : List Column → List (Option Value) → Cells
  | column :: columns, some value :: values =>
      putValues (cells.put column.name value.toJson) columns values
  | _ :: columns, none :: values => putValues cells columns values
  | _, _ => cells

namespace GroupValues

def table (values : GroupValues) (columns : List Column) : GroupOutput :=
  let visible := visibleOf columns values.hidden
  { columns := (Column.placed (Binary64.zero false) visible).map fun entry =>
      ⟨entry.1.name, Column.shown entry.2⟩
    rows := values.rows.map fun row => Cells.putValues [] visible (row.map some)
    footer := Cells.putValues [] visible values.footers }

end GroupValues

/-! ## Steps side by side -/

namespace Step

/-- Whether a step goes along with another one, from progresses that go together. -/
def Mirrors (step : Step α) (before : Progress → Progress → Prop) (reference : Step β)
    (after : α → β → Progress → Progress → Prop) : Prop :=
  ∀ other, step.Follows (before other) (reference other) fun given made =>
    after given made.1 made.2

variable {before middle : Progress → Progress → Prop} {step : Step α} {reference : Step β}

theorem mirrors_pure {given : α} {made : β} {after : α → β → Progress → Progress → Prop}
    (holds : ∀ other progress, before other progress → after given made other progress) :
    Mirrors (pure given) before (pure made) after :=
  fun other => follows_pure (holds other)

theorem Mirrors.bind {next : α → Step γ} {otherNext : β → Step δ}
    {between : α → β → Progress → Progress → Prop} {after : γ → δ → Progress → Progress → Prop}
    (first : step.Mirrors before reference between)
    (second : ∀ given made, (next given).Mirrors (between given made) (otherNext made) after) :
    (step >>= next).Mirrors before (reference >>= otherNext) after :=
  fun other => (first other).bind fun given made => second given made.1 made.2

theorem Mirrors.bind_image {transform : β → α} {next : α → Step γ} {otherNext : β → Step δ}
    {after : γ → δ → Progress → Progress → Prop}
    (first : step.Mirrors before reference fun given made other progress =>
      given = transform made ∧ middle other progress)
    (second : ∀ made, (next (transform made)).Mirrors middle (otherNext made) after) :
    (step >>= next).Mirrors before (reference >>= otherNext) after := by
  apply first.bind
  rintro given made other progress ⟨rfl, beside⟩
  exact second made other progress beside

theorem Mirrors.returns {transform : β → δ} {between : α → β → Progress → Progress → Prop}
    {after : α → δ → Progress → Progress → Prop} (first : step.Mirrors before reference between)
    (implies : ∀ given made other progress, between given made other progress →
      after given (transform made) other progress) :
    step.Mirrors before (reference >>= fun made => pure (transform made)) after := by
  have whole : (step >>= pure).Mirrors before (reference >>= fun made => pure (transform made))
      after := first.bind fun given made => mirrors_pure (implies given made)
  rwa [bind_pure] at whole

theorem Mirrors.after_silent {silent : Step Unit} {after : α → β → Progress → Progress → Prop}
    (goes : ∀ other, silent.Gives (before other) (.ok ()) (middle other))
    (rest : step.Mirrors middle reference after) :
    (do silent; step : Step α).Mirrors before reference after :=
  fun other => (goes other).before_step (rest other)

end Step

/-! ## Runs side by side -/

namespace Run.Resemble

variable {data : DataSource} {program : ProgramId} {first second : Run}

theorem cross (resemble : Resemble data program first second) (boundary : Boundary) :
    Resemble data program (first.cross boundary) (second.cross boundary) where
  firstOver := resemble.firstOver.cross boundary
  secondOver := resemble.secondOver.cross boundary
  kept key := by rw [peek?_cross, peek?_cross, resemble.kept]

theorem setWorkState (resemble : Resemble data program first second) (owner name : String)
    (value : Value) : Resemble data program (first.setWorkState owner name value) second where
  firstOver := ⟨resemble.firstOver.data, resemble.firstOver.program⟩
  secondOver := resemble.secondOver
  kept key := by
    have different : Slot.aggregate key ≠ .workState owner name := nofun
    rw [Run.setWorkState, Cache.peek?_store_of_ne different]
    exact resemble.kept key

end Run.Resemble

namespace Evaluate

/-- Whether an evaluation comes to the same in runs that resemble each other, and leaves alone what
the elements of a report have stored. -/
structure IsPure (data : DataSource) (program : ProgramId) (action : Evaluate α) : Prop where
  blind : IsBlind data program action
  workState (run : Run) (owner name : String) :
    (action.run run).2.workState? owner name = run.workState? owner name

variable {data : DataSource} {program : ProgramId}

theorem isPure_of_run_eq {action : Evaluate α} {result : Except EvaluationError α}
    (equal : ∀ run, action.run run = (result, run)) : IsPure data program action where
  blind := isBlind_of_run_eq equal
  workState run _ _ := by rw [equal]

theorem IsPure.bind {action : Evaluate α} {next : α → Evaluate β}
    (first : IsPure data program action) (second : ∀ value, IsPure data program (next value)) :
    IsPure data program (action >>= next) where
  blind := first.blind.bind fun value => (second value).blind
  workState run owner name := by
    have kept := first.workState run owner name
    rw [run_bind]
    rcases equal : action.run run with ⟨_ | value, after⟩
    · rw [equal] at kept
      exact kept
    · rw [equal] at kept
      exact ((second value).workState after owner name).trans kept

end Evaluate

open Evaluate

theorem Engine.isPure_native (engine : Engine) (data : DataSource) (id : NodeId)
    (row? : Option RowId) : IsPure data engine.program.id (engine.native id row?) where
  blind := engine.isBlind_evaluateTree data _ row?
  workState run owner name := engine.workState?_evaluateTree _ row? run owner name

theorem Engine.isPure_evaluate (engine : Engine) (data : DataSource) (id : NodeId)
    (row? : Option RowId) : IsPure data engine.program.id (engine.evaluate id row?) :=
  (engine.isPure_native data id row?).bind fun _ => isPure_of_run_eq fun _ => rfl

theorem Column.isPure_isHidden (column : Column) (engine : Engine) (data : DataSource)
    (row? : Option RowId) : IsPure data engine.program.id (column.isHidden engine row?) := by
  rw [isHidden]
  cases column.hidden with
  | none => exact isPure_of_run_eq fun _ => rfl
  | some id =>
      exact (engine.isPure_native data id row?).bind fun value =>
        isPure_of_run_eq (run_conversion value.toBoolean)

/-- Whether a run with layout goes along with one without. Both are at the same place and keep the
same for aggregates, and columns have stored their positions. -/
structure Progress.Beside (report : Report) (dataSet : DataSet) (placed : List (Column × Float))
    (other progress : Progress) : Prop where
  position : progress.position? = other.position?
  runs : Run.Resemble dataSet.source report.engine.program.id progress.run other.run
  held : ∀ entry ∈ placed,
    progress.run.workState? entry.1.owner Column.positionName = some (.float64 entry.2)

namespace Step

variable {report : Report} {dataSet : DataSet} {placed : List (Column × Float)}

theorem mirrors_evaluate {action : Evaluate α}
    (isPure : IsPure dataSet.source report.engine.program.id action) :
    (Step.evaluate action).Mirrors (Progress.Beside report dataSet placed) (Step.evaluate action)
      fun given made other progress => given = made ∧
        Progress.Beside report dataSet placed other progress := by
  intro other progress beside
  rcases isPure.blind progress.run other.run beside.runs with ⟨result, runs⟩
  have workState := isPure.workState progress.run
  rw [run_evaluate, run_evaluate]
  rcases otherEqual : action.run other.run with ⟨otherResult, otherAfter⟩
  rcases equal : action.run progress.run with ⟨ownResult, after⟩
  rw [otherEqual, equal] at result runs
  rw [equal] at workState
  cases result
  cases otherResult with
  | error error => rfl
  | ok value =>
      refine ⟨value, { progress with run := after }, rfl, rfl, beside.position, runs, ?_⟩
      intro entry member
      exact (workState _ _).trans (beside.held entry member)

theorem mirrors_enter (boundary : Boundary) (group : Nat) (row? : Option RowId) :
    (Step.enter dataSet boundary group row?).Mirrors (Progress.Beside report dataSet placed)
      (Step.enter dataSet boundary group row?)
      fun _ _ => Progress.Beside report dataSet placed := by
  intro other progress beside
  refine ⟨(), _, rfl, rfl, ?_, ?_⟩
  · dsimp only
    rw [beside.position]
    split
    · exact beside.runs.cross boundary
    · exact beside.runs
  · intro entry member
    dsimp only
    split
    · exact (Run.workState?_cross _ boundary _ _).trans (beside.held entry member)
    · exact beside.held entry member

theorem gives_setPosition {column : Column} (position : Float)
    (own : column.owner ∉ placed.map fun entry => entry.1.owner) (other : Progress) :
    Step.Gives (modify fun progress =>
        { progress with run := column.setPosition position progress.run })
      (Progress.Beside report dataSet placed other) (.ok ())
      (Progress.Beside report dataSet ((column, position) :: placed) other) := by
  intro progress beside
  refine ⟨(), _, rfl, rfl, beside.position, beside.runs.setWorkState _ _ _, ?_⟩
  intro entry member
  rcases List.mem_cons.mp member with rfl | old
  · exact Cache.peek?_store _ _ _
  · have different : Slot.workState entry.1.owner Column.positionName ≠
        .workState column.owner Column.positionName := by
      intro same
      exact own ((Slot.workState.inj same).1 ▸ List.mem_map_of_mem old)
    exact (Cache.peek?_store_of_ne different).trans (beside.held entry old)

end Step

namespace Report

section

variable {report : Report} {dataSet : DataSet} {placed : List (Column × Float)}

/-! ## Layout beside evaluation -/

theorem mirrors_layOut (row? : Option RowId) {columns : List Column}
    (free : Column.OwnersFree (placed.map fun entry => entry.1.owner) columns)
    (position : Float) :
    (report.layOut row? position columns).Mirrors (Progress.Beside report dataSet placed)
      (columns.mapM fun column => Step.evaluate (column.isHidden report.engine row?))
      fun visible hidden other progress => visible = visibleOf columns hidden ∧
        Progress.Beside report dataSet (Column.placed position visible ++ placed) other
          progress := by
  induction columns generalizing position placed with
  | nil => exact Step.mirrors_pure fun _ _ beside => ⟨rfl, beside⟩
  | cons column rest induction =>
      rw [layOut, List.mapM_cons]
      apply (Step.mirrors_evaluate
        (column.isPure_isHidden report.engine dataSet.source row?)).bind_image
      intro isHidden
      cases isHidden with
      | true =>
          rw [if_pos rfl]
          exact (induction free.skip position).returns fun _ _ _ _ laidOut => laidOut
      | false =>
          rw [if_neg Bool.false_ne_true]
          apply Step.Mirrors.after_silent fun other =>
            Step.gives_setPosition position free.own other
          have stillFree : Column.OwnersFree
              (((column, position) :: placed).map fun entry => entry.1.owner) rest := free.take
          apply (induction stillFree (position + column.width)).bind
          intro visible hidden
          apply Step.mirrors_pure
          rintro other progress ⟨rfl, beside⟩
          refine ⟨rfl, beside.position, beside.runs, fun entry member => ?_⟩
          exact beside.held entry (List.perm_middle.mem_iff.mpr member)

/-! ## Cells beside values -/

theorem mirrors_rowCells (row : RowId) (columns : List Column) (cells : Cells) :
    (report.rowCells row cells columns).Mirrors (Progress.Beside report dataSet placed)
      (report.evaluateRow row columns)
      fun given values other progress =>
        given = cells.putValues columns (values.map some) ∧
          Progress.Beside report dataSet placed other progress := by
  induction columns generalizing cells with
  | nil => exact Step.mirrors_pure fun _ _ beside => ⟨rfl, beside⟩
  | cons column rest induction =>
      rw [rowCells, evaluateRow, List.mapM_cons]
      apply (Step.mirrors_evaluate
        (report.engine.isPure_evaluate dataSet.source column.value (some row))).bind_image
      intro value
      exact (induction (cells.put column.name value.toJson)).returns fun _ _ _ _ same => same

theorem mirrors_footerCells (row? : Option RowId) (columns : List Column) (cells : Cells) :
    (report.footerCells row? cells columns).Mirrors (Progress.Beside report dataSet placed)
      (columns.mapM (report.evaluateFooter row?))
      fun given values other progress =>
        given = cells.putValues columns values ∧
          Progress.Beside report dataSet placed other progress := by
  induction columns generalizing cells with
  | nil => exact Step.mirrors_pure fun _ _ beside => ⟨rfl, beside⟩
  | cons column rest induction =>
      rw [footerCells, List.mapM_cons, evaluateFooter]
      cases column.footer with
      | none =>
          rw [pure_bind]
          exact (induction cells).returns fun _ _ _ _ same => same
      | some id =>
          dsimp only
          rw [map_eq_pure_bind, bind_assoc]
          apply (Step.mirrors_evaluate
            (report.engine.isPure_evaluate dataSet.source id row?)).bind_image
          intro value
          rw [pure_bind]
          exact (induction (cells.put column.name value.toJson)).returns fun _ _ _ _ same => same

theorem mirrors_rowsCells (boundary : Boundary) (group : Nat) (visible : List Column)
    (rows : List RowId) :
    (report.rowsCells (fun row => Step.enter dataSet boundary group (some row)) visible
      rows).Mirrors (Progress.Beside report dataSet placed)
      (rows.mapM fun row => do
        Step.enter dataSet boundary group (some row)
        report.evaluateRow row visible)
      fun given values other progress =>
        given = values.map (fun row => Cells.putValues [] visible (row.map some)) ∧
          Progress.Beside report dataSet placed other progress := by
  induction rows with
  | nil => exact Step.mirrors_pure fun _ _ beside => ⟨rfl, beside⟩
  | cons row rest induction =>
      rw [rowsCells, List.mapM_cons, bind_assoc]
      apply (Step.mirrors_enter boundary group (some row)).bind
      intro _ _
      apply (mirrors_rowCells row visible []).bind_image
      intro values
      apply induction.bind_image
      intro others
      exact Step.mirrors_pure fun _ _ beside => ⟨rfl, beside⟩

/-! ## Groups -/

theorem mirrors_table (boundary : Boundary) (group : Nat) (rows : List RowId)
    (hidden : List Bool) (columns : List ColumnLayout)
    (laidOut : columns = (Column.placed (Binary64.zero false)
      (visibleOf report.columns hidden)).map fun entry =>
        ⟨entry.1.name, Column.shown entry.2⟩) :
    Step.Mirrors (do
        let cells ← report.rowsCells (fun row => Step.enter dataSet boundary group (some row))
          (visibleOf report.columns hidden) rows
        Step.enter dataSet boundary group rows.head?
        let footer ← report.footerCells rows.head? [] (visibleOf report.columns hidden)
        return { columns, rows := cells, footer : GroupOutput })
      (Progress.Beside report dataSet placed)
      (do
        let values ← rows.mapM fun row => do
          Step.enter dataSet boundary group (some row)
          report.evaluateRow row (visibleOf report.columns hidden)
        Step.enter dataSet boundary group rows.head?
        let footers ← (visibleOf report.columns hidden).mapM
          (report.evaluateFooter rows.head?)
        return { hidden, rows := values, footers : GroupValues })
      fun table values other progress => table = values.table report.columns ∧
        Progress.Beside report dataSet placed other progress := by
  apply (mirrors_rowsCells boundary group _ rows).bind_image
  intro values
  apply (Step.mirrors_enter boundary group rows.head?).bind
  intro _ _
  apply (mirrors_footerCells rows.head? _ []).bind_image
  intro footers
  apply Step.mirrors_pure
  intro other progress beside
  rw [laidOut]
  exact ⟨rfl, beside⟩

theorem map_fst_placed (position : Float) (columns : List Column) :
    (Column.placed position columns).map Prod.fst = columns := by
  induction columns generalizing position with
  | nil => rfl
  | cons column rest induction => rw [Column.placed, List.map_cons, induction]

theorem layout_eq {visible : List Column} {position : Float} {other progress : Progress}
    (beside : Progress.Beside report dataSet (Column.placed position visible) other progress) :
    visible.map (fun column => (⟨column.name, column.position progress.run⟩ : ColumnLayout)) =
      (Column.placed position visible).map fun entry => ⟨entry.1.name, Column.shown entry.2⟩ := by
  conv_lhs => rw [← map_fst_placed position visible, List.map_map]
  apply List.map_congr_left
  intro entry member
  exact congrArg _ (position_eq_shown (beside.held entry member))

theorem mirrors_runGroup (distinct : (report.columns.map Column.owner).Nodup)
    (boundary : Boundary) (group : Nat) (rows : List RowId) :
    (report.runGroup dataSet boundary group rows).Mirrors (Progress.Beside report dataSet [])
      (report.evaluateGroup dataSet boundary group rows)
      fun table values other progress => table = values.table report.columns ∧
        Progress.Beside report dataSet [] other progress := by
  rw [runGroup, evaluateGroup]
  apply (Step.mirrors_enter boundary group rows.head?).bind
  intro _ _
  apply (mirrors_layOut rows.head? ⟨distinct, List.forall_mem_nil _⟩ (Binary64.zero false)).bind
  rintro visible hidden other progress ⟨rfl, beside⟩
  rw [List.append_nil] at beside
  have somewhere : Progress.Beside report dataSet [] other progress :=
    ⟨beside.position, beside.runs, List.forall_mem_nil _⟩
  exact mirrors_table boundary group rows hidden _ (layout_eq beside) other progress somewhere

theorem mirrors_runGroups (distinct : (report.columns.map Column.owner).Nodup)
    (boundary : Boundary) (group : Nat) (groups : List (List RowId)) :
    (report.runGroups dataSet boundary group groups).Mirrors (Progress.Beside report dataSet [])
      (report.evaluateGroups dataSet boundary group groups)
      fun tables values other progress => tables = values.map (·.table report.columns) ∧
        Progress.Beside report dataSet [] other progress := by
  induction groups generalizing group with
  | nil => exact Step.mirrors_pure fun _ _ beside => ⟨rfl, beside⟩
  | cons rows rest induction =>
      rw [runGroups, evaluateGroups]
      apply (mirrors_runGroup distinct boundary group rows).bind_image
      intro values
      apply (induction (group + 1)).bind_image
      intro others
      exact Step.mirrors_pure fun _ _ beside => ⟨rfl, beside⟩

end

theorem evaluateOver_of_groups {report : Report} {dataSet : DataSet}
    {groups : List (List RowId)} (found : report.groups dataSet = .ok groups) :
    report.evaluateOver dataSet =
      match report.evaluateGroups dataSet report.boundary 0 groups
        ⟨.start dataSet.source, none⟩ with
      | .error error => .error (.evaluation error)
      | .ok (values, _) => .ok values := by
  rw [evaluateOver, found]
  rfl

/-- A run of a report whose columns store under names of their own gives the tables of what is
evaluated without any layout, or fails as this does. -/
theorem groups_runOver {report : Report} (distinct : (report.columns.map Column.owner).Nodup)
    (dataSet : DataSet) :
    (report.runOver dataSet).map ReportOutput.groups =
      (report.evaluateOver dataSet).map fun values =>
        values.map fun group => group.table report.columns := by
  cases found : report.groups dataSet with
  | error error =>
      rw [runOver, evaluateOver, found]
      rfl
  | ok groups =>
      have start : Progress.Beside report dataSet [] ⟨.start dataSet.source, none⟩
          ⟨.start dataSet.source, none⟩ :=
        ⟨rfl, ⟨.start .., .start .., fun _ => rfl⟩, List.forall_mem_nil _⟩
      have mirrors := mirrors_runGroups distinct report.boundary 0 groups _ _ start
      rw [runOver_of_groups found, evaluateOver_of_groups found]
      cases evaluated : report.evaluateGroups dataSet report.boundary 0 groups
          ⟨.start dataSet.source, none⟩ with
      | error error =>
          rw [evaluated] at mirrors
          dsimp only at mirrors
          rw [mirrors]
          rfl
      | ok made =>
          rw [evaluated] at mirrors
          rcases mirrors with ⟨tables, left, equal, rfl, _⟩
          rw [equal]
          rfl

end Report

theorem GroupValues.names_eq_visible (values : GroupValues) (columns : List Column) :
    (values.table columns).columns.map ColumnLayout.name =
      (visibleOf columns values.hidden).map Column.name := by
  conv_rhs => rw [← Report.map_fst_placed (Binary64.zero false) (visibleOf columns values.hidden)]
  rw [table, List.map_map, List.map_map]
  rfl

end GroupedReport
