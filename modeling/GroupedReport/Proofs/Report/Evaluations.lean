import GroupedReport.Proofs.Data.Partition
import GroupedReport.Proofs.Evaluation.Failures
import GroupedReport.Proofs.Evaluation.Reached
import GroupedReport.Proofs.Report.Values

/-!
# The evaluations of a report

What is evaluated for a group comes from its rows: its first row says which columns are hidden,
every visible column has a value in every row, and a footer is seen from the first row again. All of
these evaluations are made in runs that can come about. Where one of them fails, so does the report.
-/

namespace GroupedReport

open Expression

/-- Whether an evaluation gives a value in some run of which something holds. -/
def Evaluate.MayGive (action : Evaluate α) (holds : Run → Prop) (value : α) : Prop :=
  ∃ before after, holds before ∧ action.run before = (.ok value, after)

/-! ## Steps that keep something of the run -/

namespace Step

/-- Whether a step gives a value of some form and leaves a run that has an invariant again, or
fails with an admitted error. -/
def Ensures (step : Step α) (invariant : Run → Prop) (admitted : EvaluationError → Prop)
    (form : α → Prop) : Prop :=
  ∀ progress : Progress, invariant progress.run →
    match step progress with
    | .ok (value, left) => form value ∧ invariant left.run
    | .error error => admitted error

variable {invariant : Run → Prop} {admitted : EvaluationError → Prop}

theorem ensures_pure {form : α → Prop} {value : α} (holds : form value) :
    Ensures (pure value) invariant admitted form :=
  fun _ kept => ⟨holds, kept⟩

theorem Ensures.bind {form : α → Prop} {final : β → Prop} {step : Step α} {next : α → Step β}
    (first : step.Ensures invariant admitted form)
    (second : ∀ value, form value → (next value).Ensures invariant admitted final) :
    (step >>= next).Ensures invariant admitted final := by
  intro progress kept
  have ensures := first progress kept
  rw [run_bind]
  cases equal : step progress with
  | error error =>
      rw [equal] at ensures
      exact ensures
  | ok result =>
      rw [equal] at ensures
      exact second result.1 ensures.1 result.2 ensures.2

theorem Ensures.weaken {form weaker : α → Prop} {step : Step α}
    (ensures : step.Ensures invariant admitted form)
    (implies : ∀ value, form value → weaker value) :
    step.Ensures invariant admitted weaker := by
  intro progress kept
  have result := ensures progress kept
  cases equal : step progress with
  | error error =>
      rw [equal] at result
      exact result
  | ok given =>
      rw [equal] at result
      exact ⟨implies given.1 result.1, result.2⟩

theorem ensures_mapM {form : α → β → Prop} {action : α → Step β} {items : List α}
    (each : ∀ item ∈ items, (action item).Ensures invariant admitted (form item)) :
    (items.mapM action).Ensures invariant admitted (List.Forall₂ form items) := by
  induction items with
  | nil => exact ensures_pure .nil
  | cons item rest induction =>
      rw [List.forall_mem_cons] at each
      rw [List.mapM_cons]
      apply each.1.bind
      intro value holds
      apply (induction each.2).bind
      intro others hold
      exact ensures_pure (.cons holds hold)

theorem ensures_evaluate {action : Evaluate α}
    (ensures : action.Ensures invariant (Evaluate.FailsOnly admitted)) :
    (Step.evaluate action).Ensures invariant admitted (action.MayGive invariant) := by
  intro progress kept
  rcases ensures progress.run kept with ⟨fails, still⟩
  rw [run_evaluate]
  rcases equal : action.run progress.run with ⟨error | value, after⟩ <;> rw [equal] at fails still
  · exact fails error rfl
  · exact ⟨⟨progress.run, after, kept, equal⟩, still⟩

end Step

/-! ## What a group evaluates to -/

/-- Whether a column is hidden as its predicate says, seen from a row. A column without one is
not. -/
def Column.Hides (column : Column) (engine : Engine) (holds : Run → Prop) (row? : Option RowId)
    (isHidden : Bool) : Prop :=
  match column.hidden with
  | none => isHidden = false
  | some id => ∃ value : Value,
      (engine.native id row?).MayGive holds value ∧ value.toBoolean = .ok isHidden

def Report.EvaluatesRow (report : Report) (holds : Run → Prop) (visible : List Column)
    (row : RowId) : List Value → Prop :=
  List.Forall₂ (fun column value =>
    (report.engine.evaluate column.value (some row)).MayGive holds value) visible

/-- Whether values are what a group evaluates to, in runs of which something holds. -/
structure Report.Evaluates (report : Report) (holds : Run → Prop) (group : List RowId)
    (values : GroupValues) : Prop where
  hidden : List.Forall₂ (fun column isHidden =>
      column.Hides report.engine holds group.head? isHidden) report.columns values.hidden
  rows : List.Forall₂ (report.EvaluatesRow holds (visibleOf report.columns values.hidden))
    group values.rows
  footers : List.Forall₂ (fun column value? => Option.Rel (fun id value =>
      (report.engine.evaluate id group.head?).MayGive holds value) column.footer value?)
    (visibleOf report.columns values.hidden) values.footers

/-- Whether values are those of a group of rows: every column is hidden or not, and each visible one
has a value in each row and one for its footer if it has a footer. -/
structure GroupValues.Fits (columns : List Column) (rows : List RowId) (values : GroupValues) :
    Prop where
  hidden : values.hidden.length = columns.length
  rows : values.rows.length = rows.length
  row : ∀ row ∈ values.rows, row.length = (visibleOf columns values.hidden).length
  footers : List.Forall₂ (fun column value? => value?.isSome = column.footer.isSome)
    (visibleOf columns values.hidden) values.footers

theorem forall_mem_of_forall₂ {form : β → Prop} {items : List α} {values : List β}
    (each : List.Forall₂ (fun _ => form) items values) : ∀ value ∈ values, form value := by
  induction each with
  | nil => exact List.forall_mem_nil _
  | cons holds _ induction => exact List.forall_mem_cons.mpr ⟨holds, induction⟩

theorem Report.Evaluates.fits {report : Report} {holds : Run → Prop} {rows : List RowId}
    {values : GroupValues} (evaluates : report.Evaluates holds rows values) :
    values.Fits report.columns rows where
  hidden := evaluates.hidden.length_eq.symm
  rows := evaluates.rows.length_eq.symm
  row := forall_mem_of_forall₂ (evaluates.rows.imp fun _ _ each => each.length_eq.symm)
  footers := evaluates.footers.imp fun column _ related => by
    generalize column.footer = footer at related
    cases related <;> rfl

namespace Report

/-! ## Runs of a report -/

open Evaluate

/-- What a run of a report relies on: its evaluations at present rows keep an invariant and fail
with admitted errors only, and the invariant outlasts leaving a group. -/
structure Runs (report : Report) (present : RowId → Prop) (invariant : Run → Prop)
    (admitted : EvaluationError → Prop) : Prop where
  native {root : NodeId} {row? : Option RowId} : root ∈ report.roots →
    (∀ row ∈ row?, present row) →
      (report.engine.native root row?).Ensures invariant (FailsOnly admitted)
  converts (error : CoercionError) : admitted (.conversion error)
  cross {run : Run} : invariant run → invariant (run.cross report.boundary)

theorem runs_reached (report : Report) (data : DataSource) :
    report.Runs (fun _ => True) (Run.Reached report.engine.program data) fun _ => True where
  native {root row?} _ _ run reached := by
    have step : run.Step report.engine.program _ :=
      .evaluate report.engine.options .object root row?
    rw [Engine.run_evaluateAs_snd] at step
    exact ⟨fun _ _ => trivial, .step reached step⟩
  converts _ := trivial
  cross reached := .step reached (.cross _)

namespace Runs

variable {report : Report} {present : RowId → Prop} {invariant : Run → Prop}
  {admitted : EvaluationError → Prop} (runs : report.Runs present invariant admitted)
  {dataSet : DataSet}
include runs

theorem ensures_enter (group : Nat) (row? : Option RowId) :
    (Step.enter dataSet report.boundary group row?).Ensures invariant admitted fun _ => True := by
  intro progress kept
  refine ⟨trivial, ?_⟩
  dsimp only
  split
  · exact runs.cross kept
  · exact kept

section

variable {row? : Option RowId} (known : ∀ row ∈ row?, present row)
include known

theorem ensures_value {root : NodeId} (isRoot : root ∈ report.roots) :
    (Step.evaluate (report.engine.evaluate root row?)).Ensures invariant admitted
      ((report.engine.evaluate root row?).MayGive invariant) := by
  apply Step.ensures_evaluate
  apply (runs.native isRoot known).bind_admitted
  intro value
  exact ensures_pure failsOnly_ok

theorem ensures_isHidden {column : Column} (member : column ∈ report.columns) :
    (Step.evaluate (column.isHidden report.engine row?)).Ensures invariant admitted
      (column.Hides report.engine invariant row?) := by
  rw [Column.isHidden]
  unfold Column.Hides
  cases hidden : column.hidden with
  | none => exact fun _ kept => ⟨rfl, kept⟩
  | some root =>
      have isRoot : root ∈ report.roots := mem_roots member (by simp [Column.roots, hidden])
      have ensures : (do
          let value ← report.engine.native root row?
          conversion value.toBoolean).Ensures invariant (FailsOnly admitted) :=
        (runs.native isRoot known).bind_admitted fun value =>
          ensures_conversion (failsOnly_mapError runs.converts)
      apply (Step.ensures_evaluate ensures).weaken
      rintro isHidden ⟨before, after, kept, gives⟩
      -- The predicate has a value in that run, and this value is the one that was converted.
      rw [run_bind] at gives
      rcases equal : (report.engine.native root row?).run before with ⟨_ | value, between⟩ <;>
        rw [equal] at gives
      · cases gives
      · dsimp only at gives
        rw [run_conversion] at gives
        exact ⟨value, ⟨before, between, kept, equal⟩,
          Result.mapError_eq_ok (congrArg Prod.fst gives)⟩

theorem ensures_evaluateFooter {column : Column} (member : column ∈ report.columns) :
    (report.evaluateFooter row? column).Ensures invariant admitted
      (Option.Rel (fun id value => (report.engine.evaluate id row?).MayGive invariant value)
        column.footer) := by
  rw [evaluateFooter]
  cases footer : column.footer with
  | none => exact Step.ensures_pure .none
  | some root =>
      have isRoot : root ∈ report.roots := mem_roots member (by simp [Column.roots, footer])
      dsimp only
      rw [map_eq_pure_bind]
      exact (runs.ensures_value known isRoot).bind fun _ gives => Step.ensures_pure (.some gives)

end

theorem ensures_evaluateRow {row : RowId} (known : present row) {visible : List Column}
    (all : visible ⊆ report.columns) :
    (report.evaluateRow row visible).Ensures invariant admitted
      (report.EvaluatesRow invariant visible row) := by
  apply Step.ensures_mapM
  intro column member
  refine runs.ensures_value ?_ (mem_roots (all member) List.mem_cons_self)
  intro other isRow
  cases isRow
  exact known

theorem ensures_evaluateGroup (group : Nat) {rows : List RowId}
    (known : ∀ row ∈ rows, present row) :
    (report.evaluateGroup dataSet report.boundary group rows).Ensures invariant admitted
      (report.Evaluates invariant rows) := by
  have first : ∀ row ∈ rows.head?, present row :=
    fun row isFirst => known row (List.mem_of_head? isFirst)
  rw [evaluateGroup]
  apply (runs.ensures_enter group rows.head?).bind
  intro _ _
  apply (Step.ensures_mapM fun column => runs.ensures_isHidden first).bind
  intro hidden hides
  have visible := (visibleOf_sublist report.columns hidden).subset
  have rowOf : ∀ row ∈ rows, (do
      Step.enter dataSet report.boundary group (some row)
      report.evaluateRow row (visibleOf report.columns hidden)).Ensures invariant admitted
        (report.EvaluatesRow invariant (visibleOf report.columns hidden) row) :=
    fun row member => (runs.ensures_enter group (some row)).bind fun _ _ =>
      runs.ensures_evaluateRow (known row member) visible
  apply (Step.ensures_mapM rowOf).bind
  intro values each
  apply (runs.ensures_enter group rows.head?).bind
  intro _ _
  apply (Step.ensures_mapM fun column member =>
    runs.ensures_evaluateFooter first (visible member)).bind
  intro footers seen
  exact Step.ensures_pure ⟨hides, each, seen⟩

theorem ensures_evaluateGroups (group : Nat) {groups : List (List RowId)}
    (known : ∀ rows ∈ groups, ∀ row ∈ rows, present row) :
    (report.evaluateGroups dataSet report.boundary group groups).Ensures invariant admitted
      (List.Forall₂ (report.Evaluates invariant) groups) := by
  induction groups generalizing group with
  | nil => exact Step.ensures_pure .nil
  | cons rows rest induction =>
      rw [List.forall_mem_cons] at known
      rw [evaluateGroups]
      apply (runs.ensures_evaluateGroup group known.1).bind
      intro values evaluates
      apply (induction (group + 1) known.2).bind
      intro others evaluate
      exact Step.ensures_pure (.cons evaluates evaluate)

theorem evaluateOver (start : invariant (.start dataSet.source)) {groups : List (List RowId)}
    (found : report.groups dataSet = .ok groups)
    (known : ∀ rows ∈ groups, ∀ row ∈ rows, present row) :
    (∃ values, report.evaluateOver dataSet = .ok values ∧
      List.Forall₂ (report.Evaluates invariant) groups values) ∨
    ∃ error, report.evaluateOver dataSet = .error (.evaluation error) ∧ admitted error := by
  have evaluates : (report.evaluateGroups dataSet report.boundary 0 groups).Ensures invariant
      admitted (List.Forall₂ (report.Evaluates invariant) groups) :=
    runs.ensures_evaluateGroups 0 known
  have ensures := evaluates ⟨.start dataSet.source, none⟩ start
  rw [evaluateOver_of_groups found]
  rcases equal : report.evaluateGroups dataSet report.boundary 0 groups
    ⟨.start dataSet.source, none⟩ with error | ⟨values, progress⟩ <;> rw [equal] at ensures
  · exact .inr ⟨error, rfl, ensures⟩
  · exact .inl ⟨values, rfl, ensures.1⟩

end Runs

theorem evaluates_evaluateOver {report : Report} {dataSet : DataSet} {values : List GroupValues}
    (evaluated : report.evaluateOver dataSet = .ok values) :
    ∃ groups, report.groups dataSet = .ok groups ∧
      List.Forall₂ (report.Evaluates (Run.Reached report.engine.program dataSet.source))
        groups values := by
  rcases Result.bind_eq_ok evaluated with ⟨groups, found, _⟩
  rcases (report.runs_reached dataSet.source).evaluateOver .start found fun _ _ _ _ => trivial with
    ⟨given, same, evaluates⟩ | ⟨error, fails, _⟩
  · cases evaluated.symm.trans same
    exact ⟨groups, found, evaluates⟩
  · cases evaluated.symm.trans fails

theorem groups_cover {report : Report} {dataSet : DataSet}
    (partitions : ∀ entry ∈ dataSet.groupings, entry.2.Partitions dataSet.rows)
    {groups : List (List RowId)} (found : report.groups dataSet = .ok groups) :
    groups.flatten.Perm (List.range dataSet.rows.length) := by
  rw [Report.groups] at found
  split at found
  · cases found
    rw [List.flatten_singleton]
    exact List.Perm.refl _
  · split at found
    · rename_i grouped
      cases found
      rcases Option.map_eq_some_iff.mp grouped with ⟨grouping, isFound, rfl⟩
      rcases Option.map_eq_some_iff.mp isFound with ⟨entry, first, rfl⟩
      rw [← List.flatMap_def]
      exact (partitions entry (List.mem_of_find?_eq_some first)).covers
    · cases found

end Report

end GroupedReport
