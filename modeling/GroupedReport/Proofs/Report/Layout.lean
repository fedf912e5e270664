import GroupedReport.Proofs.Json.Finite
import GroupedReport.Proofs.Report.Evaluations

/-!
# Where columns begin

A table lists the columns that its own group does not hide, in the order of the definition. Each
begins where those before it end, so its position is a sum of their widths. Positions are stored
next to the values of aggregates, but nothing that is evaluated, kept or dropped changes them, nor
does what other groups hide.
-/

namespace GroupedReport

open Expression

/-! ## Columns of a definition -/

/-- The width that a column takes up; one without a width takes up nothing. -/
def Definition.Column.extent (column : Definition.Column) : Float :=
  column.width.getD (Binary64.zero false)

theorem Definition.Column.isFinite_extent {document : Json.Document} (finite : document.IsFinite)
    {column : Definition.Column} (read : ofDocument? document = some column) :
    Binary64.isFinite column.extent = true := by
  rcases Option.bind_eq_some_iff.mp read with ⟨parts, isRecord, read⟩
  rcases Option.bind_eq_some_iff.mp read with ⟨name, _, read⟩
  rcases Option.bind_eq_some_iff.mp read with ⟨width?, isWidth, read⟩
  have same : column.width = width? := by
    rcases Option.bind_eq_some_iff.mp read with ⟨value, _, read⟩
    rcases Option.bind_eq_some_iff.mp read with ⟨footer, _, read⟩
    rcases Option.bind_eq_some_iff.mp read with ⟨hidden, _, read⟩
    rcases Option.bind_eq_some_iff.mp read with ⟨fixedHeader, _, read⟩
    cases read
    rfl
  rw [extent, same]
  rw [Json.Parts.optional] at isWidth
  split at isWidth
  · rename_i part found
    have bounded := (finite.part isRecord found).nullable_float? isWidth
    cases width? with
    | none => rfl
    | some width => exact bounded width rfl
  · split at isWidth
    · cases isWidth
      rfl
    · cases isWidth

theorem Definition.Report.isFinite_extent {text : String} {definition : Definition.Report}
    (read : read? text = some definition) {column : Definition.Column}
    (member : column ∈ definition.columns) : Binary64.isFinite column.extent = true := by
  rcases Option.bind_eq_some_iff.mp read with ⟨document, isDocument, read⟩
  have finite := Json.Document.isFinite_of_read? isDocument
  rcases Option.bind_eq_some_iff.mp read with ⟨parts, isRecord, read⟩
  rcases Option.bind_eq_some_iff.mp read with ⟨name, _, read⟩
  rcases Option.bind_eq_some_iff.mp read with ⟨dataSet, _, read⟩
  rcases Option.bind_eq_some_iff.mp read with ⟨options, _, read⟩
  rcases Option.bind_eq_some_iff.mp read with ⟨group, _, read⟩
  rcases Option.bind_eq_some_iff.mp read with ⟨columns, areColumns, read⟩
  rcases Option.bind_eq_some_iff.mp read with ⟨rows, _, read⟩
  cases read
  rw [Json.Parts.defaulted] at areColumns
  split at areColumns
  · rename_i part found
    rcases (finite.part isRecord found).element areColumns member with ⟨element, isFinite, reads⟩
    exact Definition.Column.isFinite_extent isFinite reads
  · cases areColumns
    cases member

namespace Column

def heading (column : Column) : String × Float :=
  (column.name, column.width)

theorem heading_build (fields : Fields) (index : Nat) (definition : Definition.Column)
    (builder : Builder) :
    ((build fields index definition).run builder).1.heading =
      (definition.name, definition.extent) := by
  have width : ((buildWidth definition.width).run builder).1 = definition.extent := by
    rw [Definition.Column.extent]
    cases definition.width <;> rfl
  exact congrArg (Prod.mk definition.name) width

theorem headings_buildFrom (fields : Fields) (index : Nat) (definitions : List Definition.Column)
    (builder : Builder) :
    ((buildFrom fields index definitions).run builder).1.map heading =
      definitions.map fun definition => (definition.name, definition.extent) := by
  induction definitions generalizing index builder with
  | nil => rfl
  | cons definition rest induction =>
      rw [buildFrom, Build.run_bind, Build.run_bind, List.map_cons,
        ← heading_build fields index definition builder,
        ← induction (index + 1) ((build fields index definition).run builder).2]
      rfl

theorem headings_foldAll (columns : List Column) (builder : Builder) :
    ((columns.mapM fold).run builder).1.map heading = columns.map heading := by
  induction columns generalizing builder with
  | nil => rfl
  | cons column rest induction =>
      rw [List.mapM_cons, Build.run_bind, List.map_cons,
        ← induction ((fold column).run builder).2]
      rfl

end Column

theorem Report.headings_ofDefinition (options : Options) (definition : Definition.Report) :
    (ofDefinition options definition).columns.map Column.heading =
      definition.columns.map fun column => (column.name, column.extent) := by
  change ((buildColumns _ options.foldConstants definition.columns).run {}).1.map
    Column.heading = _
  rw [buildColumns, Build.run_bind]
  cases options.foldConstants with
  | false => exact Column.headings_buildFrom _ 0 definition.columns {}
  | true =>
      rw [if_pos rfl, Column.headings_foldAll]
      exact Column.headings_buildFrom _ 0 definition.columns {}

/-! ## Sums of widths -/

/-- Where some columns end that are laid out from zero on, one behind the other. -/
def Definition.Column.endOf (columns : List Definition.Column) : Float :=
  (columns.map extent).foldl (· + ·) (Binary64.zero false)

theorem Binary64.isNaN_foldl_add {widths : List Float}
    (finite : ∀ width ∈ widths, isFinite width = true) {start : Float}
    (isNumber : start.isNaN = false) : (widths.foldl (· + ·) start).isNaN = false := by
  induction widths generalizing start with
  | nil => exact isNumber
  | cons width rest induction =>
      rw [List.forall_mem_cons] at finite
      exact induction finite.2 (isNaN_add_of_isFinite isNumber finite.1)

theorem Definition.Column.isNaN_endOf {columns : List Definition.Column}
    (finite : ∀ column ∈ columns, Binary64.isFinite column.extent = true) :
    (endOf columns).isNaN = false := by
  refine Binary64.isNaN_foldl_add ?_ rfl
  intro width member
  rcases List.mem_map.mp member with ⟨column, isColumn, rfl⟩
  exact finite column isColumn

theorem Column.getElem?_placed (columns : List Column) (position : Float) (index : Nat) :
    (placed position columns)[index]? = columns[index]?.map fun column =>
      (column, ((columns.take index).map width).foldl (· + ·) position) := by
  induction columns generalizing position index with
  | nil => rfl
  | cons column rest induction =>
      cases index with
      | zero => rfl
      | succ index => exact induction (position + column.width) index

/-! ## Tables -/

namespace GroupValues

variable {columns : List Column} {definitions : List Definition.Column}
  (headings : columns.map Column.heading =
    definitions.map fun definition => (definition.name, definition.extent))
  (values : GroupValues)
include headings

theorem headings_visible :
    (visibleOf columns values.hidden).map Column.heading =
      (visibleOf definitions values.hidden).map fun definition =>
        (definition.name, definition.extent) := by
  rw [map_visibleOf, headings, ← map_visibleOf]

theorem names_table :
    (values.table columns).columns.map ColumnLayout.name =
      (visibleOf definitions values.hidden).map Definition.Column.name := by
  have names := congrArg (List.map Prod.fst) (values.headings_visible headings)
  rw [List.map_map, List.map_map] at names
  exact (values.names_eq_visible columns).trans names

theorem position_table {index : Nat} {layout : ColumnLayout}
    (listed : (values.table columns).columns[index]? = some layout) :
    layout.position =
      Column.shown
        (Definition.Column.endOf ((visibleOf definitions values.hidden).take index)) := by
  have widths := congrArg (fun headings => (headings.map Prod.snd).take index)
    (values.headings_visible headings)
  simp only [List.map_map, ← List.map_take] at widths
  rw [table, List.getElem?_map, Column.getElem?_placed, Option.map_map] at listed
  rcases Option.map_eq_some_iff.mp listed with ⟨column, _, rfl⟩
  rw [Definition.Column.endOf]
  exact congrArg (fun widths : List Float =>
    Column.shown (widths.foldl (· + ·) (Binary64.zero false))) widths

end GroupValues

theorem Column.shown_of_isNumber {position : Float} (isNumber : position.isNaN = false) :
    shown position = position := by
  rw [shown, isNumber, if_neg Bool.false_ne_true]

/-- Whatever data set a report is run over, the table of each group lists exactly the columns that
are not hidden there, in the order of the definition. The first row of the group says what is
hidden; a group without rows is seen from outside of all rows. Each column begins at the sum of the
widths of those before it, taken from left to right. A sum that is no number is shown as zero, but
this takes a width that is not finite, and no text has such a width. -/
theorem columns_begin_where_visible_ones_end (options : Options) (definition : Definition.Report)
    (dataSet : DataSet) {output : ReportOutput}
    (ran : (Report.ofDefinition options definition).runOver dataSet = .ok output) :
    let report := Report.ofDefinition options definition
    ∃ groups values, report.groups dataSet = .ok groups ∧
      report.evaluateOver dataSet = .ok values ∧
      List.Forall₂ (fun (rows : List RowId) (values : GroupValues) =>
        List.Forall₂ (fun column isHidden => column.Hides report.engine
          (Run.Reached report.engine.program dataSet.source) rows.head? isHidden)
          report.columns values.hidden) groups values ∧
      List.Forall₂ (fun (values : GroupValues) (table : GroupOutput) =>
        values.hidden.length = definition.columns.length ∧
        table.columns.map ColumnLayout.name =
          (visibleOf definition.columns values.hidden).map Definition.Column.name ∧
        ∀ index layout, table.columns[index]? = some layout →
          let before := (visibleOf definition.columns values.hidden).take index
          layout.position = Column.shown (Definition.Column.endOf before) ∧
            ((∃ text, Definition.Report.read? text = some definition) ∨
                (∀ column ∈ before, Binary64.isFinite column.extent = true) →
              layout.position = Definition.Column.endOf before))
        values output.groups := by
  have headings := Report.headings_ofDefinition options definition
  have distinct : ((Report.ofDefinition options definition).columns.map Column.owner).Nodup :=
    Report.owners_buildColumns _ options.foldConstants definition.columns
  have tables := Report.groups_runOver distinct dataSet
  generalize Report.ofDefinition options definition = report at *
  rw [ran] at tables
  rcases Result.map_eq_ok tables.symm with ⟨values, evaluated, made⟩
  rcases Report.evaluates_evaluateOver evaluated with ⟨groups, found, evaluates⟩
  have length := congrArg List.length headings
  rw [List.length_map, List.length_map] at length
  have hidden := forall_mem_of_forall₂ (evaluates.imp fun _ _ each => each.fits.hidden)
  refine ⟨groups, values, found, evaluated, evaluates.imp fun _ _ each => each.hidden, ?_⟩
  rw [made, List.forall₂_map_right_iff, List.forall₂_same]
  intro values member
  refine ⟨(hidden values member).trans length, values.names_table headings, ?_⟩
  intro index layout listed
  have position := values.position_table headings listed
  refine ⟨position, fun bounded => ?_⟩
  have finite : ∀ column ∈ (visibleOf definition.columns values.hidden).take index,
      Binary64.isFinite column.extent = true := by
    rcases bounded with ⟨text, read⟩ | finite
    · intro column isBefore
      exact Definition.Report.isFinite_extent read
        ((visibleOf_sublist _ _).subset (List.mem_of_mem_take isBefore))
    · exact finite
  rw [position]
  exact Column.shown_of_isNumber (Definition.Column.isNaN_endOf finite)

def Definition.Report.salesInWest : Definition.Report :=
  { Definition.Report.sales with
    group := some "Regions"
    columns :=
      [{ name := "region", width := some (Binary64.ofNat 72), value := some (.field "region") },
        { name := "west", width := some (Binary64.ofNat 60), value := some (.field "region")
          hidden := some (.binary "=" (some (.field "region"))
            (some (.literal ⟨.string "East", rfl⟩))) },
        { name := "amount", width := some (Binary64.ofNat 50), value := some (.field "amount") }] }

def twoRegions : DataSet :=
  DataSet.groupBy
    { name := "Sales", columns := ["region", "amount"]
      rows := [[.string "East", .int32 3], [.string "West", .int32 7]] } "Regions" [0]

/-- The amount moves up where the column before it is hidden, and is in its place again in the next
group. -/
theorem amount_moves_up_in_east :
    let report := Report.ofDefinition {} .salesInWest
    ∃ output groups values, report.runOver twoRegions = .ok output ∧
      report.evaluateOver twoRegions = .ok values ∧
      values.map GroupValues.hidden = [[false, true, false], [false, false, false]] ∧
      List.Forall₂ (fun (rows : List RowId) (values : GroupValues) =>
        List.Forall₂ (fun column isHidden => column.Hides report.engine
          (Run.Reached report.engine.program twoRegions.source) rows.head? isHidden)
          report.columns values.hidden) groups values ∧
      output.groups.map GroupOutput.columns =
        [[⟨"region", Binary64.ofNat 0⟩, ⟨"amount", Binary64.ofNat 72⟩],
          [⟨"region", Binary64.ofNat 0⟩, ⟨"west", Binary64.ofNat 72⟩,
            ⟨"amount", Binary64.ofNat 132⟩]] ∧
      List.Forall₂ (fun (values : GroupValues) (table : GroupOutput) =>
        ∀ index layout, table.columns[index]? = some layout →
          layout.position = Definition.Column.endOf
            ((visibleOf Definition.Report.salesInWest.columns values.hidden).take index))
        values output.groups := by
  intro report
  have finite : ∀ column ∈ Definition.Report.salesInWest.columns,
      Binary64.isFinite column.extent = true := by
    decide +kernel
  have hides : (report.evaluateOver twoRegions).toOption.map (List.map GroupValues.hidden) =
      some [[false, true, false], [false, false, false]] := by
    decide +kernel
  have lays : (report.runOver twoRegions).toOption.map
      (fun output => output.groups.map GroupOutput.columns) =
        some [[⟨"region", Binary64.ofNat 0⟩, ⟨"amount", Binary64.ofNat 72⟩],
          [⟨"region", Binary64.ofNat 0⟩, ⟨"west", Binary64.ofNat 72⟩,
            ⟨"amount", Binary64.ofNat 132⟩]] := by
    decide +kernel
  cases ran : report.runOver twoRegions with
  | error error =>
      rw [ran] at lays
      cases lays
  | ok output =>
      rcases columns_begin_where_visible_ones_end {} .salesInWest twoRegions ran with
        ⟨groups, values, _, evaluated, seen, each⟩
      rw [ran] at lays
      rw [evaluated] at hides
      refine ⟨output, groups, values, rfl, evaluated, Option.some.inj hides, seen,
        Option.some.inj lays, ?_⟩
      refine each.imp fun values table holds index layout listed => ?_
      refine (holds.2.2 index layout listed).2 (.inr fun column isBefore => ?_)
      exact finite column ((visibleOf_sublist _ _).subset (List.mem_of_mem_take isBefore))

def Definition.Report.unbounded : Definition.Report :=
  { Definition.Report.sales with
    columns :=
      [{ name := "region"
         width := some (Binary64.infinity false)
         value := some (.field "region") },
        { name := "year", width := some (Binary64.infinity true), value := some (.field "region") },
        { name := "amount", width := some (Binary64.ofNat 1), value := some (.field "amount") }] }

def Definition.Report.hiddenRegion : Definition.Report :=
  { Definition.Report.sales with
    columns :=
      [{ name := "region", width := some (Binary64.ofNat 72), value := some (.field "region")
         hidden := some (.literal ⟨.bool true, rfl⟩) }] }

/-- A column is shown at zero where the widths before it have no sum, and it is hidden in a group
without any row, so without a first one. -/
theorem amount_begins_at_zero :
    ((Report.ofDefinition {} .unbounded).runOver twoRegions).toOption.map
        (fun output => output.groups.map GroupOutput.columns) =
      some [[⟨"region", Binary64.ofNat 0⟩, ⟨"year", Binary64.infinity false⟩,
        ⟨"amount", Binary64.ofNat 0⟩]] ∧
    (Definition.Column.endOf (Definition.Report.unbounded.columns.take 2)).isNaN = true ∧
    ((Report.ofDefinition {} .hiddenRegion).groups { twoRegions with rows := [] }).toOption =
      some [[]] ∧
    ((Report.ofDefinition {} .hiddenRegion).runOver { twoRegions with rows := [] }).toOption.map
        (fun output => output.groups.map GroupOutput.columns) =
      some [[]] :=
  ⟨by decide +kernel, by decide +kernel, by decide +kernel, by decide +kernel⟩

end GroupedReport
