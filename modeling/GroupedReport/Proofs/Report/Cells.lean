import GroupedReport.Proofs.Report.Layout
import GroupedReport.Report.Format

/-!
# What a table shows

The columns of a table are a list, but its cells are kept under names. Of the visible columns of
one name, the last one that has a value is shown: its value is the cell, and the text under every
one of these columns. Where the names differ, every value is shown in its own place.
-/

namespace GroupedReport

namespace Cells

/-! ## Cells under names -/

theorem lookup_cons (name other : String) (cell : Json) (cells : Cells) :
    ((other, cell) :: cells).lookup name =
      if other = name then some cell else cells.lookup name := by
  rw [List.lookup_cons]
  split
  · rename_i equal
    rw [if_pos (eq_of_beq equal).symm]
  · rename_i different
    rw [if_neg (Ne.symm (ne_of_beq_false different))]

theorem lookup_put (cells : Cells) (name other : String) (cell : Json) :
    (cells.put other cell).lookup name =
      if other = name then some cell else cells.lookup name := by
  induction cells with
  | nil => exact lookup_cons name other cell []
  | cons entry rest induction =>
      rw [put, lookup_cons]
      by_cases replaced : entry.1 = other
      · rw [if_pos replaced, lookup_cons, replaced]
        split <;> rfl
      · rw [if_neg replaced, lookup_cons, induction]
        by_cases found : entry.1 = name
        · rw [if_pos found, if_pos found, if_neg (found ▸ Ne.symm replaced)]
        · rw [if_neg found, if_neg found]

def lastValue (name : String) : List Column → List (Option Value) → Option Value
  | column :: columns, value? :: values =>
      (lastValue name columns values).or (if column.name = name then value? else none)
  | _, _ => none

theorem lookup_putValues (cells : Cells) (name : String) (columns : List Column)
    (values : List (Option Value)) :
    (cells.putValues columns values).lookup name =
      ((lastValue name columns values).map Value.toJson).or (cells.lookup name) := by
  induction columns generalizing cells values with
  | nil => rfl
  | cons column rest induction =>
      cases values with
      | nil => rfl
      | cons value? others =>
          rw [lastValue]
          cases value? with
          | none =>
              rw [putValues, induction, ite_self, Option.or_none]
          | some value =>
              rw [putValues, induction, lookup_put]
              cases lastValue name rest others <;> split <;> rfl

/-! ## Values of columns -/

variable {columns : List Column} {values : List (Option Value)} {index : Nat} {column : Column}
  {value : Value}

theorem lastValue_of_absent {name : String}
    (absent : ∀ (index : Nat) (column : Column), columns[index]? = some column →
      column.name = name → values[index]?.join = none) : lastValue name columns values = none := by
  induction columns generalizing values with
  | nil => rfl
  | cons first rest induction =>
      cases values with
      | nil => rfl
      | cons value? others =>
          rw [lastValue, induction fun index => absent (index + 1), Option.none_or]
          split
          · rename_i same
            exact absent 0 first rfl same
          · rfl

theorem exists_lastValue (isColumn : columns[index]? = some column)
    (isValue : values[index]? = some (some value)) :
    ∃ shown, lastValue column.name columns values = some shown ∧
      ((∀ (later : Nat) (other : Column), index < later → columns[later]? = some other →
        other.name = column.name → values[later]?.join = none) → shown = value) := by
  induction columns generalizing values index with
  | nil => cases isColumn
  | cons first rest induction =>
      cases values with
      | nil => cases isValue
      | cons value? others =>
          rw [lastValue]
          cases index with
          | zero =>
              cases isColumn
              cases isValue
              rw [if_pos rfl]
              cases behind : lastValue column.name rest others with
              | none => exact ⟨value, rfl, fun _ => rfl⟩
              | some shown =>
                  refine ⟨shown, rfl, fun absent => ?_⟩
                  rw [lastValue_of_absent fun later other =>
                    absent (later + 1) other (Nat.succ_pos later)] at behind
                  cases behind
          | succ index =>
              rcases induction isColumn isValue with ⟨shown, last, own⟩
              rw [last]
              refine ⟨shown, rfl, fun absent => own fun later other further => ?_⟩
              exact absent (later + 1) other (Nat.succ_lt_succ further)

/-- Whether cells, and the texts that are printed under columns, show the values of these columns.
For each column that has a value, they show the last value of its name. It is the column's own one
if no later column with a value has the same name. -/
def Show (columns : List Column) (values : List (Option Value)) (cells : Cells)
    (texts : List String) : Prop :=
  ∀ index column value, columns[index]? = some column → values[index]? = some (some value) →
    ∃ shown, lastValue column.name columns values = some shown ∧
      cells.lookup column.name = some shown.toJson ∧
      texts[index]? = some (cellText (some shown.toJson)) ∧
      ((∀ (later : Nat) (other : Column), index < later → columns[later]? = some other →
        other.name = column.name → values[later]?.join = none) → shown = value)

end Cells

namespace GroupValues

variable (values : GroupValues) (columns : List Column)

theorem show_putValues (row : List (Option Value)) :
    Cells.Show (visibleOf columns values.hidden) row
      (Cells.putValues [] (visibleOf columns values.hidden) row)
      ((values.table columns).cellTexts
        (Cells.putValues [] (visibleOf columns values.hidden) row)) := by
  intro index column value isColumn isValue
  rcases Cells.exists_lastValue isColumn isValue with ⟨shown, last, own⟩
  have found : (Cells.putValues [] (visibleOf columns values.hidden) row).lookup column.name =
      some shown.toJson := by
    rw [Cells.lookup_putValues, last]
    rfl
  have listed : ((values.table columns).columns.map ColumnLayout.name)[index]? =
      some column.name := by
    rw [names_eq_visible, List.getElem?_map, isColumn]
    rfl
  refine ⟨shown, last, found, ?_, own⟩
  rw [List.getElem?_map] at listed
  rcases Option.map_eq_some_iff.mp listed with ⟨layout, isLayout, name⟩
  rw [GroupOutput.cellTexts, List.getElem?_map, isLayout, Option.map_some, name, found]

end GroupValues

/-! ## Reports -/

theorem GroupOutput.table_eq_draw (group : GroupOutput) :
    group.table = Text.Table.draw (group.columns.map ColumnLayout.name)
      (group.rows.map group.cellTexts ++
        if group.footer.isEmpty then [] else [group.cellTexts group.footer]) := by
  rw [table, List.map_append]
  cases group.footer.isEmpty <;> rfl

/-- Whatever data set a report is run over, the cells of each group and the texts of its table show
what the visible columns evaluate to, row by row and in the footer. Of several columns with one name
they show the last one only. -/
theorem last_column_of_a_name_is_shown (options : Options) (definition : Definition.Report)
    (dataSet : DataSet) {output : ReportOutput}
    (ran : (Report.ofDefinition options definition).runOver dataSet = .ok output) :
    let report := Report.ofDefinition options definition
    ∃ groups values, report.groups dataSet = .ok groups ∧
      report.evaluateOver dataSet = .ok values ∧
      List.Forall₂ (GroupValues.Fits report.columns) groups values ∧
      List.Forall₂ (fun (values : GroupValues) (table : GroupOutput) =>
        let visible := visibleOf report.columns values.hidden
        table.columns.map ColumnLayout.name = visible.map Column.name ∧
        table.table = Text.Table.draw (visible.map Column.name)
          (table.rows.map table.cellTexts ++
            if table.footer.isEmpty then [] else [table.cellTexts table.footer]) ∧
        List.Forall₂ (fun row cells =>
          Cells.Show visible (row.map some) cells (table.cellTexts cells))
          values.rows table.rows ∧
        Cells.Show visible values.footers table.footer (table.cellTexts table.footer))
        values output.groups := by
  intro report
  have distinct : (report.columns.map Column.owner).Nodup :=
    Report.owners_buildColumns _ options.foldConstants definition.columns
  have tables := Report.groups_runOver distinct dataSet
  rw [ran] at tables
  rcases Result.map_eq_ok tables.symm with ⟨values, evaluated, made⟩
  rcases Report.evaluates_evaluateOver evaluated with ⟨groups, found, evaluates⟩
  refine ⟨groups, values, found, evaluated, evaluates.imp fun _ _ each => each.fits, ?_⟩
  rw [made, List.forall₂_map_right_iff, List.forall₂_same]
  intro values _
  have names := values.names_eq_visible report.columns
  refine ⟨names, ?_, ?_, values.show_putValues report.columns values.footers⟩
  · rw [← names]
    exact GroupOutput.table_eq_draw _
  · refine List.forall₂_map_right_iff.mpr (List.forall₂_same.mpr fun row _ => ?_)
    exact values.show_putValues report.columns (row.map some)

def Definition.Report.salesTwice : Definition.Report :=
  { Definition.Report.sales with
    columns :=
      [{ name := "sale", width := some (Binary64.ofNat 72), value := some (.field "region") },
        { name := "sale", width := some (Binary64.ofNat 50), value := some (.field "amount") }] }

def oneSale : DataSet where
  name := "Sales"
  columns := ["region", "amount"]
  rows := [[.string "East", .int32 3]]

/-- The amount is shown in both columns. -/
theorem amount_is_shown_twice :
    ∃ output values, (Report.ofDefinition {} .salesTwice).runOver oneSale = .ok output ∧
      (Report.ofDefinition {} .salesTwice).evaluateOver oneSale = .ok values ∧
      output.groups.map (fun table => table.rows.map table.cellTexts) = [[["3", "3"]]] ∧
      List.Forall₂ (fun (values : GroupValues) (table : GroupOutput) =>
        List.Forall₂ (fun row cells =>
          Cells.Show (visibleOf (Report.ofDefinition {} .salesTwice).columns values.hidden)
            (row.map some) cells (table.cellTexts cells)) values.rows table.rows)
        values output.groups := by
  have shows : ((Report.ofDefinition {} .salesTwice).runOver oneSale).toOption.map
      (fun output => output.groups.map fun table => table.rows.map table.cellTexts) =
        some [[["3", "3"]]] := by
    decide +kernel
  cases ran : (Report.ofDefinition {} .salesTwice).runOver oneSale with
  | error error =>
      rw [ran] at shows
      cases shows
  | ok output =>
      rcases last_column_of_a_name_is_shown {} .salesTwice oneSale ran with
        ⟨_, values, _, evaluated, _, each⟩
      rw [ran] at shows
      exact ⟨output, values, rfl, evaluated, Option.some.inj shows,
        each.imp fun _ _ holds => holds.2.2.1⟩

/-- The region is evaluated for the first column, but neither the cells nor the table show it. -/
theorem region_is_not_shown :
    ((Report.ofDefinition {} .salesTwice).evaluateOver oneSale).toOption.map
        (List.map fun values => values.rows.map (List.map fun value => value.toJson.compact)) =
      some [[["\"East\"", "3"]]] ∧
    ((Report.ofDefinition {} .salesTwice).runOver oneSale).toOption.map
        (fun output => output.groups.map fun table => table.rows.map fun cells =>
          table.columns.map fun column =>
            (column.name, (cells.lookup column.name).map Json.compact)) =
      some [[[("sale", some "3"), ("sale", some "3")]]] ∧
    ((Report.ofDefinition {} .salesTwice).runOver oneSale).toOption.map
        (fun output => output.groups.map fun table => table.rows.map table.cellTexts) =
      some [[["3", "3"]]] :=
  ⟨by decide +kernel, by decide +kernel, by decide +kernel⟩

end GroupedReport
