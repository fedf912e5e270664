import GroupedReport.Proofs.Definition.Building
import GroupedReport.Report.Basic
import Mathlib.Data.List.Nodup

/-!
# Building reports

The aggregates of a report have keys of their own, and its columns store things under names of
their own. No aggregate lies inside of another if that is so in the definition.
-/

namespace GroupedReport

open Expression

def Definition.Column.formulas (column : Definition.Column) : List Formula :=
  column.value.toList ++ column.footer.toList ++ column.hidden.toList

def Definition.Report.formulas (definition : Definition.Report) : List Formula :=
  definition.columns.flatMap Column.formulas

namespace Column

open Builder

variable {before between : Builder} {depth : Nat} {front back : List NodeId}

/-! ## Building columns -/

theorem gains_buildWidth (gains : before.Gains depth front between) (width : Option Float) :
    before.Gains depth front ((buildWidth width).run between).2 := by
  cases width with
  | some width => exact gains
  | none => exact gains.of_nodes rfl rfl

theorem gains_forM_report (gains : before.Gains depth front between) (log : Diagnostic.Log) :
    before.Gains depth front ((log.forM Build.report : Build Unit).run between).2 := by
  induction log generalizing between with
  | nil => exact gains
  | cons diagnostic rest induction => exact induction (gains.of_nodes rfl rfl)

theorem gains_buildFlag (gains : before.Gains depth front between) (flag : Option Flag) :
    before.Gains depth front ((buildFlag flag).run between).2 := by
  cases flag with
  | none => exact gains
  | some flag => exact gains_forM_report gains flag.resolve.2

theorem gains_operand (gains : before.Gains depth front between) (fields : Fields)
    {operand : Option Formula} (bounded : ∀ formula ∈ operand.toList, formula.nesting ≤ depth) :
    before.Gains depth (front ++ ((Formula.buildOperand fields operand).run between).1.toList)
      ((Formula.buildOperand fields operand).run between).2 := by
  apply gains.append
  apply (Formula.gains_buildOperand gains.valid fields operand).mono
  cases operand with
  | none => exact Nat.zero_le depth
  | some formula => exact bounded formula List.mem_cons_self

theorem gains_build {builder : Builder} (valid : builder.Valid) (fields : Fields) (index : Nat)
    (definition : Definition.Column)
    (bounded : ∀ formula ∈ definition.formulas, formula.nesting ≤ depth) :
    builder.Gains depth ((build fields index definition).run builder).1.roots
      ((build fields index definition).run builder).2 := by
  rw [Definition.Column.formulas, List.forall_mem_append, List.forall_mem_append] at bounded
  rcases bounded with ⟨⟨valueBounded, footerBounded⟩, hiddenBounded⟩
  have start : builder.Gains depth [] builder := .nil valid
  have width := gains_buildWidth start definition.width
  rw [build, Build.run_bind]
  generalize (buildWidth definition.width).run builder = widthMade at width ⊢
  have operand := gains_operand width fields valueBounded
  rw [Build.run_bind]
  generalize (Formula.buildOperand fields definition.value).run widthMade.2 = operandMade
    at operand ⊢
  have value := operand.require_only "TableColumn" "Value" .string rfl
  rw [Build.run_bind]
  generalize (Build.require operandMade.1 "TableColumn" "Value" .string).run operandMade.2 =
    valueMade at value ⊢
  have footer := gains_operand value fields footerBounded
  rw [Build.run_bind]
  generalize (Formula.buildOperand fields definition.footer).run valueMade.2 = footerMade
    at footer ⊢
  have hidden := gains_operand footer fields hiddenBounded
  rw [Build.run_bind]
  generalize (Formula.buildOperand fields definition.hidden).run footerMade.2 = hiddenMade
    at hidden ⊢
  exact gains_buildFlag hidden definition.fixedHeader

theorem gains_buildFrom {builder : Builder} (valid : builder.Valid) (fields : Fields)
    (index : Nat) {definitions : List Definition.Column}
    (bounded : ∀ definition ∈ definitions, ∀ formula ∈ definition.formulas,
      formula.nesting ≤ depth) :
    builder.Gains depth (((buildFrom fields index definitions).run builder).1.flatMap roots)
      ((buildFrom fields index definitions).run builder).2 := by
  induction definitions generalizing builder index with
  | nil => exact .nil valid
  | cons definition rest induction =>
      rw [List.forall_mem_cons] at bounded
      have column := gains_build valid fields index definition bounded.1
      rw [buildFrom, Build.run_bind]
      generalize (build fields index definition).run builder = made at column ⊢
      have columns := induction column.valid (index + 1) bounded.2
      rw [Build.run_bind]
      exact column.append columns

/-! ## Folding columns -/

theorem gains_foldRoot {id : NodeId} (gains : before.Gains depth (front ++ [id] ++ back) between) :
    before.Gains depth (front ++ ((Build.fold id).run between).1 :: back)
      ((Build.fold id).run between).2 := by
  have member : id ∈ front ++ [id] ++ back := by simp
  apply gains.replace_same (gains.valid.puts_fold (gains.known id member))
  · rw [Tree.keys_folded]
    exact (List.append_nil _).symm
  · rw [Tree.nesting_folded]
    exact gains.nesting id member

theorem gains_foldOptional {child : Option NodeId}
    (gains : before.Gains depth (front ++ child.toList ++ back) between) :
    before.Gains depth (front ++ ((foldOptional child).run between).1.toList ++ back)
      ((foldOptional child).run between).2 := by
  cases child with
  | none => exact gains
  | some id =>
      have folded := gains_foldRoot gains
      rw [List.append_cons] at folded
      exact folded

theorem gains_fold {column : Column}
    (gains : before.Gains depth (front ++ column.roots ++ back) between) :
    before.Gains depth (front ++ ((fold column).run between).1.roots ++ back)
      ((fold column).run between).2 := by
  have all : before.Gains depth
      (front ++ [column.value] ++ (column.footer.toList ++ (column.hidden.toList ++ back)))
      between := by
    simpa [roots] using gains
  have value := gains_foldRoot all
  rw [fold, Build.run_bind]
  generalize (Build.fold column.value).run between = valueMade at value ⊢
  have beforeFooter : before.Gains depth
      (front ++ [valueMade.1] ++ column.footer.toList ++ (column.hidden.toList ++ back))
      valueMade.2 := by
    simpa using value
  have footer := gains_foldOptional beforeFooter
  rw [Build.run_bind]
  generalize (foldOptional column.footer).run valueMade.2 = footerMade at footer ⊢
  have beforeHidden : before.Gains depth
      (front ++ [valueMade.1] ++ footerMade.1.toList ++ column.hidden.toList ++ back)
      footerMade.2 := by
    simpa using footer
  have hidden := gains_foldOptional beforeHidden
  rw [Build.run_bind]
  generalize (foldOptional column.hidden).run footerMade.2 = hiddenMade at hidden ⊢
  have reordered : front ++ (valueMade.1 :: footerMade.1.toList ++ hiddenMade.1.toList) ++ back =
      front ++ [valueMade.1] ++ footerMade.1.toList ++ hiddenMade.1.toList ++ back := by
    simp
  rw [← reordered] at hidden
  exact hidden

theorem gains_foldAll {columns : List Column}
    (gains : before.Gains depth (front ++ columns.flatMap roots) between) :
    before.Gains depth (front ++ ((columns.mapM fold).run between).1.flatMap roots)
      ((columns.mapM fold).run between).2 := by
  induction columns generalizing front between with
  | nil => exact gains
  | cons column rest induction =>
      rw [List.flatMap_cons, ← List.append_assoc] at gains
      have first := gains_fold gains
      rw [List.mapM_cons, Build.run_bind]
      generalize (fold column).run between = made at first ⊢
      have others := induction first
      rw [List.append_assoc] at others
      exact others

/-! ## Owners -/

theorem owners_buildFrom (fields : Fields) (index : Nat) (definitions : List Definition.Column)
    (builder : Builder) :
    ((buildFrom fields index definitions).run builder).1.map owner =
      (List.range' index definitions.length).map fun index =>
        "TableColumn/" ++ Text.Digits.numeral index := by
  induction definitions generalizing index builder with
  | nil => rfl
  | cons definition rest induction =>
      rw [buildFrom, Build.run_bind, Build.run_bind, List.length_cons, List.range'_succ,
        List.map_cons, ← induction (index + 1) ((build fields index definition).run builder).2]
      rfl

theorem owners_foldAll (columns : List Column) (builder : Builder) :
    ((columns.mapM fold).run builder).1.map owner = columns.map owner := by
  induction columns generalizing builder with
  | nil => rfl
  | cons column rest induction =>
      rw [List.mapM_cons, Build.run_bind, List.map_cons,
        ← induction ((fold column).run builder).2]
      rfl

theorem owner_injective {first second : Nat}
    (same : "TableColumn/" ++ Text.Digits.numeral first =
      "TableColumn/" ++ Text.Digits.numeral second) :
    first = second := by
  have digits := String.toList_inj.mpr ((String.append_right_inj _).mp same)
  rw [Text.Digits.numeral, Text.Digits.numeral, String.toList_ofList, String.toList_ofList]
    at digits
  rw [← Text.Digits.value_write first, digits, Text.Digits.value_write]

end Column

/-! ## Reports -/

namespace Report

theorem mem_roots {report : Report} {column : Column} (member : column ∈ report.columns)
    {root : NodeId} (isRoot : root ∈ column.roots) : root ∈ report.roots :=
  List.mem_flatMap.mpr ⟨column, member, isRoot⟩

def aggregations (report : Report) : List Aggregation :=
  report.roots.flatMap fun root => (report.engine.program.tree root).aggregations

/-- What tells apart all that is kept during a run of a report: aggregates have keys of their own
and do not lie inside of each other, and columns and groupings have names of their own. -/
structure Apart (report : Report) : Prop where
  keys : (report.aggregations.map Aggregation.key).Nodup
  flat : ∀ aggregation ∈ report.aggregations, aggregation.inner.aggregations = []
  owners : (report.columns.map Column.owner).Nodup
  groupings : (report.groupings.map Prod.fst).Nodup

theorem names_resolveGroupings (fields : Fields) (groupings : List Definition.Grouping) :
    (resolveGroupings fields groupings).1.map Prod.fst =
      groupings.map Definition.Grouping.name := by
  induction groupings with
  | nil => rfl
  | cons grouping rest induction =>
      rw [resolveGroupings, List.map_cons, List.map_cons, induction]

theorem gains_buildColumns (fields : Fields) (foldConstants : Bool) {depth : Nat}
    {definitions : List Definition.Column}
    (bounded : ∀ definition ∈ definitions, ∀ formula ∈ definition.formulas,
      formula.nesting ≤ depth) :
    Builder.Gains {} depth
      (((buildColumns fields foldConstants definitions).run {}).1.flatMap Column.roots)
      ((buildColumns fields foldConstants definitions).run {}).2 := by
  have built := Column.gains_buildFrom Builder.valid_empty fields 0 bounded
  rw [buildColumns, Build.run_bind]
  cases foldConstants with
  | false => exact built
  | true =>
      have unfolded := (Builder.Gains.nil Builder.valid_empty).append built
      exact Column.gains_foldAll unfolded

theorem owners_buildColumns (fields : Fields) (foldConstants : Bool)
    (definitions : List Definition.Column) :
    (((buildColumns fields foldConstants definitions).run {}).1.map Column.owner).Nodup := by
  have owners : ((buildColumns fields foldConstants definitions).run {}).1.map Column.owner =
      (List.range' 0 definitions.length).map fun index =>
        "TableColumn/" ++ Text.Digits.numeral index := by
    rw [buildColumns, Build.run_bind]
    cases foldConstants with
    | false => exact Column.owners_buildFrom fields 0 definitions {}
    | true =>
        rw [if_pos rfl, Column.owners_foldAll]
        exact Column.owners_buildFrom fields 0 definitions {}
  rw [owners]
  apply List.Nodup.map
  · intro first second
    exact Column.owner_injective
  · exact List.nodup_range'

theorem apart_ofDefinition {definition : Definition.Report}
    (distinct : (definition.dataSet.groupings.map Definition.Grouping.name).Nodup)
    (flat : ∀ formula ∈ definition.formulas, formula.nesting ≤ 1) (options : Options) :
    (ofDefinition options definition).Apart := by
  have bounded : ∀ column ∈ definition.columns, ∀ formula ∈ column.formulas,
      formula.nesting ≤ 1 := by
    intro column member formula inColumn
    exact flat formula (List.mem_flatMap.mpr ⟨column, member, inColumn⟩)
  have gains := gains_buildColumns (Fields.load (definition.dataSet.fields.map Subtype.val)).1
    options.foldConstants bounded
  constructor
  · have keys : (ofDefinition options definition).aggregations.map Aggregation.key =
        ((buildColumns (Fields.load (definition.dataSet.fields.map Subtype.val)).1
          options.foldConstants definition.columns).run {}).2.keysOf
          (ofDefinition options definition).roots := by
      rw [aggregations, List.map_flatMap, Builder.keysOf]
      congr 1
      funext root
      exact (Tree.keys_eq_map_aggregations _).symm
    rw [keys]
    exact gains.distinct
  · intro aggregation member
    rcases List.mem_flatMap.mp member with ⟨root, isRoot, inTree⟩
    exact Tree.inner_aggregations_eq_nil (gains.nesting root isRoot) aggregation inTree
  · exact owners_buildColumns _ options.foldConstants definition.columns
  · change ((resolveGroupings _ definition.dataSet.groupings).1.map Prod.fst).Nodup
    rw [names_resolveGroupings]
    exact distinct

end Report

end GroupedReport
