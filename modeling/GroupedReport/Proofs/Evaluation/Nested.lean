import GroupedReport.Proofs.Evaluation.Meaning
import GroupedReport.Proofs.Evaluation.Reached

/-!
# Aggregates inside of aggregates

While an aggregate goes through its rows, an aggregate inside of it is looked at from one row after
the other, and what was kept at the first of them is found at the others. So an evaluation gives
what it gives without a cache if all looks at one aggregate see the same values. They do not where
the aggregate inside ranges over a narrower group than the one around it.
-/

namespace GroupedReport

open Expression

/-! ## Looks at aggregates -/

/-- An aggregate, and where it is looked at from. -/
structure Look where
  aggregation : Aggregation
  row? : Option RowId

namespace Look

variable (data : DataSource)

def value (look : Look) : Except EvaluationError Value :=
  look.aggregation.value data look.row?

/-- What a look sees: the values inside of the aggregate in the rows of its scope. A scope without
an extent shows nothing. -/
def items? (look : Look) : Option (List (Except EvaluationError Value)) :=
  (data.extent? look.aggregation.scope look.row?).map fun extent =>
    extent.rows.map fun row => look.aggregation.inner.value data (some row)

/-- Whether two looks see the same, if both see anything. -/
def SeesSame (first second : Look) : Prop :=
  ∀ items others, first.items? data = some items → second.items? data = some others →
    items = others

end Look

namespace Expression.Tree

/-- The looks that evaluating a tree takes at its aggregates, if nothing is kept. -/
def looks (data : DataSource) : Tree → Option RowId → List Look
  | unknown _, _ | literal _ _ _, _ | field _ _ _, _ => []
  | unary _ _ operand, row? => operand.looks data row?
  | binary _ _ left right, row? => left.looks data row? ++ right.looks data row?
  | aggregate _ function inner scope key kind, row? =>
      ⟨⟨function, inner, scope, key, kind⟩, row?⟩ ::
        match data.extent? scope row? with
        | none => []
        | some extent => extent.rows.flatMap fun row => inner.looks data (some row)

/-- Whether all looks at aggregates of one key see the same, as far as their values are kept. -/
def SeesAlike (data : DataSource) (tree : Tree) (row? : Option RowId) : Prop :=
  ∀ first ∈ tree.looks data row?, ∀ second ∈ tree.looks data row?,
    first.aggregation.key = second.aggregation.key →
      first.aggregation.scope.isShared = true → first.SeesSame data second

theorem seesAlike_of_items? {data : DataSource} {tree : Tree} {row? : Option RowId}
    (seen : AggregateKey → List (Except EvaluationError Value))
    (each : ∀ look ∈ tree.looks data row?,
      look.items? data = some (seen look.aggregation.key)) :
    tree.SeesAlike data row? := by
  intro first firstMember second secondMember same _ items others firstItems secondItems
  rw [each first firstMember, same] at firstItems
  rw [each second secondMember] at secondItems
  cases firstItems
  cases secondItems
  rfl

end Expression.Tree

namespace Aggregate

theorem reduced_congr {inner other : RowId → Except EvaluationError Value}
    {rows others : List RowId} (same : rows.map inner = others.map other)
    (function : AggregateFunction) :
    reduced function inner rows = reduced function other others := by
  have fold {α : Type} (step : α → Value → Except EvaluationError α) (start : α) :
      rows.foldlM (fun state row => inner row >>= step state) start =
        others.foldlM (fun state row => other row >>= step state) start := by
    have overItems (inner : RowId → Except EvaluationError Value) (rows : List RowId) :
        rows.foldlM (fun state row => inner row >>= step state) start =
          (rows.map inner).foldlM (fun state item => item >>= step state) start := by
      rw [List.foldlM_map]
    rw [overItems, overItems, same]
  rw [reduced_eq, reduced_eq, fold]

end Aggregate

theorem Look.value_eq {data : DataSource} {look : Look}
    {items : List (Except EvaluationError Value)} (sees : look.items? data = some items) :
    ∃ extent, data.extent? look.aggregation.scope look.row? = some extent ∧
      items = extent.rows.map (fun row => look.aggregation.inner.value data (some row)) ∧
      look.value data = Aggregate.reduced look.aggregation.function
        (fun row => look.aggregation.inner.value data (some row)) extent.rows := by
  rcases Option.map_eq_some_iff.mp sees with ⟨extent, covers, rfl⟩
  refine ⟨extent, covers, rfl, ?_⟩
  rw [value, Aggregation.value, Tree.value, covers]

theorem Look.SeesSame.value_eq {data : DataSource} {first second : Look}
    (same : first.SeesSame data second)
    (function : first.aggregation.function = second.aggregation.function)
    (firstSees : (first.items? data).isSome) (secondSees : (second.items? data).isSome) :
    first.value data = second.value data := by
  rcases Option.isSome_iff_exists.mp firstSees with ⟨items, firstItems⟩
  rcases Option.isSome_iff_exists.mp secondSees with ⟨others, secondItems⟩
  have equal := same items others firstItems secondItems
  rcases Look.value_eq firstItems with ⟨_, _, itemsEqual, firstValue⟩
  rcases Look.value_eq secondItems with ⟨_, _, othersEqual, secondValue⟩
  rw [firstValue, secondValue, function]
  exact Aggregate.reduced_congr (itemsEqual.symm.trans (equal.trans othersEqual)) _

namespace Expression.Builder.Valid

variable {builder : Builder} (valid : builder.Valid)
include valid

theorem node_of_look {data : DataSource} {id : NodeId} {row? : Option RowId} {look : Look}
    (member : look ∈ (builder.tree id).looks data row?) :
    ∃ position inner : NodeId, builder.nodes[position]? = some
      (.aggregate look.aggregation.function inner look.aggregation.scope
        look.aggregation.key look.aggregation.kind) := by
  induction id using valid.node_induction generalizing row? with
  | unknown id absent =>
      rw [tree_of_absent absent] at member
      cases member
  | literal id value kind found =>
      rw [valid.tree_eq found] at member
      cases member
  | field id column kind found =>
      rw [valid.tree_eq found] at member
      cases member
  | unary id operator operand found induction =>
      rw [valid.tree_eq found] at member
      exact induction member
  | binary id operator left right found leftInduction rightInduction =>
      rw [valid.tree_eq found] at member
      exact (List.mem_append.mp member).elim leftInduction rightInduction
  | aggregate id function inner scope key kind found induction =>
      rw [valid.tree_eq found, Node.treeAt, Tree.looks] at member
      rcases List.mem_cons.mp member with rfl | inside
      · exact ⟨id, inner, found⟩
      · split at inside
        · cases inside
        · rcases List.mem_flatMap.mp inside with ⟨row, _, inRow⟩
          exact induction inRow

theorem looks_agree {data : DataSource} {id : NodeId} {row? : Option RowId} {first second : Look}
    (firstMember : first ∈ (builder.tree id).looks data row?)
    (secondMember : second ∈ (builder.tree id).looks data row?)
    (same : first.aggregation.key = second.aggregation.key) :
    first.aggregation.function = second.aggregation.function ∧
      first.aggregation.scope = second.aggregation.scope := by
  rcases valid.node_of_look firstMember with ⟨_, _, firstFound⟩
  rcases valid.node_of_look secondMember with ⟨_, _, secondFound⟩
  rw [same] at firstFound
  rcases valid.agree firstFound secondFound with ⟨function, scope, _⟩
  exact ⟨function, scope⟩

end Expression.Builder.Valid

/-! ## Runs that keep what looks see -/

def Look.Consistent (data : DataSource) (looks : List Look) : Prop :=
  ∀ first ∈ looks, ∀ second ∈ looks, first.aggregation.key = second.aggregation.key →
    first.aggregation.scope.isShared = true → (first.items? data).isSome →
      (second.items? data).isSome → first.value data = second.value data

theorem Expression.Builder.Valid.consistent_looks {builder : Builder} (valid : builder.Valid)
    {data : DataSource} {id : NodeId} {row? : Option RowId}
    (alike : (builder.tree id).SeesAlike data row?) :
    Look.Consistent data ((builder.tree id).looks data row?) := by
  intro first firstMember second secondMember same shared
  exact (alike first firstMember second secondMember same shared).value_eq
    (valid.looks_agree firstMember secondMember same).1

/-- Whether what a run keeps for aggregates is what the looks have that can find it. -/
structure Run.Remembers (source : DataSource) (program : ProgramId) (looks : List Look)
    (run : Run) : Prop extends run.Over source program where
  value {look : Look} {value : Value} :
    look ∈ looks → run.cache.peek? (.aggregate look.aggregation.key) = some value →
      (look.items? source).isSome → look.value source = .ok value

namespace Run.Remembers

variable {data : DataSource} {program : ProgramId} {looks : List Look}

theorem start (data : DataSource) (program : ProgramId) (looks : List Look) :
    (Run.start data).Remembers data program looks where
  toOver := .start data program
  value _ held := by cases held

theorem steady : Run.Steady program (Run.Remembers data program looks) := by
  intro before after alike bound remembers
  refine ⟨Run.Over.steady alike bound remembers.toOver, ?_⟩
  intro look value member held
  rw [alike.peek?_eq] at held
  exact remembers.value member held

theorem store (consistent : Look.Consistent data looks) {run : Run}
    (remembers : run.Remembers data program looks) {look : Look} (member : look ∈ looks)
    (shared : look.aggregation.scope.isShared = true) (sees : (look.items? data).isSome)
    {value : Value} (given : look.value data = .ok value) :
    Run.Remembers data program looks
      { run with cache := run.cache.store (.aggregate look.aggregation.key) value } where
  toOver := ⟨remembers.data, remembers.program⟩
  value {other found} otherMember held otherSees := by
    by_cases same : look.aggregation.key = other.aggregation.key
    · rw [← same, Cache.peek?_store] at held
      cases held
      exact (consistent look member other otherMember same shared sees otherSees).symm.trans given
    · have different : Slot.aggregate other.aggregation.key ≠ .aggregate look.aggregation.key :=
        fun equal => same (Slot.aggregate.inj equal).symm
      rw [Cache.peek?_store_of_ne different] at held
      exact remembers.value otherMember held otherSees

end Run.Remembers

open Evaluate in
/-- A tree has its value in a run that keeps what its looks see. Without a cache nothing is kept,
so no looks have to be known. -/
theorem Engine.ensures_remembered (engine : Engine) {data : DataSource}
    (shares : data.SharesByScope) {looks : List Look} (consistent : Look.Consistent data looks)
    (tree : Tree) {row? : Option RowId}
    (known : engine.options.cacheAggregates = true → ∀ look ∈ tree.looks data row?, look ∈ looks) :
    (engine.evaluateTree tree row?).Ensures (Run.Remembers data engine.program.id looks)
      (· = tree.value data row?) := by
  induction tree generalizing row? with
  | unknown id => exact ensures_throw rfl
  | literal id value kind => exact ensures_pure rfl
  | field id column kind =>
      cases row? with
      | none => exact ensures_pure rfl
      | some row =>
          apply Ensures.bind_eq
          · apply ensures_read Run.Remembers.steady
            intro run remembers
            rw [remembers.data]
          · intro value
            exact ensures_conversion rfl
  | unary id operator operand induction =>
      apply (induction known).bind_eq
      intro value
      exact ensures_operator rfl
  | binary id operator left right leftInduction rightInduction =>
      have leftKnown := leftInduction fun caching look member =>
        known caching look (List.mem_append_left _ member)
      have rightKnown := rightInduction fun caching look member =>
        known caching look (List.mem_append_right _ member)
      apply leftKnown.bind_eq
      intro leftValue
      apply rightKnown.bind_eq
      intro rightValue
      exact ensures_operator rfl
  | aggregate id function inner scope key kind induction =>
      let look : Look := ⟨⟨function, inner, scope, key, kind⟩, row?⟩
      have sees {extent : Extent} (covers : data.extent? scope row? = some extent) :
          (look.items? data).isSome := by
        rw [Look.items?, covers]
        rfl
      rw [Tree.looks] at known
      apply ensures_aggregate Run.Remembers.steady
      · intro run error remembers fails
        rcases remembers.bindTo_ok with ⟨bound, binds⟩
        rw [binds] at fails
        cases fails
      · intro run remembers covers
        rw [remembers.data] at covers
        rw [Tree.value, covers]
      · intro run extent value caching remembers covers held
        rw [remembers.data] at covers
        exact (remembers.value (known caching look List.mem_cons_self) held (sees covers)).symm
      · intro run extent remembers covers
        rw [remembers.data] at covers
        rw [covers] at known
        rw [Tree.value, covers]
        apply Aggregate.ensures_reduced
        -- Only the rows of the extent are gone through, and only their looks are known.
        intro row member
        apply induction
        intro caching inside inRow
        exact known caching inside
          (List.mem_cons_of_mem _ (List.mem_flatMap.mpr ⟨row, member, inRow⟩))
      · intro before after extent value caching remembers covers cacheable stillRemembers given
        rw [remembers.data] at covers
        rw [shares covers] at cacheable
        exact stillRemembers.store consistent (known caching look List.mem_cons_self) cacheable
          (sees covers) given.symm

/-! ## One evaluation -/

theorem Expression.Builder.Valid.native_start {builder : Builder} (valid : builder.Valid)
    (number : ProgramId) (options : Options) (dataSet : DataSet) (id : NodeId)
    (row? : Option RowId)
    (alike : options.cacheAggregates = true →
      (builder.tree id).SeesAlike dataSet.source row?) :
    (((builder.engine number options).native id row?).run (.start dataSet.source)).1 =
      (builder.tree id).value dataSet.source row? := by
  let engine := builder.engine number options
  cases caching : options.cacheAggregates with
  | true =>
      have consistent := valid.consistent_looks (alike caching)
      exact (engine.ensures_remembered dataSet.sharesByScope consistent (builder.tree id)
        (fun _ _ member => member) _ (.start ..)).1
  | false =>
      have nothing : Look.Consistent dataSet.source [] := by
        intro first member
        cases member
      have unknown : engine.options.cacheAggregates = true →
          ∀ look ∈ (builder.tree id).looks dataSet.source row?, look ∈ [] := by
        intro keeps
        cases caching.symm.trans keeps
      exact (engine.ensures_remembered dataSet.sharesByScope nothing (builder.tree id)
        unknown _ (.start ..)).1

/-- Where all looks at an aggregate of one key see the same values, one evaluation in a new run
gives the same with and without a cache, read in any kind. -/
theorem one_evaluation_ignores_cache {builder : Builder} (built : builder.Built)
    (number : ProgramId) (foldConstants : Bool) (dataSet : DataSet) (id : NodeId)
    (row? : Option RowId) (alike : (builder.tree id).SeesAlike dataSet.source row?) :
    (((builder.engine number ⟨foldConstants, true⟩).native id row?).run
        (.start dataSet.source)).1 =
      (((builder.engine number ⟨foldConstants, false⟩).native id row?).run
        (.start dataSet.source)).1 ∧
    ∀ kind,
      (((builder.engine number ⟨foldConstants, true⟩).evaluateAs kind id row?).run
          (.start dataSet.source)).1 =
        (((builder.engine number ⟨foldConstants, false⟩).evaluateAs kind id row?).run
          (.start dataSet.source)).1 := by
  have keeping := built.valid.native_start number ⟨foldConstants, true⟩ dataSet id row?
    fun _ => alike
  have forgetting := built.valid.native_start number ⟨foldConstants, false⟩ dataSet id row?
    fun impossible => Bool.noConfusion impossible
  refine ⟨keeping.trans forgetting.symm, ?_⟩
  intro kind
  rw [Engine.run_evaluateAs, Engine.run_evaluateAs, keeping, forgetting]

/-! ## The greatest of greatest amounts -/

def Expression.Builder.greatestOfGreatest (outer inner : Scope) : Builder :=
  { nodes := #[.field 1 .int32, .aggregate .max 0 inner 0 .int32,
      .aggregate .max 1 outer 1 .int32]
    nextKey := 2 }

theorem Expression.Builder.built_greatestOfGreatest (outer inner : Scope) :
    (greatestOfGreatest outer inner).Built :=
  .step (.step (.step .refl (.field 1 .int32)) (.aggregate .max 0 inner Nat.zero_lt_one))
    (.aggregate .max 1 outer Nat.one_lt_two)

def DataSet.twoRegions : DataSet :=
  DataSet.groupBy
    { name := "Sales"
      columns := ["Region", "Amount"]
      rows := [[.string "East", .int32 3], [.string "East", .int32 5],
        [.string "West", .int32 7]] }
    "Regions" [0]

/-- The amounts of all regions are seen alike from all rows of a region. -/
theorem greatest_of_all_ignores_cache :
    (Builder.greatestOfGreatest (.group "Regions") (.dataSet "Sales")).Built ∧
      ((Builder.greatestOfGreatest (.group "Regions") (.dataSet "Sales")).tree 2).SeesAlike
        DataSet.twoRegions.source (some 0) ∧
      ((((Builder.greatestOfGreatest (.group "Regions") (.dataSet "Sales")).engine 0
          ⟨true, true⟩).native 2 (some 0)).run (.start DataSet.twoRegions.source)).1 =
        ((((Builder.greatestOfGreatest (.group "Regions") (.dataSet "Sales")).engine 0
          ⟨true, false⟩).native 2 (some 0)).run (.start DataSet.twoRegions.source)).1 ∧
      ((((Builder.greatestOfGreatest (.group "Regions") (.dataSet "Sales")).engine 0
          ⟨true, true⟩).native 2 (some 0)).run (.start DataSet.twoRegions.source)).1 =
        .ok (.int32 7) := by
  have built := Builder.built_greatestOfGreatest (.group "Regions") (.dataSet "Sales")
  have alike : ((Builder.greatestOfGreatest (.group "Regions") (.dataSet "Sales")).tree
      2).SeesAlike DataSet.twoRegions.source (some 0) := by
    let seen (key : AggregateKey) : List (Except EvaluationError Value) :=
      if key = 0 then [.ok (.int32 3), .ok (.int32 5), .ok (.int32 7)]
      else [.ok (.int32 7), .ok (.int32 7)]
    have looks : ((Builder.greatestOfGreatest (.group "Regions") (.dataSet "Sales")).tree 2).looks
        DataSet.twoRegions.source (some 0) =
          [⟨⟨.max, .aggregate 1 .max (.field 0 1 .int32) (.dataSet "Sales") 0 .int32,
              .group "Regions", 1, .int32⟩, some 0⟩,
            ⟨⟨.max, .field 0 1 .int32, .dataSet "Sales", 0, .int32⟩, some 0⟩,
            ⟨⟨.max, .field 0 1 .int32, .dataSet "Sales", 0, .int32⟩, some 1⟩] := by
      cbv
    apply Tree.seesAlike_of_items? seen
    rw [looks]
    intro look member
    simp only [List.mem_cons, List.not_mem_nil, or_false] at member
    rcases member with rfl | rfl | rfl <;> cbv
  exact ⟨built, alike,
    (one_evaluation_ignores_cache built 0 true DataSet.twoRegions 2 (some 0) alike).1, by cbv⟩

/-- The greatest of the greatest amounts of all regions depends on whether values are kept: what is
kept for the first region is found in the rows of the others. -/
theorem nested_groups_show_cache :
    (Builder.greatestOfGreatest (.dataSet "Sales") (.group "Regions")).Built ∧
      ((((Builder.greatestOfGreatest (.dataSet "Sales") (.group "Regions")).engine 0
          ⟨true, true⟩).native 2 (some 0)).run (.start DataSet.twoRegions.source)).1 =
        .ok (.int32 5) ∧
      ((((Builder.greatestOfGreatest (.dataSet "Sales") (.group "Regions")).engine 0
          ⟨true, false⟩).native 2 (some 0)).run (.start DataSet.twoRegions.source)).1 =
        .ok (.int32 7) :=
  ⟨Builder.built_greatestOfGreatest _ _, by cbv, by cbv⟩

end GroupedReport
