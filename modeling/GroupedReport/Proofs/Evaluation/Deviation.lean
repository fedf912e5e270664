import GroupedReport.Proofs.Evaluation.Greatest

/-!
# The deviation of numbers

The standard deviation of some rows is that of the numbers in them. What is no number is left out,
be it text that does not read as one, a point in time, a JSON array or missing data, and only a row
that has no value at all makes the aggregate fail.
-/

namespace GroupedReport

open Expression

/-! ## Numbers among items -/

/-- The number that a value counts as. What reads as not a number counts as nothing. -/
def Value.number? (value : Value) : Option Float :=
  value.toFloat64.toOption.filter (!·.isNaN)

def Value.numbers (items : List Value) : List Float :=
  items.filterMap number?

namespace Aggregate

def sum (numbers : List Float) : Float :=
  numbers.foldl (· + ·) (Binary64.zero false)

/-- The variance of some numbers, without regard to rounding: the mean of their squares less the
square of their mean, over a common denominator. -/
def variance (numbers : List Float) : Float :=
  let count := Binary64.ofNat numbers.length
  let total := sum numbers
  (count * sum (numbers.map fun number => number * number) - total * total) / (count * count)

def positivePart (value : Float) : Float :=
  if Binary64.zero false < value then value else Binary64.zero false

def deviation (numbers : List Float) : Float :=
  if numbers.isEmpty then Binary64.notANumber else (positivePart (variance numbers)).sqrt

def Moments.ofNumbers (numbers : List Float) : Moments :=
  { count := numbers.length
    sum := Aggregate.sum numbers
    squares := Aggregate.sum (numbers.map fun number => number * number) }

theorem Moments.deviation_ofNumbers (numbers : List Float) :
    (ofNumbers numbers).deviation = Aggregate.deviation numbers := by
  cases numbers <;> rfl

theorem Moments.ofNumbers_concat (numbers : List Float) (number : Float) :
    ofNumbers (numbers ++ [number]) =
      { count := (ofNumbers numbers).count + 1
        sum := (ofNumbers numbers).sum + number
        squares := (ofNumbers numbers).squares + number * number } := by
  simp [ofNumbers, Aggregate.sum]

theorem Moments.add_ofNumbers (numbers : List Float) (item : Value) :
    (ofNumbers numbers).add item = ofNumbers (numbers ++ item.number?.toList) := by
  unfold Moments.add Value.number?
  cases item.toFloat64 with
  | error error => exact congrArg ofNumbers (List.append_nil numbers).symm
  | ok number =>
      dsimp only [Except.toOption, Option.filter_some]
      cases number.isNaN with
      | true => exact congrArg ofNumbers (List.append_nil numbers).symm
      | false => exact (ofNumbers_concat numbers number).symm

theorem Moments.foldl_add (items : List Value) (numbers : List Float) :
    items.foldl Moments.add (ofNumbers numbers) = ofNumbers (numbers ++ Value.numbers items) := by
  induction items generalizing numbers with
  | nil => exact congrArg ofNumbers (List.append_nil numbers).symm
  | cons item rest induction =>
      rw [List.foldl_cons, add_ofNumbers, induction, List.append_assoc]
      refine congrArg (fun others => ofNumbers (numbers ++ others)) ?_
      rw [Value.numbers, Value.numbers, List.filterMap_cons]
      cases item.number? <;> rfl

theorem ofItems_stdevp (items : List Value) :
    ofItems .stdevp items = .ok (.float64 (deviation (Value.numbers items))) := by
  have folded (moments : Moments) :
      items.foldlM AggregateFunction.stdevp.reduction.take moments =
        .ok (items.foldl Moments.add moments) := by
    induction items generalizing moments with
    | nil => rfl
    | cons item rest induction => exact induction (moments.add item)
  have moments : items.foldl Moments.add {} = .ofNumbers (Value.numbers items) :=
    Moments.foldl_add items []
  rw [ofItems, ← Moments.deviation_ofNumbers, ← moments]
  exact congrArg _ (folded {})

/-! ## Deviations of rows -/

open Evaluate

variable (inner : RowId → Evaluate Value) (rows : List RowId) (run : Run)

theorem run_takeRows_stdevp :
    (rows.foldlM (takeRow .stdevp inner) AggregateFunction.stdevp.reduction.start).run run =
      (((rows.mapM inner).run run).1.bind fun items =>
          items.foldlM AggregateFunction.stdevp.reduction.take
            AggregateFunction.stdevp.reduction.start,
        ((rows.mapM inner).run run).2) := by
  let sound (_ : AggregateFunction.stdevp.reduction.State) : Prop := True
  let fits (_ : Value) : Prop := True
  have takes (state : AggregateFunction.stdevp.reduction.State) (item : Value) (_ : sound state)
      (_ : fits item) :
      ∃ next, AggregateFunction.stdevp.reduction.take state item = .ok next ∧ sound next :=
    ⟨state.add item, rfl, trivial⟩
  have each (row : RowId) : (inner row).Ensures (fun _ => True) (OfValues fits) :=
    fun _ _ => ⟨fun _ _ => trivial, trivial⟩
  exact run_takeRows takes each rows trivial trivial

theorem run_reduce_stdevp :
    (reduce .stdevp inner rows).run run =
      (((rows.mapM inner).run run).1.map fun items =>
          .float64 (deviation (Value.numbers items)),
        ((rows.mapM inner).run run).2) := by
  rw [run_reduce, run_takeRows_stdevp]
  rcases (rows.mapM inner).run run with ⟨error | items, after⟩
  · rfl
  · exact congrArg (·, after) (ofItems_stdevp items)

theorem reduce_stdevp_eq_error_iff {error : EvaluationError} :
    ((reduce .stdevp inner rows).run run).1 = .error error ↔
      ∃ earlier row later items between, rows = earlier ++ row :: later ∧
        (earlier.mapM inner).run run = (.ok items, between) ∧
        ((inner row).run between).1 = .error error := by
  constructor
  · intro fails
    rw [run_reduce] at fails
    rcases run_foldlM_eq_error_iff.mp (Result.map_eq_error fails) with
      ⟨earlier, row, later, moments, between, equal, ran, failed⟩
    rw [run_takeRows_stdevp] at ran
    rcases collected : (earlier.mapM inner).run run with ⟨_ | items, after⟩ <;>
      rw [collected] at ran
    · cases ran
    obtain ⟨-, rfl⟩ := Prod.mk.inj ran
    refine ⟨earlier, row, later, items, after, equal, collected, ?_⟩
    rw [takeRow, run_bind] at failed
    rcases given : (inner row).run after with ⟨_ | item, last⟩ <;> rw [given] at failed
    · exact congrArg Except.error (Except.error.inj failed)
    · cases failed
  · rintro ⟨earlier, row, later, items, between, rfl, collected, fails⟩
    have ran := run_reduce_stdevp inner earlier run
    rw [collected] at ran
    exact reduce_eq_error ran later fails

end Aggregate

namespace Engine

/-- Whether a result is the deviation of the values of a node in some rows, which begin in a run. -/
structure FindsDeviation (engine : Engine) (id : NodeId) (rows : List RowId) (run : Run)
    (result : Except EvaluationError Value) : Prop where
  /-- The result is an error only where the node has none in a row, and then it is the first one. -/
  error_iff {error : EvaluationError} : result = .error error ↔
    ∃ earlier row later items between, rows = earlier ++ row :: later ∧
      (engine.nativeAll id earlier).run run = (.ok items, between) ∧
      ((engine.native id (some row)).run between).1 = .error error
  /-- Whatever the values of the rows are, the result is the deviation of the numbers among them. -/
  eq : result = ((engine.nativeAll id rows).run run).1.map fun items =>
    .float64 (Aggregate.deviation (Value.numbers items))

theorem findsDeviation_reduce (engine : Engine) (id : NodeId) (rows : List RowId) (run : Run) :
    engine.FindsDeviation id rows run
      ((Aggregate.reduce .stdevp (fun row => engine.native id (some row)) rows).run run).1 where
  error_iff := Aggregate.reduce_stdevp_eq_error_iff _ rows run
  eq := congrArg Prod.fst (Aggregate.run_reduce_stdevp _ rows run)

end Engine

/-- The deviation of an expression over any rows is a function of the numbers in them: it fails
where the expression has no value in a row, with the first such error, and otherwise it is the
deviation of the values that are numbers, whatever the others are. So is the value of an aggregate
over its rows that has no kept value. -/
theorem deviation_is_of_numbers {builder : Builder} (built : builder.Built) (number : ProgramId)
    (options : Options) {id inner : NodeId} {scope : Scope} {key : AggregateKey} {kind : Kind}
    (found : builder.nodes[id]? = some (.aggregate .stdevp inner scope key kind)) (run : Run) :
    (∀ rows, (builder.engine number options).FindsDeviation inner rows run
      ((Aggregate.reduce .stdevp
        (fun row => (builder.engine number options).native inner (some row)) rows).run run).1) ∧
    ∀ (row? : Option RowId) {bound : Run} {extent : Extent}, run.bindTo number = .ok bound →
      bound.data.extent? scope row? = some extent →
        (builder.engine number options).kept? bound key = none →
          (builder.engine number options).FindsDeviation inner extent.rows
            ((builder.engine number options).searched bound key)
            (((builder.engine number options).native id row?).run run).1 := by
  refine ⟨fun rows => Engine.findsDeviation_reduce _ inner rows run, ?_⟩
  intro row? bound extent binds covers missing
  have tree : (builder.engine number options).program.tree id =
      .aggregate id .stdevp (builder.tree inner) scope key kind := built.valid.tree_eq found
  have evaluated : (((builder.engine number options).native id row?).run run).1 =
      ((Aggregate.reduce .stdevp
        (fun row => (builder.engine number options).native inner (some row)) extent.rows).run
          ((builder.engine number options).searched bound key)).1 := by
    rw [Engine.native, tree]
    exact Aggregate.result_evaluate binds covers missing
  rw [evaluated]
  exact Engine.findsDeviation_reduce _ inner extent.rows _

def Expression.Builder.deviation : Builder :=
  { nodes := #[.field 0 .object, .aggregate .stdevp 0 .default 0 .float64], nextKey := 1 }

def DataSet.twoNumbers : DataSet :=
  { name := "Numbers", columns := ["number"]
    rows := [[.string "2"], [.string "four"], [], [.string "NaN"], [.object (.array [])],
      [.int32 4]] }

/-- The deviation of two and four is one. -/
theorem two_and_four_deviate_by_one :
    Builder.deviation.Built ∧
      (((Builder.deviation.engine 0 {}).native 1 none).run
        (.start DataSet.twoNumbers.source)).1 = .ok (.float64 (Binary64.ofNat 1)) := by
  have built : Builder.deviation.Built :=
    .step (.step .refl (.field 0 .object)) (.aggregate .stdevp 0 .default (by decide))
  have found : Builder.deviation.nodes[1]? = some (.aggregate .stdevp 0 .default 0 .float64) := rfl
  have finds := (deviation_is_of_numbers built 0 {} found (.start DataSet.twoNumbers.source)).2
    none rfl rfl rfl
  have items : (((Builder.deviation.engine 0 {}).nativeAll 0 [0, 1, 2, 3, 4, 5]).run
      ((Builder.deviation.engine 0 {}).searched
        { Run.start DataSet.twoNumbers.source with program? := some 0 } 0)).1 =
      .ok [.string "2", .string "four", .null, .string "NaN", .object (.array []), .int32 4] := by
    cbv
  have one : Aggregate.deviation (Value.numbers
      [.string "2", .string "four", .null, .string "NaN", .object (.array []), .int32 4]) =
        Binary64.ofNat 1 := by decide +kernel
  refine ⟨built, finds.eq.trans ?_⟩
  change (((Builder.deviation.engine 0 {}).nativeAll 0 [0, 1, 2, 3, 4, 5]).run _).1.map _ = _
  rw [items, ← one]
  rfl

end GroupedReport
