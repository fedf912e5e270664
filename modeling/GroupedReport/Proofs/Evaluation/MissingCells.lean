import GroupedReport.Proofs.Evaluation.Greatest
import GroupedReport.Proofs.Evaluation.Meaning

/-!
# Missing cells under aggregates

A cell is missing if it is null or a double that is not a number. Aggregates leave out what is
missing, but a field converts its cells before they can see them. Null stays null in every kind,
whereas in some kinds a missing double becomes the least value of the kind, which counts as data.
-/

namespace GroupedReport

open Expression

theorem Value.eq_null_or_isNaN {value : Value} (absent : value.isAbsent = true) :
    value = .null ∨ ∃ number, value = .float64 number ∧ number.isNaN = true := by
  cases value with
  | null => exact .inl rfl
  | float64 number => exact .inr ⟨number, rfl, absent⟩
  | _ => cases absent

/-! ## Missing items -/

namespace Aggregate

variable (function : AggregateFunction)

theorem take_of_absent (state : function.reduction.State) {item : Value}
    (absent : item.isAbsent = true) : function.reduction.take state item = .ok state := by
  cases function with
  | max => exact if_pos absent
  | stdevp =>
      have missing : ∃ number, item.toFloat64 = .ok number ∧ number.isNaN = true := by
        rcases Value.eq_null_or_isNaN absent with rfl | ⟨number, rfl, isNaN⟩
        · exact ⟨_, rfl, by decide⟩
        · exact ⟨number, rfl, isNaN⟩
      rcases missing with ⟨number, given, isNaN⟩
      refine congrArg Except.ok ?_
      unfold Moments.add
      rw [given]
      exact if_pos isNaN

theorem ofItems_filter (items : List Value) :
    ofItems function (items.filter (!·.isAbsent)) = ofItems function items := by
  have same : (fun state item => if (!item.isAbsent) = true then function.reduction.take state item
      else pure state) = function.reduction.take := by
    funext state item
    cases absent : item.isAbsent with
    | false => rfl
    | true => exact (take_of_absent function state absent).symm
  rw [ofItems, List.foldlM_filter, same, ofItems]

theorem ofItems_map_filter {rows : List RowId} {item : RowId → Value} {missing : RowId → Bool}
    (absent : ∀ row ∈ rows, missing row = true → (item row).isAbsent = true) :
    ofItems function ((rows.filter (!missing ·)).map item) = ofItems function (rows.map item) := by
  have same : (rows.filter (!missing ·)).filter ((!·.isAbsent) ∘ item) =
      rows.filter ((!·.isAbsent) ∘ item) := by
    rw [List.filter_filter]
    apply List.filter_congr
    intro row member
    cases isMissing : missing row with
    | false => simp
    | true => simp [absent row member isMissing]
  rw [← ofItems_filter, List.filter_map, same, ← List.filter_map, ofItems_filter]

theorem ofItems_of_no_effect {items : List Value}
    (noEffect : ∀ item ∈ items, ∀ state, function.reduction.take state item = .ok state) :
    ofItems function items = .ok (noData function) := by
  have folded : items.foldlM function.reduction.take function.reduction.start =
      .ok function.reduction.start := by
    induction items with
    | nil => rfl
    | cons item rest induction =>
        rw [List.forall_mem_cons] at noEffect
        rw [List.foldlM_cons, noEffect.1]
        exact induction noEffect.2
  rw [ofItems, folded]
  cases function <;> rfl

theorem take_stdevp_of_dateTime {item : Value} (own : item.kind? = some .dateTime)
    (state : Moments) : AggregateFunction.stdevp.reduction.take state item = .ok state := by
  cases item <;> cases own
  rfl

end Aggregate

/-! ## Cells -/

namespace DataSet

def cell (dataSet : DataSet) (column : Nat) (row : RowId) : Value :=
  (dataSet.value row column).toOption.getD .null

def isNullCell (dataSet : DataSet) (column : Nat) (row : RowId) : Bool :=
  (dataSet.cell column row).isNull

def isMissing (dataSet : DataSet) (column : Nat) (row : RowId) : Bool :=
  (dataSet.cell column row).isAbsent

def isMissingDouble (dataSet : DataSet) (column : Nat) (row : RowId) : Bool :=
  dataSet.isMissing column row && !dataSet.isNullCell column row

end DataSet

namespace DataSet

variable {dataSet : DataSet} {column : Nat} {row : RowId}

theorem cell_eq_of_value {cell : Value} (given : dataSet.value row column = .ok cell) :
    dataSet.cell column row = cell := by
  rw [DataSet.cell, given]
  rfl

theorem cell_eq_null (isNull : dataSet.isNullCell column row = true) :
    dataSet.cell column row = .null := by
  rw [isNullCell] at isNull
  cases found : dataSet.cell column row <;> rw [found] at isNull <;> first | rfl | cases isNull

theorem isNaN_of_isMissingDouble (double : dataSet.isMissingDouble column row = true) :
    ∃ number, dataSet.cell column row = .float64 number ∧ number.isNaN = true := by
  rcases Bool.and_eq_true_iff.mp double with ⟨missing, notNull⟩
  rcases Value.eq_null_or_isNaN missing with null | isNaN
  · rw [isNullCell, null] at notNull
    cases notNull
  · exact isNaN

theorem cell_eq_null_of_isMissing (missing : dataSet.isMissing column row = true)
    (noDouble : dataSet.isMissingDouble column row = false) :
    dataSet.cell column row = .null := by
  apply cell_eq_null
  rw [isMissingDouble, missing, Bool.true_and, Bool.not_eq_false'] at noDouble
  exact noDouble

end DataSet

namespace Value

/-- What a field of a kind makes of a cell, null where the cell cannot be converted. -/
def asField (kind : Kind) (cell : Value) : Value :=
  (cell.coerce kind).toOption.getD .null

variable {kind : Kind}

theorem asField_of_coerce {cell item : Value} (converted : cell.coerce kind = .ok item) :
    cell.asField kind = item := by
  rw [asField, converted]
  rfl

theorem asField_of_isNaN (hasSentinel : kind.hasSentinel = true) {number : Float}
    (isNaN : number.isNaN = true) : (float64 number).asField kind = kind.sentinel := by
  apply asField_of_coerce
  cases kind with
  | int32 => exact congrArg (Except.map int32) (if_pos isNaN)
  | decimal => exact congrArg (Except.map decimal) (if_pos isNaN)
  | dateTime => exact congrArg (Except.map dateTime) (if_pos isNaN)
  | boolean | float64 | string | object => cases hasSentinel

theorem asField_null (kind : Kind) : Value.null.asField kind = .null :=
  asField_of_coerce (coerce_of_kind? (.inl rfl))

theorem asField_sentinel (hasSentinel : kind.hasSentinel = true) :
    kind.sentinel.asField kind = kind.sentinel :=
  asField_of_coerce (coerce_of_kind? (.inr (Kind.kind?_sentinel hasSentinel)))

theorem asField_of_isAbsent (keeps : kind = .float64 ∨ kind = .object) {cell : Value}
    (absent : cell.isAbsent = true) : cell.asField kind = cell := by
  apply asField_of_coerce
  rcases eq_null_or_isNaN absent with rfl | ⟨number, rfl, _⟩
  · exact coerce_of_kind? (.inl rfl)
  · rcases keeps with rfl | rfl <;> rfl

theorem kind?_of_coerce (hasSentinel : kind.hasSentinel = true) {cell item : Value}
    (converted : cell.coerce kind = .ok item) (notNull : cell.isNull = false) :
    item.kind? = some kind := by
  rw [coerce, notNull] at converted
  split at converted
  · rename_i unchanged
    cases converted
    exact unchanged.resolve_left Bool.false_ne_true
  · cases kind with
    | int32 | decimal | dateTime =>
        rcases Result.map_eq_ok converted with ⟨_, _, rfl⟩
        rfl
    | boolean | float64 | string | object => cases hasSentinel

end Value

/-! ## The greatest of sentinels -/

namespace Value

variable {kind : Kind} {rows : List RowId} {item : RowId → Value} {missing : RowId → Bool}

section

variable (hasSentinel : kind.hasSentinel = true)
  (dropped : ∀ row ∈ rows, missing row = true → item row = .null ∨ item row = kind.sentinel)
include hasSentinel dropped

theorem isGreatestOf_map_filter {value : Value} (own : value.kind? = some kind) :
    isGreatestOf ((rows.filter (!missing ·)).map item) value =
      isGreatestOf (rows.map item) value := by
  rw [Bool.eq_iff_iff, isGreatestOf_iff, isGreatestOf_iff, List.forall_mem_map, List.forall_mem_map]
  refine and_congr_right fun present => ⟨?_, ?_⟩
  · intro bounds row member itemPresent
    cases isMissing : missing row with
    | false => exact bounds row (List.mem_filter.mpr ⟨member, by rw [isMissing]; rfl⟩) itemPresent
    | true =>
        rcases dropped row member isMissing with null | sentinel
        · rw [null] at itemPresent
          cases itemPresent
        · rw [sentinel]
          exact sentinel_atMost hasSentinel own
  · exact fun bounds row member => bounds row (List.mem_filter.mp member).1

variable (kept : ∀ row ∈ rows, missing row = false → (item row).kind? = some kind)
include kept

theorem fits_of_dropped : ∀ value ∈ rows.map item, value.Fits kind := by
  rw [List.forall_mem_map]
  intro row member
  cases isMissing : missing row with
  | false => exact fits_of_kind? (kept row member isMissing)
  | true =>
      rcases dropped row member isMissing with null | sentinel
      · rw [null]
        exact fits_null kind
      · rw [sentinel]
        exact fits_of_kind? (Kind.kind?_sentinel hasSentinel)

theorem find?_left_of_find? {row : RowId} (isLeft : missing row = false)
    (found : rows.find? (isGreatestOf (rows.map item) ∘ item) = some row) :
    (rows.filter (!missing ·)).find? (isGreatestOf ((rows.filter (!missing ·)).map item) ∘ item) =
      some row := by
  rcases List.find?_eq_some_iff_append.mp found with ⟨greatest, front, back, equal, before⟩
  have same {row : RowId} (member : row ∈ rows) (isLeft : missing row = false) :=
    isGreatestOf_map_filter hasSentinel dropped (kept row member isLeft)
  rw [List.find?_filter]
  refine List.find?_eq_some_iff_append.mpr ⟨?_, front, back, equal, ?_⟩
  · rw [decide_eq_true_eq, Function.comp_apply, same (List.mem_of_find?_eq_some found) isLeft,
      isLeft]
    exact ⟨rfl, greatest⟩
  · intro earlier inFront
    have earlierMember : earlier ∈ rows := by
      rw [equal]
      exact List.mem_append_left _ inFront
    rw [Bool.not_eq_true', decide_eq_false_iff_not]
    rintro ⟨earlierLeft, isGreatest⟩
    rw [Bool.not_eq_true'] at earlierLeft
    rw [Function.comp_apply, same earlierMember earlierLeft] at isGreatest
    have notGreatest := before earlier inFront
    rw [Function.comp_apply, isGreatest] at notGreatest
    cases notGreatest

omit dropped in
theorem eq_sentinel_of_isGreatestOf (greatest : isGreatestOf (rows.map item) kind.sentinel = true)
    {row : RowId} (member : row ∈ rows) (isLeft : missing row = false) :
    item row = kind.sentinel := by
  have data := isData_of_hasSentinel hasSentinel (kept row member isLeft)
  exact eq_sentinel_of_atMost hasSentinel data.1
    ((isGreatestOf_iff.mp greatest).2 (item row) (List.mem_map_of_mem member) data.2)

theorem firstGreatest_map_filter (left : ∃ row ∈ rows, missing row = false) :
    firstGreatest ((rows.filter (!missing ·)).map item) = firstGreatest (rows.map item) := by
  rcases left with ⟨other, otherMember, otherLeft⟩
  have otherOwn := kept other otherMember otherLeft
  rw [firstGreatest, firstGreatest, firstGreatest?, firstGreatest?, List.find?_map, List.find?_map]
  cases found : rows.find? (isGreatestOf (rows.map item) ∘ item) with
  | none =>
      have nothing : firstGreatest? (rows.map item) = none := by
        rw [firstGreatest?, List.find?_map, found]
        rfl
      have absent := Aggregate.isAbsent_of_firstGreatest?_eq_none
        (Kind.transparent_of_hasSentinel hasSentinel) (fits_of_dropped hasSentinel dropped kept)
        nothing (item other) (List.mem_map_of_mem otherMember)
      rw [(isData_of_hasSentinel hasSentinel otherOwn).2] at absent
      cases absent
  | some row =>
      cases isMissing : missing row with
      | false => rw [find?_left_of_find? hasSentinel dropped kept isMissing found]
      | true =>
          have greatest := List.find?_some found
          rw [Function.comp_apply] at greatest
          have sentinel : item row = kind.sentinel := by
            refine (dropped row (List.mem_of_find?_eq_some found) isMissing).resolve_left ?_
            intro null
            rw [null] at greatest
            cases (isGreatestOf_iff.mp greatest).1
          have equals {row : RowId} (member : row ∈ rows) (isLeft : missing row = false) :=
            eq_sentinel_of_isGreatestOf hasSentinel kept (sentinel ▸ greatest) member isLeft
          cases leftFound : (rows.filter (!missing ·)).find?
              (isGreatestOf ((rows.filter (!missing ·)).map item) ∘ item) with
          | none =>
              have notGreatest := List.find?_eq_none.mp leftFound other
                (List.mem_filter.mpr ⟨otherMember, by rw [otherLeft]; rfl⟩)
              rw [Function.comp_apply, isGreatestOf_map_filter hasSentinel dropped otherOwn,
                equals otherMember otherLeft, ← sentinel] at notGreatest
              exact absurd greatest notGreatest
          | some first =>
              rcases List.mem_filter.mp (List.mem_of_find?_eq_some leftFound) with
                ⟨firstMember, firstLeft⟩
              rw [Bool.not_eq_true'] at firstLeft
              rw [Option.map_some, Option.map_some, sentinel, equals firstMember firstLeft]

omit kept dropped in
theorem firstGreatest_eq_sentinel {items : List Value}
    (each : ∀ value ∈ items, value = .null ∨ value = kind.sentinel)
    (member : kind.sentinel ∈ items) : firstGreatest items = kind.sentinel := by
  have sentinelOwn := Kind.kind?_sentinel hasSentinel
  have fits : ∀ value ∈ items, value.Fits kind := by
    intro value valueMember
    rcases each value valueMember with rfl | rfl
    · exact fits_null kind
    · exact fits_of_kind? sentinelOwn
  rw [firstGreatest]
  cases found : firstGreatest? items with
  | none =>
      have absent := Aggregate.isAbsent_of_firstGreatest?_eq_none
        (Kind.transparent_of_hasSentinel hasSentinel) fits found kind.sentinel member
      rw [(isData_of_hasSentinel hasSentinel sentinelOwn).2] at absent
      cases absent
  | some value =>
      rcases each value (List.mem_of_find?_eq_some found) with rfl | rfl
      · cases (isGreatestOf_iff.mp (List.find?_some found)).1
      · rfl

end

end Value

/-! ## Fields -/

theorem Aggregate.reduced_eq_ofItems (function : AggregateFunction) (item : RowId → Value)
    (rows : List RowId) :
    reduced function (fun row => .ok (item row)) rows = ofItems function (rows.map item) := by
  rw [reduced_eq, ofItems, List.foldlM_map]
  change rows.foldlM (fun state row => function.reduction.take state (item row)) _ >>= _ = _
  generalize rows.foldlM (fun state row => function.reduction.take state (item row))
    function.reduction.start = result
  cases result <;> rfl

/-- Whether the cell of a row can be read and converted to a kind. -/
structure DataSet.Converts (dataSet : DataSet) (column : Nat) (kind : Kind) (row : RowId) :
    Prop where
  value : dataSet.value row column = .ok (dataSet.cell column row)
  coerce : (dataSet.cell column row).coerce kind = .ok ((dataSet.cell column row).asField kind)

namespace DataSet

variable {dataSet : DataSet} {column : Nat} {kind : Kind} {row : RowId}
  (hasSentinel : kind.hasSentinel = true)
include hasSentinel

theorem asField_of_isMissingDouble (double : dataSet.isMissingDouble column row = true) :
    (dataSet.cell column row).asField kind = kind.sentinel := by
  rcases isNaN_of_isMissingDouble double with ⟨number, cell, isNaN⟩
  rw [cell, Value.asField_of_isNaN hasSentinel isNaN]

theorem asField_of_isMissing (missing : dataSet.isMissing column row = true) :
    (dataSet.cell column row).asField kind = .null ∨
      (dataSet.cell column row).asField kind = kind.sentinel := by
  cases double : dataSet.isMissingDouble column row with
  | false =>
      rw [cell_eq_null_of_isMissing missing double]
      exact .inl (Value.asField_null kind)
  | true => exact .inr (asField_of_isMissingDouble hasSentinel double)

variable (converts : dataSet.Converts column kind row)
include converts

theorem Converts.kind?_asField (present : dataSet.isMissing column row = false) :
    ((dataSet.cell column row).asField kind).kind? = some kind := by
  apply Value.kind?_of_coerce hasSentinel converts.coerce
  cases found : dataSet.cell column row <;> first
    | rfl
    | rw [isMissing, found] at present
      cases present

theorem Converts.replace {other : DataSet} (given : other.value row column = .ok
    (if dataSet.isMissingDouble column row then kind.sentinel else dataSet.cell column row)) :
    other.Converts column kind row ∧
      (other.cell column row).asField kind = (dataSet.cell column row).asField kind := by
  have same := cell_eq_of_value given
  rw [← same] at given
  cases double : dataSet.isMissingDouble column row with
  | false =>
      rw [double, if_neg Bool.false_ne_true] at same
      exact ⟨⟨given, by rw [same]; exact converts.coerce⟩, by rw [same]⟩
  | true =>
      rw [double, if_pos rfl] at same
      refine ⟨⟨given, ?_⟩, ?_⟩
      · rw [same, Value.asField_sentinel hasSentinel]
        exact Value.coerce_of_kind? (.inr (Kind.kind?_sentinel hasSentinel))
      · rw [same, Value.asField_sentinel hasSentinel,
          asField_of_isMissingDouble hasSentinel double]

end DataSet

def Engine.reduceOver (engine : Engine) (function : AggregateFunction) (id : NodeId) (run : Run)
    (rows : List RowId) : Except EvaluationError Value :=
  ((Aggregate.reduce function (fun row => engine.native id (some row)) rows).run run).1

namespace Engine

variable {engine : Engine} {id : NodeId} {column : Nat} {kind : Kind} {dataSet : DataSet}
  {run : Run} (tree : engine.program.tree id = .field id column kind)
  (reads : run.data = dataSet.source)
include tree reads

theorem converts_of_native {row : RowId} {value : Value}
    (given : ((engine.native id (some row)).run run).1 = .ok value) :
    dataSet.Converts column kind row := by
  rw [native, tree, run_field, reads] at given
  change (dataSet.value row column).bind _ = _ at given
  cases read : dataSet.value row column with
  | error error =>
      rw [read] at given
      cases given
  | ok cell =>
      rw [read] at given
      have converted : cell.coerce kind = .ok value := Result.mapError_eq_ok given
      have same := DataSet.cell_eq_of_value read
      constructor
      · rw [same, read]
      · rw [same, converted, Value.asField_of_coerce converted]

theorem reduceOver_field {rows : List RowId}
    (converts : ∀ row ∈ rows, dataSet.Converts column kind row) (function : AggregateFunction) :
    engine.reduceOver function id run rows =
      Aggregate.ofItems function (rows.map fun row => (dataSet.cell column row).asField kind) := by
  have each : ∀ row ∈ rows, (engine.native id (some row)).Ensures
      (fun other => other.data = dataSet.source)
      (· = .ok ((dataSet.cell column row).asField kind)) := by
    intro row member other same
    rw [native, tree, run_field]
    refine ⟨?_, same⟩
    rw [same]
    change (dataSet.value row column).bind _ = _
    rw [(converts row member).value]
    change ((dataSet.cell column row).coerce kind).mapError EvaluationError.conversion = _
    rw [(converts row member).coerce]
    rfl
  rw [← Aggregate.reduced_eq_ofItems]
  exact (Aggregate.ensures_reduced each function run reads).1

theorem reduceOver_filter {rows : List RowId}
    (converts : ∀ row ∈ rows, dataSet.Converts column kind row) {missing : RowId → Bool}
    (absent : ∀ row ∈ rows, missing row = true →
      ((dataSet.cell column row).asField kind).isAbsent = true) (function : AggregateFunction) :
    engine.reduceOver function id run (rows.filter (!missing ·)) =
      engine.reduceOver function id run rows := by
  rw [reduceOver_field tree reads converts, reduceOver_field tree reads fun row member =>
    converts row (List.mem_filter.mp member).1]
  exact Aggregate.ofItems_map_filter function absent

end Engine

namespace Engine

/-- Whether aggregates of a field leave out its missing cells. -/
structure LeavesOutMissing (engine : Engine) (id : NodeId) (run : Run) (dataSet : DataSet)
    (column : Nat) (rows : List RowId) : Prop where
  filter (function : AggregateFunction) :
    engine.reduceOver function id run (rows.filter (!dataSet.isMissing column ·)) =
      engine.reduceOver function id run rows
  noData (function : AggregateFunction) : (∀ row ∈ rows, dataSet.isMissing column row = true) →
    engine.reduceOver function id run rows = .ok (Aggregate.noData function)

/-- Whether aggregates of a field of some kind count missing doubles as the least value of the kind:
they are as good as cells with this value, which is the greatest one only if nothing else is left,
and of which a deviation is made unless they are points in time. -/
structure CountsSentinels (engine : Engine) (id : NodeId) (run : Run) (dataSet : DataSet)
    (column : Nat) (kind : Kind) (rows : List RowId) : Prop where
  sentinel (function : AggregateFunction) {other : DataSet} {otherRun : Run} :
    otherRun.data = other.source →
      (∀ row ∈ rows, other.value row column =
        .ok (if dataSet.isMissingDouble column row then kind.sentinel
          else dataSet.cell column row)) →
      engine.reduceOver function id otherRun rows = engine.reduceOver function id run rows
  filter : (∃ row ∈ rows, dataSet.isMissing column row = false) →
    engine.reduceOver .max id run (rows.filter (!dataSet.isMissing column ·)) =
      engine.reduceOver .max id run rows
  onlySentinels : (∀ row ∈ rows, dataSet.isMissing column row = true) →
    (∃ row ∈ rows, dataSet.isMissingDouble column row = true) →
      engine.reduceOver .max id run rows = .ok kind.sentinel
  noDeviation : kind = .dateTime →
    engine.reduceOver .stdevp id run rows = .ok (Aggregate.noData .stdevp)

variable {engine : Engine} {id : NodeId} {column : Nat} {kind : Kind} {dataSet : DataSet}
  {run : Run} (tree : engine.program.tree id = .field id column kind)
  (reads : run.data = dataSet.source) {rows : List RowId}
  (converts : ∀ row ∈ rows, dataSet.Converts column kind row)
include tree reads converts

theorem reduceOver_filter_isNullCell (function : AggregateFunction) :
    engine.reduceOver function id run (rows.filter (!dataSet.isNullCell column ·)) =
      engine.reduceOver function id run rows := by
  apply reduceOver_filter tree reads converts
  intro row _ isNull
  rw [DataSet.cell_eq_null isNull, Value.asField_null]
  rfl

theorem leavesOutMissing
    (absent : ∀ row ∈ rows, dataSet.isMissing column row = true →
      ((dataSet.cell column row).asField kind).isAbsent = true) :
    engine.LeavesOutMissing id run dataSet column rows where
  filter := reduceOver_filter tree reads converts absent
  noData function allMissing := by
    rw [reduceOver_field tree reads converts]
    apply Aggregate.ofItems_of_no_effect
    rw [List.forall_mem_map]
    exact fun row member state =>
      Aggregate.take_of_absent function state (absent row member (allMissing row member))

theorem countsSentinels (hasSentinel : kind.hasSentinel = true) :
    engine.CountsSentinels id run dataSet column kind rows := by
  have null_or_sentinel : ∀ row ∈ rows, dataSet.isMissing column row = true →
      (dataSet.cell column row).asField kind = .null ∨
        (dataSet.cell column row).asField kind = kind.sentinel :=
    fun row _ => DataSet.asField_of_isMissing hasSentinel
  have kept (row : RowId) (member : row ∈ rows) :=
    DataSet.Converts.kind?_asField hasSentinel (converts row member)
  have fits := Value.fits_of_dropped hasSentinel null_or_sentinel kept
  have transparent := Kind.transparent_of_hasSentinel hasSentinel
  constructor
  · intro function other otherRun otherReads otherCells
    have replaced (row : RowId) (member : row ∈ rows) :=
      DataSet.Converts.replace hasSentinel (converts row member) (otherCells row member)
    rw [reduceOver_field tree otherReads fun row member => (replaced row member).1,
      reduceOver_field tree reads converts,
      List.map_congr_left fun row member => (replaced row member).2]
  · intro left
    rw [reduceOver_field tree reads converts, reduceOver_field tree reads fun row member =>
      converts row (List.mem_filter.mp member).1, Aggregate.ofItems_max transparent fits,
      Aggregate.ofItems_max transparent fun value member =>
        fits value ((List.filter_sublist.map _).mem member),
      Value.firstGreatest_map_filter hasSentinel null_or_sentinel kept left]
  · rintro allMissing ⟨row, member, double⟩
    rw [reduceOver_field tree reads converts, Aggregate.ofItems_max transparent fits]
    refine congrArg Except.ok (Value.firstGreatest_eq_sentinel hasSentinel ?_ ?_)
    · rw [List.forall_mem_map]
      exact fun row member => null_or_sentinel row member (allMissing row member)
    · exact List.mem_map.mpr
        ⟨row, member, DataSet.asField_of_isMissingDouble hasSentinel double⟩
  · rintro rfl
    rw [reduceOver_field tree reads converts]
    apply Aggregate.ofItems_of_no_effect
    rw [List.forall_mem_map]
    intro row member state
    rcases (fits _ (List.mem_map_of_mem member)).cases transparent with null | own
    · rw [null]
      exact Aggregate.take_of_absent .stdevp state rfl
    · exact Aggregate.take_stdevp_of_dateTime own state

end Engine

/-- Null cells never count. Missing doubles do not count either in fields that leave them alone, or
where there are none; in others they count as the least value of the kind. -/
theorem missing_doubles_count_as_sentinels {builder : Builder} (built : builder.Built)
    (number : ProgramId) (options : Options) {id : NodeId} {column : Nat} {kind : Kind}
    (found : builder.nodes[id]? = some (.field column kind)) (notBoolean : kind ≠ .boolean)
    (notText : kind ≠ .string) (dataSet : DataSet) {run : Run} (reads : run.data = dataSet.source)
    {rows : List RowId}
    (evaluates : ∀ row ∈ rows, ∃ value,
      (((builder.engine number options).native id (some row)).run run).1 = .ok value) :
    (∀ function, (builder.engine number options).reduceOver function id run
        (rows.filter (!dataSet.isNullCell column ·)) =
      (builder.engine number options).reduceOver function id run rows) ∧
    (kind.hasSentinel = false ∨ (∀ row ∈ rows, dataSet.isMissingDouble column row = false) →
      (builder.engine number options).LeavesOutMissing id run dataSet column rows) ∧
    (kind.hasSentinel = true →
      (builder.engine number options).CountsSentinels id run dataSet column kind rows) := by
  have tree : (builder.engine number options).program.tree id = .field id column kind :=
    built.valid.tree_eq found
  have converts : ∀ row ∈ rows, dataSet.Converts column kind row := by
    intro row member
    rcases evaluates row member with ⟨value, given⟩
    exact Engine.converts_of_native tree reads given
  refine ⟨Engine.reduceOver_filter_isNullCell tree reads converts, ?_,
    Engine.countsSentinels tree reads converts⟩
  intro leaves
  apply Engine.leavesOutMissing tree reads converts
  intro row member missing
  rcases leaves with noSentinel | noDouble
  · have keeps : kind = .float64 ∨ kind = .object := by
      cases kind with
      | boolean => exact absurd rfl notBoolean
      | string => exact absurd rfl notText
      | float64 => exact .inl rfl
      | object => exact .inr rfl
      | int32 | decimal | dateTime => cases noSentinel
    rw [Value.asField_of_isAbsent keeps missing]
    exact missing
  · rw [DataSet.cell_eq_null_of_isMissing missing (noDouble row member), Value.asField_null]
    rfl

def DataSet.sevenAndMissing : DataSet :=
  { name := "Numbers", columns := ["number"]
    rows := [[.int32 3], [.float64 Binary64.notANumber], [.int32 7]] }

/-- What a missing double counts as does not matter beside of seven. -/
theorem seven_is_greater_than_sentinel :
    Builder.greatest.Built ∧
      (∀ row ∈ [0, 1, 2], ∃ value, (((Builder.greatest.engine 0 {}).native 0 (some row)).run
        (.start DataSet.sevenAndMissing.source)).1 = .ok value) ∧
      (Builder.greatest.engine 0 {}).reduceOver .max 0 (.start DataSet.sevenAndMissing.source)
        [0, 1, 2] = .ok (.int32 7) := by
  have found : Builder.greatest.nodes[0]? = some (.field 0 .int32) := rfl
  have reads : (Run.start DataSet.sevenAndMissing.source).data = DataSet.sevenAndMissing.source :=
    rfl
  have evaluates : ∀ row ∈ [0, 1, 2], ∃ value, (((Builder.greatest.engine 0 {}).native 0
      (some row)).run (.start DataSet.sevenAndMissing.source)).1 = .ok value := by
    rw [List.forall_mem_cons, List.forall_mem_cons, List.forall_mem_singleton]
    exact ⟨⟨.int32 3, by cbv⟩, ⟨.int32 Int32.minValue, by cbv⟩, ⟨.int32 7, by cbv⟩⟩
  have counts := (missing_doubles_count_as_sentinels Builder.built_greatest 0 {} found (by decide)
    (by decide) DataSet.sevenAndMissing reads evaluates).2.2 rfl
  refine ⟨Builder.built_greatest, evaluates, ?_⟩
  rw [← counts.filter ⟨0, by decide, by decide⟩]
  cbv

def DataSet.missingNumber : DataSet :=
  { name := "Numbers", columns := ["number"], rows := [[.float64 Binary64.notANumber]] }

/-- Where nothing else is left, a missing double is the greatest number: it counts as the least one,
and not as no data. -/
theorem missing_number_is_greatest :
    (∀ row ∈ [0], ∃ value, (((Builder.greatest.engine 0 {}).native 0 (some row)).run
      (.start DataSet.missingNumber.source)).1 = .ok value) ∧
      (Builder.greatest.engine 0 {}).reduceOver .max 0 (.start DataSet.missingNumber.source) [0] =
        .ok (.int32 Int32.minValue) ∧
      ¬(Builder.greatest.engine 0 {}).LeavesOutMissing 0 (.start DataSet.missingNumber.source)
        DataSet.missingNumber 0 [0] := by
  have greatest : (Builder.greatest.engine 0 {}).reduceOver .max 0
      (.start DataSet.missingNumber.source) [0] = .ok (.int32 Int32.minValue) := by cbv
  refine ⟨?_, greatest, ?_⟩
  · rw [List.forall_mem_singleton]
    exact ⟨.int32 Int32.minValue, by cbv⟩
  · intro leaves
    have noData := leaves.noData .max (by decide)
    rw [greatest] at noData
    cases noData

end GroupedReport
