import GroupedReport.Proofs.Evaluation.Origins

/-!
# The greatest value

The greatest value of some rows is the first one that no other is greater than, where missing data
counts for nothing. Values of one kind always have a greatest one, so that looking for it fails only
where the expression fails in a row.
-/

namespace GroupedReport

open Expression

/-! ## The greatest of some items -/

namespace Value

/-- Whether a value is not missing, and no item that is not missing is greater. -/
def isGreatestOf (items : List Value) (value : Value) : Bool :=
  !value.isAbsent && items.all fun item => item.isAbsent || item.atMost value

/-- The first of some items that no other one is greater than. -/
def firstGreatest? (items : List Value) : Option Value :=
  items.find? (isGreatestOf items)

def firstGreatest (items : List Value) : Value :=
  (firstGreatest? items).getD .null

variable {kind : Kind} {items : List Value} {value item : Value}

theorem isGreatestOf_iff : isGreatestOf items value = true ↔
    value.isAbsent = false ∧ ∀ item ∈ items, item.isAbsent = false → item.atMost value = true := by
  simp [isGreatestOf, or_iff_not_imp_left]

theorem isGreatestOf_concat (items : List Value) (item value : Value) :
    isGreatestOf (items ++ [item]) value =
      (isGreatestOf items value && (item.isAbsent || item.atMost value)) := by
  simp [isGreatestOf, Bool.and_assoc]

theorem firstGreatest?_concat_of_absent (absent : item.isAbsent = true) :
    firstGreatest? (items ++ [item]) = firstGreatest? items := by
  have same : isGreatestOf (items ++ [item]) = isGreatestOf items := by
    funext value
    rw [isGreatestOf_concat, absent, Bool.true_or, Bool.and_true]
  have none : [item].find? (isGreatestOf items) = none := by
    simp [isGreatestOf, absent]
  rw [firstGreatest?, same, List.find?_append, none, Option.or_none, firstGreatest?]

variable (transparent : kind ≠ .object) (itemFits : item.Fits kind)
include transparent itemFits

theorem atMost_self (present : item.isAbsent = false) : item.atMost item = true := by
  have data := itemFits.isData transparent present
  rcases exists_compare? transparent data data with ⟨order, compared, swapped⟩
  rw [compared] at swapped
  rw [atMost, compared]
  cases order <;> cases swapped
  rfl

theorem firstGreatest?_concat_of_greater (present : item.isAbsent = false)
    (greater : ∀ other ∈ items, other.isAbsent = false →
      other.atMost item = true ∧ item.atMost other = false) :
    firstGreatest? (items ++ [item]) = some item := by
  have none : items.find? (isGreatestOf (items ++ [item])) = none := by
    rw [List.find?_eq_none]
    intro other member greatest
    rcases isGreatestOf_iff.mp greatest with ⟨otherPresent, bounds⟩
    have notAbove := (greater other member otherPresent).2
    rw [bounds item List.mem_concat_self present] at notAbove
    cases notAbove
  have greatest : isGreatestOf (items ++ [item]) item = true := by
    rw [isGreatestOf_iff]
    refine ⟨present, fun other member otherPresent => ?_⟩
    rcases List.mem_append.mp member with old | new
    · exact (greater other old otherPresent).1
    · rw [List.mem_singleton.mp new]
      exact atMost_self transparent itemFits present
  rw [firstGreatest?, List.find?_append, none, Option.none_or, List.find?_cons_of_pos greatest]

variable (fits : ∀ other ∈ items, other.Fits kind) {current : Value}
  (found : firstGreatest? items = some current) (present : item.isAbsent = false)
include fits found present

theorem firstGreatest?_concat_of_lt (less : current.compare? item = some .lt) :
    firstGreatest? (items ++ [item]) = some item := by
  rcases isGreatestOf_iff.mp (List.find?_some found) with ⟨currentPresent, bounds⟩
  have currentData :=
    (fits current (List.mem_of_find?_eq_some found)).isData transparent currentPresent
  have itemData := itemFits.isData transparent present
  have below : current.atMost item = true := by
    rw [atMost, less]
    rfl
  have notAbove := atMost_eq_false_of_compare?_eq_lt transparent currentData itemData less
  apply firstGreatest?_concat_of_greater transparent itemFits present
  intro other member otherPresent
  have otherData := (fits other member).isData transparent otherPresent
  have otherBelow := bounds other member otherPresent
  refine ⟨atMost_trans transparent otherData currentData itemData otherBelow below, ?_⟩
  cases above : item.atMost other with
  | false => rfl
  | true =>
      rw [atMost_trans transparent itemData otherData currentData above otherBelow] at notAbove
      cases notAbove

theorem firstGreatest?_concat_of_not_lt (notLess : current.compare? item ≠ some .lt) :
    firstGreatest? (items ++ [item]) = some current := by
  rcases List.find?_eq_some_iff_append.mp found with ⟨greatest, front, back, equal, before⟩
  have currentPresent := (isGreatestOf_iff.mp greatest).1
  have currentData :=
    (fits current (List.mem_of_find?_eq_some found)).isData transparent currentPresent
  have below := atMost_of_compare?_ne_lt transparent currentData
    (itemFits.isData transparent present) notLess
  have same : items.find? (isGreatestOf (items ++ [item])) = some current := by
    refine List.find?_eq_some_iff_append.mpr ⟨?_, front, back, equal, ?_⟩
    · rw [isGreatestOf_concat, greatest, below, Bool.or_true, Bool.and_true]
    · intro other member
      have notGreatest := before other member
      rw [Bool.not_eq_true'] at notGreatest
      rw [isGreatestOf_concat, notGreatest]
      rfl
  rw [firstGreatest?, List.find?_append, same, Option.some_or]

end Value

/-! ## Reductions of items -/

namespace Aggregate

open Evaluate

def ofItems (function : AggregateFunction) (items : List Value) : Except EvaluationError Value :=
  (items.foldlM function.reduction.take function.reduction.start).map function.reduction.finish

variable {invariant : Run → Prop} {kind : Kind} {inner : RowId → Evaluate Value}

/-- Values that are taken in without an error are taken in as if they were all given before. -/
theorem run_takeRows {function : AggregateFunction} {sound : function.reduction.State → Prop}
    {fits : Value → Prop}
    (takes : ∀ state item, sound state → fits item →
      ∃ next, function.reduction.take state item = .ok next ∧ sound next)
    (each : ∀ row, (inner row).Ensures invariant (OfValues fits))
    (rows : List RowId) {state : function.reduction.State} (stateSound : sound state) {run : Run}
    (kept : invariant run) :
    (rows.foldlM (takeRow function inner) state).run run =
      (((rows.mapM inner).run run).1.bind fun items =>
          items.foldlM function.reduction.take state,
        ((rows.mapM inner).run run).2) := by
  induction rows generalizing state run with
  | nil => rfl
  | cons row rest induction =>
      rw [List.foldlM_cons, List.mapM_cons, run_bind, run_bind, takeRow, run_bind]
      have itemFits := (each row run kept).1
      have still := (each row run kept).2
      rcases given : (inner row).run run with ⟨error | item, after⟩
      · rfl
      · rw [given] at itemFits still
        rcases takes state item stateSound (itemFits item rfl) with ⟨next, taken, nextSound⟩
        dsimp only
        rw [run_ofResult, taken]
        dsimp only
        rw [induction nextSound still, run_bind_pure]
        rcases (rest.mapM inner).run after with ⟨error | items, last⟩
        · rfl
        · change (List.foldlM _ next items, last) = (List.foldlM _ state (item :: items), last)
          rw [List.foldlM_cons, taken]
          rfl

theorem run_reduce_items (transparent : kind ≠ .object)
    (each : ∀ row, (inner row).Ensures invariant (OfValues (Value.Fits · kind)))
    (function : AggregateFunction) (rows : List RowId) {run : Run} (kept : invariant run) :
    (reduce function inner rows).run run =
      (((rows.mapM inner).run run).1.bind (ofItems function), ((rows.mapM inner).run run).2) := by
  rcases take_ok transparent function with ⟨sound, start, takes⟩
  rw [run_reduce, run_takeRows takes each rows start kept]
  rcases (rows.mapM inner).run run with ⟨error | items, after⟩ <;> rfl

/-! ## The greatest item -/

section

variable (transparent : kind ≠ .object)
include transparent

theorem greater_eq {items : List Value} {item : Value} (fits : ∀ other ∈ items, other.Fits kind)
    (itemFits : item.Fits kind)
    (absent : Value.firstGreatest? items = none → ∀ other ∈ items, other.isAbsent = true) :
    greater (Value.firstGreatest? items) item = .ok (Value.firstGreatest? (items ++ [item])) := by
  unfold greater
  cases missing : item.isAbsent with
  | true =>
      rw [if_pos rfl, Value.firstGreatest?_concat_of_absent missing]
  | false =>
      rw [if_neg Bool.false_ne_true]
      cases found : Value.firstGreatest? items with
      | none =>
          rw [Value.firstGreatest?_concat_of_greater transparent itemFits missing]
          intro other member present
          rw [absent found other member] at present
          cases present
      | some current =>
          have currentPresent := (Value.isGreatestOf_iff.mp (List.find?_some found)).1
          have currentFits := fits current (List.mem_of_find?_eq_some found)
          rcases Value.exists_compare? transparent (currentFits.isData transparent currentPresent)
            (itemFits.isData transparent missing) with ⟨order, compared, _⟩
          dsimp only
          cases order with
          | lt =>
              rw [compared, Value.firstGreatest?_concat_of_lt transparent itemFits fits found
                missing compared]
          | eq | gt =>
              rw [Value.firstGreatest?_concat_of_not_lt transparent itemFits fits found missing
                (by rw [compared]; decide), compared]

omit transparent in
theorem greater_eq_ok_none {greatest : Option Value} {item : Value}
    (taken : greater greatest item = .ok none) : greatest = none ∧ item.isAbsent = true := by
  unfold greater at taken
  split at taken
  · rename_i missing
    exact ⟨Except.ok.inj taken, missing⟩
  · split at taken
    · cases taken
    · split at taken <;> cases taken

theorem isAbsent_of_firstGreatest?_eq_none {items : List Value}
    (fits : ∀ item ∈ items, item.Fits kind) (nothing : Value.firstGreatest? items = none) :
    ∀ item ∈ items, item.isAbsent = true := by
  induction items using List.reverseRecOn with
  | nil => exact List.forall_mem_nil _
  | append_singleton items item induction =>
      rw [List.forall_mem_append, List.forall_mem_singleton] at fits ⊢
      have taken := greater_eq transparent fits.1 fits.2 (induction fits.1)
      rw [nothing] at taken
      rcases greater_eq_ok_none taken with ⟨before, missing⟩
      exact ⟨induction fits.1 before, missing⟩

theorem foldlM_greater {items : List Value} (seen : List Value)
    (fits : ∀ item ∈ seen ++ items, item.Fits kind) :
    items.foldlM greater (Value.firstGreatest? seen) =
      .ok (Value.firstGreatest? (seen ++ items)) := by
  induction items generalizing seen with
  | nil =>
      rw [List.append_nil]
      rfl
  | cons item rest induction =>
      have split : seen ++ item :: rest = seen ++ [item] ++ rest := by simp
      rw [split] at fits ⊢
      have seenFits := (List.forall_mem_append.mp fits).1
      rw [List.forall_mem_append, List.forall_mem_singleton] at seenFits
      rw [List.foldlM_cons, greater_eq transparent seenFits.1 seenFits.2
        (isAbsent_of_firstGreatest?_eq_none transparent seenFits.1)]
      exact induction (seen ++ [item]) fits

theorem ofItems_max {items : List Value} (fits : ∀ item ∈ items, item.Fits kind) :
    ofItems .max items = .ok (Value.firstGreatest items) := by
  have folded : items.foldlM greater none = .ok (Value.firstGreatest? ([] ++ items)) :=
    foldlM_greater transparent [] fits
  change (items.foldlM greater none).map _ = _
  rw [folded]
  rfl

end

end Aggregate

namespace Value

variable {kind : Kind} {items : List Value}

theorem firstGreatest_filter (items : List Value) :
    firstGreatest (items.filter (!·.isAbsent)) = firstGreatest items := by
  have same : isGreatestOf (items.filter (!·.isAbsent)) = isGreatestOf items := by
    funext value
    simp [isGreatestOf, List.all_filter]
  have present :
      (fun value => decide ((!value.isAbsent) = true ∧ isGreatestOf items value = true)) =
        isGreatestOf items := by
    funext value
    rw [Bool.eq_iff_iff, decide_eq_true_eq, isGreatestOf, Bool.and_eq_true, and_self_left]
  rw [firstGreatest, firstGreatest?, same, List.find?_filter, present, ← firstGreatest?,
    ← firstGreatest]

theorem firstGreatest_eq_null_iff_eq_none :
    firstGreatest items = .null ↔ firstGreatest? items = none := by
  rw [firstGreatest]
  cases found : firstGreatest? items with
  | none => exact ⟨fun _ => rfl, fun _ => rfl⟩
  | some value =>
      refine iff_of_false ?_ nofun
      rintro rfl
      cases (isGreatestOf_iff.mp (List.find?_some found)).1

variable (transparent : kind ≠ .object) (fits : ∀ item ∈ items, item.Fits kind)
include transparent fits

theorem firstGreatest_eq_null_iff :
    firstGreatest items = .null ↔ ∀ item ∈ items, item.isAbsent = true := by
  rw [firstGreatest_eq_null_iff_eq_none]
  refine ⟨Aggregate.isAbsent_of_firstGreatest?_eq_none transparent fits, fun absent => ?_⟩
  rw [firstGreatest?, List.find?_eq_none]
  intro item member greatest
  have missing := absent item member
  rw [(isGreatestOf_iff.mp greatest).1] at missing
  cases missing

theorem firstGreatest_of_perm {others : List Value} (permuted : items.Perm others) :
    (firstGreatest items = .null ∧ firstGreatest others = .null) ∨
      (firstGreatest items).compare? (firstGreatest others) = some .eq := by
  have otherFits : ∀ item ∈ others, item.Fits kind :=
    fun item member => fits item (permuted.mem_iff.mpr member)
  have nothing_iff : firstGreatest items = .null ↔ firstGreatest others = .null := by
    rw [firstGreatest_eq_null_iff transparent fits, firstGreatest_eq_null_iff transparent otherFits]
    exact forall_congr' fun item => imp_congr_left permuted.mem_iff
  by_cases nothing : firstGreatest items = .null
  · exact .inl ⟨nothing, nothing_iff.mp nothing⟩
  · have otherNothing := mt nothing_iff.mpr nothing
    rw [firstGreatest_eq_null_iff_eq_none] at nothing otherNothing
    rcases Option.ne_none_iff_exists'.mp nothing with ⟨value, found⟩
    rcases Option.ne_none_iff_exists'.mp otherNothing with ⟨other, otherFound⟩
    rw [firstGreatest, firstGreatest, found, otherFound]
    rcases isGreatestOf_iff.mp (List.find?_some found) with ⟨present, bounds⟩
    rcases isGreatestOf_iff.mp (List.find?_some otherFound) with ⟨otherPresent, otherBounds⟩
    have member := List.mem_of_find?_eq_some found
    have otherMember := List.mem_of_find?_eq_some otherFound
    exact .inr (compare?_eq_eq transparent ((fits value member).isData transparent present)
      ((otherFits other otherMember).isData transparent otherPresent)
      (otherBounds value (permuted.mem_iff.mp member) present)
      (bounds other (permuted.mem_iff.mpr otherMember) otherPresent))

end Value

/-! ## Greatest values of rows -/

namespace Engine

def nativeAll (engine : Engine) (id : NodeId) (rows : List RowId) : Evaluate (List Value) :=
  rows.mapM fun row => engine.native id (some row)

/-- Whether a result is the greatest value of a node in some rows, which begin in a run. -/
structure FindsGreatest (engine : Engine) (id : NodeId) (rows : List RowId) (run : Run)
    (result : Except EvaluationError Value) : Prop where
  /-- The result is the first error of a row, or the first greatest value without one. -/
  eq : result = ((engine.nativeAll id rows).run run).1.map Value.firstGreatest
  null_iff {items : List Value} : ((engine.nativeAll id rows).run run).1 = .ok items →
    (Value.firstGreatest items = .null ↔ ∀ item ∈ items, item.isAbsent = true)
  filter {items : List Value} : ((engine.nativeAll id rows).run run).1 = .ok items →
    Value.firstGreatest (items.filter (!·.isAbsent)) = Value.firstGreatest items
  perm {items others : List Value} : ((engine.nativeAll id rows).run run).1 = .ok items →
    items.Perm others →
      (Value.firstGreatest items = .null ∧ Value.firstGreatest others = .null) ∨
        (Value.firstGreatest items).compare? (Value.firstGreatest others) = some .eq

end Engine

namespace Expression.Builder.Valid

variable {builder : Builder} (valid : builder.Valid) {number : ProgramId} {options : Options}
  {inner : NodeId} (transparent : builder.kind inner ≠ .object) {run : Run}
  (keeps : run.KeepsKinds builder)
include valid transparent keeps

theorem findsGreatest_reduce (rows : List RowId) :
    (builder.engine number options).FindsGreatest inner rows run
      ((Aggregate.reduce .max
        (fun row => (builder.engine number options).native inner (some row)) rows).run run).1 := by
  have each (row : RowId) : ((builder.engine number options).native inner (some row)).Ensures
      (Run.KeepsKinds builder) (Evaluate.OfValues (Value.Fits · (builder.kind inner))) :=
    valid.ensures_evaluateTree _ inner (some row)
  have fits := (Evaluate.ensures_mapM each rows run keeps).1
  constructor
  · rw [Aggregate.run_reduce_items transparent each .max rows keeps, Engine.nativeAll]
    rcases given : (rows.mapM fun row =>
      (builder.engine number options).native inner (some row)).run run with ⟨error | items, after⟩
    · rfl
    · rw [given] at fits
      exact Aggregate.ofItems_max transparent (fits items rfl)
  · intro items given
    exact Value.firstGreatest_eq_null_iff transparent (fits items given)
  · intro items _
    exact Value.firstGreatest_filter items
  · intro items others given
    exact Value.firstGreatest_of_perm transparent (fits items given)

theorem findsGreatest_native {id : NodeId} {scope : Scope} {key : AggregateKey} {kind : Kind}
    (found : builder.nodes[id]? = some (.aggregate .max inner scope key kind))
    {row? : Option RowId} {bound : Run} {extent : Extent} (binds : run.bindTo number = .ok bound)
    (covers : bound.data.extent? scope row? = some extent)
    (missing : (builder.engine number options).kept? bound key = none) :
    (builder.engine number options).FindsGreatest inner extent.rows
      ((builder.engine number options).searched bound key)
      (((builder.engine number options).native id row?).run run).1 := by
  have searchedKeeps :
      Run.KeepsKinds builder ((builder.engine number options).searched bound key) :=
    Run.Steady.searched (steady_keepsKinds builder number) binds key keeps
  have evaluated : (((builder.engine number options).native id row?).run run).1 =
      ((Aggregate.reduce .max
        (fun row => (builder.engine number options).native inner (some row)) extent.rows).run
          ((builder.engine number options).searched bound key)).1 := by
    have tree : (builder.engine number options).program.tree id =
        .aggregate id .max (builder.tree inner) scope key kind := valid.tree_eq found
    rw [Engine.native, tree]
    exact Aggregate.result_evaluate binds covers missing
  rw [evaluated]
  exact valid.findsGreatest_reduce transparent searchedKeeps extent.rows

end Expression.Builder.Valid

/-- The greatest value of an expression that is not opaque is found in any rows: going through them
gives the first greatest of its values, and so does an aggregate over them that has no kept
value. -/
theorem max_finds_first_greatest {builder : Builder} (built : builder.Built) (number : ProgramId)
    (data : DataSource) {run : Run} (reached : run.Reached (.ofBuilder number builder) data)
    (options : Options) {id inner : NodeId} {scope : Scope} {key : AggregateKey} {kind : Kind}
    (found : builder.nodes[id]? = some (.aggregate .max inner scope key kind))
    (transparent : builder.kind inner ≠ .object) :
    (∀ rows, (builder.engine number options).FindsGreatest inner rows run
      ((Aggregate.reduce .max
        (fun row => (builder.engine number options).native inner (some row)) rows).run run).1) ∧
    ∀ (row? : Option RowId) {bound : Run} {extent : Extent}, run.bindTo number = .ok bound →
      data.extent? scope row? = some extent →
        (builder.engine number options).kept? bound key = none →
          (builder.engine number options).FindsGreatest inner extent.rows
            ((builder.engine number options).searched bound key)
            (((builder.engine number options).native id row?).run run).1 := by
  have keeps := reached.keepsKinds built.valid
  refine ⟨fun rows => built.valid.findsGreatest_reduce transparent keeps rows, ?_⟩
  intro row? bound extent binds covers missing
  have boundData : bound.data = data :=
    (Run.alike_bindTo binds).1.data.trans reached.data_eq
  rw [← boundData] at covers
  exact built.valid.findsGreatest_native transparent keeps found binds covers missing

def DataSet.sevenTwice : DataSet :=
  { name := "Numbers", columns := ["number"]
    rows := [[.int32 3], [.int32 7], [.null], [.int32 7]] }

/-- Seven is the first greatest of the numbers. -/
theorem max_finds_seven :
    Builder.greatest.Built ∧
      (Run.start DataSet.sevenTwice.source).Reached (.ofBuilder 0 .greatest)
        DataSet.sevenTwice.source ∧
      (((Builder.greatest.engine 0 {}).native 1 none).run
        (.start DataSet.sevenTwice.source)).1 = .ok (.int32 7) ∧
      Value.firstGreatest [.int32 3, .int32 7, .null, .int32 7] = .int32 7 := by
  have found : Builder.greatest.nodes[1]? = some (.aggregate .max 0 .default 0 .int32) := rfl
  have finds := max_finds_first_greatest Builder.built_greatest 0 DataSet.sevenTwice.source .start
    {} found (by decide)
  have greatest := (finds.2 none rfl rfl rfl).eq
  refine ⟨Builder.built_greatest, .start, greatest.trans ?_, by cbv⟩
  cbv

end GroupedReport
