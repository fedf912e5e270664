import GroupedReport.Proofs.Evaluation.Comparison
import GroupedReport.Proofs.Evaluation.Folding
import Mathlib.Data.Int.ModEq

/-!
# Arithmetic of 32 bits

Every operation on numbers of 32 bits wraps around on its own. Together they wrap around once: an
expression has the number that its exact integer leaves modulo the word size, and it is null where
one of its leaves is.
-/

namespace GroupedReport

open Expression

/-! ## Operations on integers -/

def Arithmetic.integer : Arithmetic → Int → Int → Int
  | plus, left, right => left + right
  | minus, left, right => left - right
  | multiply, left, right => left * right
  | divide, left, right => left.tdiv right

def Arithmetic.isModular : Arithmetic → Bool
  | plus | minus | multiply => true
  | divide => false

theorem bmod_modEq (integer : Int) : integer.bmod (2 ^ 32) ≡ integer [ZMOD 2 ^ 32] :=
  Int.bmod_emod

theorem Operator.int32_modEq {operation : Arithmetic} (modular : operation.isModular = true)
    (left right : Int32) :
    ∃ result, int32 operation left right = .ok result ∧
      result.toInt ≡ operation.integer left.toInt right.toInt [ZMOD 2 ^ 32] := by
  cases operation with
  | plus => exact ⟨_, rfl, Int32.toInt_add left right ▸ bmod_modEq _⟩
  | minus => exact ⟨_, rfl, Int32.toInt_sub left right ▸ bmod_modEq _⟩
  | multiply => exact ⟨_, rfl, Int32.toInt_mul left right ▸ bmod_modEq _⟩
  | divide => cases modular

theorem Arithmetic.integer_modEq {operation : Arithmetic} (modular : operation.isModular = true)
    {left right exactLeft exactRight : Int} (leftEqual : left ≡ exactLeft [ZMOD 2 ^ 32])
    (rightEqual : right ≡ exactRight [ZMOD 2 ^ 32]) :
    operation.integer left right ≡ operation.integer exactLeft exactRight [ZMOD 2 ^ 32] := by
  cases operation with
  | plus => exact leftEqual.add rightEqual
  | minus => exact leftEqual.sub rightEqual
  | multiply => exact leftEqual.mul rightEqual
  | divide => cases modular

/-! ## Values -/

namespace Value

def IsInt32OrNull (value : Value) : Prop :=
  value = .null ∨ ∃ number : Int32, value = .int32 number

def integer : Value → Int
  | int32 number => number.toInt
  | _ => 0

/-- What the value of an expression is by its leaves: null if one of them is, and otherwise the
number of 32 bits that an integer leaves modulo the word size. -/
structure IsResidue (value : Value) (leaves : List Value) (integer : Int) : Prop where
  missing : .null ∈ leaves → value = .null
  present : .null ∉ leaves → ∃ number : Int32,
    value = .int32 number ∧ number.toInt ≡ integer [ZMOD 2 ^ 32]

variable {value left right : Value} {leaves leftLeaves rightLeaves : List Value}
  {integer leftInteger rightInteger : Int}

theorem IsInt32OrNull.isResidue (isNumber : value.IsInt32OrNull) :
    value.IsResidue [value] value.integer := by
  rcases isNumber with rfl | ⟨number, rfl⟩
  · exact ⟨fun _ => rfl, fun absent => absurd List.mem_cons_self absent⟩
  · refine ⟨?_, fun _ => ⟨number, rfl, .rfl⟩⟩
    intro missing
    cases List.mem_singleton.mp missing

theorem IsResidue.cases (residue : value.IsResidue leaves integer) :
    (.null ∈ leaves ∧ value = .null) ∨
      ∃ number : Int32, .null ∉ leaves ∧ value = .int32 number ∧
        number.toInt ≡ integer [ZMOD 2 ^ 32] := by
  by_cases missing : .null ∈ leaves
  · exact .inl ⟨missing, residue.missing missing⟩
  · rcases residue.present missing with ⟨number, equal, congruent⟩
    exact .inr ⟨number, missing, equal, congruent⟩

theorem isResidue_null (missing : .null ∈ leaves) : null.IsResidue leaves integer :=
  ⟨fun _ => rfl, fun absent => absurd missing absent⟩

theorem IsResidue.evaluated (residue : value.IsResidue leaves integer) :
    (if value.isAbsent then .null else value) = value := by
  rcases residue.cases with ⟨_, rfl⟩ | ⟨number, _, rfl, _⟩
  · rfl
  · rfl

theorem IsResidue.negate (residue : value.IsResidue leaves integer) :
    ∃ result, Operator.unary (.negate .int32) value = .ok result ∧
      result.IsResidue leaves (-integer) := by
  rcases residue.cases with ⟨missing, rfl⟩ | ⟨number, present, rfl, congruent⟩
  · exact ⟨_, rfl, isResidue_null missing⟩
  · have negated : (-number).toInt ≡ -integer [ZMOD 2 ^ 32] := by
      rw [Int32.toInt_neg]
      exact (bmod_modEq _).trans congruent.neg
    exact ⟨_, rfl, fun missing => absurd missing present, fun _ => ⟨_, rfl, negated⟩⟩

theorem IsResidue.arithmetic {operation : Arithmetic} (modular : operation.isModular = true)
    (leftResidue : left.IsResidue leftLeaves leftInteger)
    (rightResidue : right.IsResidue rightLeaves rightInteger) :
    ∃ result, Operator.binary (.arithmetic operation .int32) left right = .ok result ∧
      result.IsResidue (leftLeaves ++ rightLeaves)
        (operation.integer leftInteger rightInteger) := by
  rcases leftResidue.cases with ⟨missing, rfl⟩ | ⟨leftNumber, leftPresent, rfl, leftEqual⟩
  · exact ⟨_, rfl, isResidue_null (List.mem_append_left _ missing)⟩
  · rcases rightResidue.cases with ⟨missing, rfl⟩ | ⟨rightNumber, rightPresent, rfl, rightEqual⟩
    · exact ⟨_, rfl, isResidue_null (List.mem_append_right _ missing)⟩
    · rcases Operator.int32_modEq modular leftNumber rightNumber with ⟨result, computed, wrapped⟩
      refine ⟨.int32 result, ?_, ?_, ?_⟩
      · change Value.int32 <$> Operator.int32 operation leftNumber rightNumber = _
        rw [computed]
        rfl
      · intro missing
        exact absurd missing (List.not_mem_append leftPresent rightPresent)
      · intro _
        exact ⟨result, rfl, wrapped.trans (Arithmetic.integer_modEq modular leftEqual rightEqual)⟩

end Value

/-! ## Expressions -/

namespace Expression.Tree

/-- Whether a tree adds, subtracts, multiplies and negates in 32 bits, and has nothing but numbers
of 32 bits, nulls of their kind and columns of them at its leaves. -/
def IsIntegral : Tree → Prop
  | literal _ value kind => kind = .int32 ∧ value.IsInt32OrNull
  | field _ _ kind => kind = .int32
  | unary _ operator operand => operator = .negate .int32 ∧ operand.IsIntegral
  | binary _ operator left right =>
      (∃ operation, operator = .arithmetic operation .int32 ∧ operation.isModular = true) ∧
        left.IsIntegral ∧ right.IsIntegral
  | unknown _ | aggregate _ _ _ _ _ _ => False

/-- The values at the leaves of a tree, where columns have the values of some cells. -/
def leaves (cell : Nat → Value) : Tree → List Value
  | unknown _ => []
  | literal _ value _ => [value]
  | field _ column _ => [cell column]
  | unary _ _ operand => operand.leaves cell
  | binary _ _ left right => left.leaves cell ++ right.leaves cell
  | aggregate _ _ inner _ _ _ => inner.leaves cell

def integer (cell : Nat → Value) : Tree → Int
  | literal _ value _ => value.integer
  | field _ column _ => (cell column).integer
  | unary _ _ operand => -operand.integer cell
  | binary _ (.arithmetic operation _) left right =>
      operation.integer (left.integer cell) (right.integer cell)
  | unknown _ | binary _ _ _ _ | aggregate _ _ _ _ _ _ => 0

theorem IsIntegral.foldsExactly {tree : Tree} (integral : tree.IsIntegral) :
    tree.FoldsExactly := by
  induction tree with
  | unknown | aggregate => cases integral
  | literal | field => trivial
  | unary id operator operand induction => exact induction integral.2
  | binary id operator left right leftInduction rightInduction =>
      rcases integral with ⟨⟨operation, rfl, _⟩, leftIntegral, rightIntegral⟩
      exact ⟨leftInduction leftIntegral, rightInduction rightIntegral, fun _ => trivial⟩

end Expression.Tree

def DataSource.HasIntegers (data : DataSource) (row : RowId) (tree : Tree)
    (cell : Nat → Value) : Prop :=
  ∀ {column : Nat} {kind : Kind}, .field column kind ∈ tree.references →
    data.value row column = .ok (cell column) ∧ (cell column).IsInt32OrNull

theorem Value.IsInt32OrNull.coerce {value : Value} (isNumber : value.IsInt32OrNull) :
    value.coerce .int32 = .ok value := by
  rcases isNumber with rfl | ⟨number, rfl⟩
  · rfl
  · rfl

theorem Engine.isResidue_evaluateTree (engine : Engine) {data : DataSource} {row : RowId}
    {cell : Nat → Value} {tree : Tree} (integral : tree.IsIntegral)
    (cells : data.HasIntegers row tree cell) {run : Run} (sameData : run.data = data) :
    ∃ value, ((engine.evaluateTree tree (some row)).run run).1 = .ok value ∧
      value.IsResidue (tree.leaves cell) (tree.integer cell) := by
  induction tree generalizing run with
  | unknown | aggregate => cases integral
  | literal id value kind => exact ⟨value, rfl, integral.2.isResidue⟩
  | field id column kind =>
      cases integral
      rcases cells List.mem_cons_self with ⟨found, isNumber⟩
      refine ⟨cell column, ?_, isNumber.isResidue⟩
      rw [run_field, sameData, found]
      dsimp only [Except.bind]
      rw [isNumber.coerce]
      rfl
  | unary id operator operand induction =>
      rcases integral with ⟨rfl, integral⟩
      rcases induction integral cells sameData with ⟨value, given, residue⟩
      rcases residue.negate with ⟨result, computed, residue⟩
      refine ⟨result, ?_, residue⟩
      rw [run_unary, given]
      dsimp only [Except.bind]
      rw [computed]
      rfl
  | binary id operator left right leftInduction rightInduction =>
      rcases integral with ⟨⟨operation, rfl, modular⟩, leftIntegral, rightIntegral⟩
      have leftCells : data.HasIntegers row left cell :=
        fun member => cells (List.mem_append_left _ member)
      have rightCells : data.HasIntegers row right cell :=
        fun member => cells (List.mem_append_right _ member)
      rcases leftInduction leftIntegral leftCells sameData with ⟨leftValue, leftGiven, leftResidue⟩
      have between := (engine.ensures_data data left (some row) run sameData).2
      rcases rightInduction rightIntegral rightCells between with
        ⟨rightValue, rightGiven, rightResidue⟩
      rcases leftResidue.arithmetic modular rightResidue with ⟨result, computed, residue⟩
      refine ⟨result, ?_, residue⟩
      rw [result_binary (Prod.ext leftGiven rfl) rightGiven, computed]
      rfl

/-- An expression of additions, subtractions, multiplications and negations of 32 bits never fails
over numbers of 32 bits and nulls. It is null if one of its leaves is, and otherwise the number of
32 bits that is congruent to its value over the integers. So is what it was folded to. -/
theorem integral_evaluation_wraps_once {builder after later : Builder} {root folded : NodeId}
    (built : builder.Built) (known : root < builder.nodes.size)
    (integral : (builder.tree root).IsIntegral)
    (folds : (Build.fold root).run builder = (folded, after)) (leads : after.LeadsTo later)
    (number : ProgramId) (options : Options) {data : DataSource} {row : RowId}
    {cell : Nat → Value} (cells : data.HasIntegers row (builder.tree root) cell) {run : Run}
    (reached : run.Reached (.ofBuilder number later) data) :
    ∀ id ∈ [root, folded], ∃ value,
      (((later.engine number options).evaluate id (some row)).run run).1 = .ok value ∧
      (.null ∈ (builder.tree root).leaves cell → value = .null) ∧
      (.null ∉ (builder.tree root).leaves cell → ∃ result : Int32, value = .int32 result ∧
        result.toInt ≡ (builder.tree root).integer cell [ZMOD 2 ^ 32]) := by
  have puts := built.valid.puts_fold known
  rw [folds] at puts
  rcases leads.sound puts.valid with ⟨laterValid, within⟩
  have rootTree : later.tree root = builder.tree root :=
    (puts.within.trans within).tree_eq known
  have foldedTree : later.tree folded = after.tree folded := within.tree_eq puts.known
  rcases (later.engine number options).isResidue_evaluateTree integral cells reached.data_eq with
    ⟨value, given, residue⟩
  have rootGiven :
      (((later.engine number options).native root (some row)).run run).1 = .ok value := by
    change (((later.engine number options).evaluateTree (later.tree root) (some row)).run run).1 = _
    rw [rootTree, given]
  have exact : (later.tree root).FoldsExactly := rootTree ▸ integral.foldsExactly
  have foldedGiven :
      (((later.engine number options).native folded (some row)).run run).1 = .ok value := by
    have agree := laterValid.agree_folded (later.engine number options) exact (some row) run
      (reached.keepsKinds laterValid)
    rw [rootTree, ← puts.bare, Engine.evaluateTree_bare, ← foldedTree] at agree
    change (((later.engine number options).evaluateTree (later.tree folded) (some row)).run run).1
      = _
    rw [agree, given]
  intro id member
  have idGiven : (((later.engine number options).native id (some row)).run run).1 = .ok value := by
    rcases List.mem_cons.mp member with rfl | member
    · exact rootGiven
    · cases List.mem_singleton.mp member
      exact foldedGiven
  refine ⟨value, ?_, residue.missing, residue.present⟩
  rw [Engine.evaluate, Evaluate.run_bind_pure, idGiven]
  exact congrArg Except.ok residue.evaluated

def Expression.Builder.timesGreatest : Builder :=
  { nodes := #[.field 0 .int32, .literal (.int32 0) .int32,
      .binary (.arithmetic .plus .int32) 0 1, .literal (.int32 2147483647) .int32,
      .binary (.arithmetic .multiply .int32) 2 3] }

/-- Seven times the greatest number wraps around after the zero was folded away. -/
theorem seven_times_greatest_wraps :
    ∃ after result, (Build.fold 4).run Builder.timesGreatest = (5, after) ∧
      ((((after.engine 0 {}).evaluate 5 (some 0)).run (.start DataSet.seven.source)).1 =
        .ok (.int32 result)) ∧
      result.toInt ≡ (7 + 0) * 2147483647 [ZMOD 2 ^ 32] := by
  have built : Builder.timesGreatest.Built :=
    .step (.step (.step (.step (.step .refl (.field 0 .int32)) (.literal (.int32 0)))
      (.arithmetic .plus 0 1 (by decide) (by decide))) (.literal (.int32 2147483647)))
      (.arithmetic .multiply 2 3 (by decide) (by decide))
  let after : Builder :=
    { Builder.timesGreatest with
      nodes := Builder.timesGreatest.nodes.push (.binary (.arithmetic .multiply .int32) 0 3) }
  have folds : (Build.fold 4).run Builder.timesGreatest = (5, after) := by cbv
  have tree : Builder.timesGreatest.tree 4 =
      .binary 4 (.arithmetic .multiply .int32)
        (.binary 2 (.arithmetic .plus .int32) (.field 0 0 .int32) (.literal 1 (.int32 0) .int32))
        (.literal 3 (.int32 2147483647) .int32) := by cbv
  have integral : (Builder.timesGreatest.tree 4).IsIntegral := by
    rw [tree]
    exact ⟨⟨_, rfl, rfl⟩, ⟨⟨_, rfl, rfl⟩, rfl, rfl, .inr ⟨_, rfl⟩⟩, rfl, .inr ⟨_, rfl⟩⟩
  have cells : DataSet.seven.source.HasIntegers 0 (Builder.timesGreatest.tree 4)
      fun _ => .int32 7 := by
    rw [tree]
    intro column kind member
    cases List.mem_singleton.mp member
    exact ⟨rfl, .inr ⟨7, rfl⟩⟩
  rcases integral_evaluation_wraps_once built (by decide) integral folds .refl 0 {} cells .start
    5 (by decide) with ⟨value, given, _, present⟩
  rw [tree] at present
  rcases present (by simp [Tree.leaves]) with ⟨result, rfl, congruent⟩
  exact ⟨after, result, folds, given, congruent⟩

end GroupedReport
