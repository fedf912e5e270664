import GroupedReport.Proofs.Operator.Order
import GroupedReport.Proofs.Value.Order
import GroupedReport.Proofs.Value.Same

/-!
# Comparisons agree with each other

The order of two values turns around with them, whatever their kinds are, and their equality is
symmetric. So each comparison says of two values what the mirrored one says of them the other way
round, and the comparisons that ask for an order fail together or agree with each other.
-/

namespace GroupedReport

/-! ## Values the other way round -/

theorem Binary64.compare?_swap (left right : Float) :
    compare? right left = (compare? left right).map Ordering.swap := by
  rw [compare?_eq, compare?_eq]
  exact compare_swap (unpacked left) (unpacked right)

namespace Value

theorem compare?_swap (left right : Value) :
    right.compare? left = (left.compare? right).map Ordering.swap := by
  have ordered {α : Type} (order : α → α → Ordering) [Std.OrientedCmp order] (first second : α) :
      some (order second first) = (some (order first second)).map Ordering.swap :=
    congrArg some Std.OrientedCmp.eq_swap
  cases left with
  | null | object => cases right <;> rfl
  | boolean first =>
      cases right with
      | boolean second => exact ordered compare first second
      | _ => rfl
  | int32 first =>
      cases right with
      | int32 second => exact ordered compare first.toInt second.toInt
      | decimal second => exact ordered Decimal.compare (.ofInt32 first) second
      | float64 second => exact Binary64.compare?_swap (Binary64.ofInt first.toInt) second
      | _ => rfl
  | float64 first =>
      cases right with
      | float64 second => exact Binary64.compare?_swap first second
      | int32 second => exact Binary64.compare?_swap first (Binary64.ofInt second.toInt)
      | decimal second => exact Binary64.compare?_swap first second.toFloat
      | _ => rfl
  | decimal first =>
      cases right with
      | decimal second => exact ordered Decimal.compare first second
      | int32 second => exact ordered Decimal.compare first (.ofInt32 second)
      | float64 second => exact Binary64.compare?_swap first.toFloat second
      | _ => rfl
  | string first =>
      cases right with
      | string second => exact ordered compare first second
      | _ => rfl
  | dateTime first =>
      cases right with
      | dateTime second => exact ordered DateTime.compare first second
      | _ => rfl

theorem same_comm (left right : Value) : left.same right = right.same left := by
  rw [Bool.eq_iff_iff]
  exact ⟨same_symm, same_symm⟩

end Value

/-! ## Mirrored comparisons -/

/-- The comparison that says of two values what this one says of them the other way round. -/
def Comparison.mirrored : Comparison → Comparison
  | equal => equal
  | notEqual => notEqual
  | less => greater
  | lessOrEqual => greaterOrEqual
  | greater => less
  | greaterOrEqual => lessOrEqual

def OperatorError.mirrored : OperatorError → OperatorError
  | notComparable left right => notComparable right left
  | error => error

namespace Operator

theorem satisfies_mirrored (comparison : Comparison) (order : Ordering) :
    satisfies comparison.mirrored order.swap = satisfies comparison order := by
  cases comparison <;> cases order <;> rfl

theorem compare_mirrored (comparison : Comparison) (left right : Value) :
    compare comparison left right =
      (compare comparison.mirrored right left).mapError .mirrored := by
  unfold compare
  rw [Value.compare?_swap left right, Value.same_comm right left]
  cases left.compare? right with
  | some order => exact congrArg Except.ok (satisfies_mirrored comparison order).symm
  | none => cases comparison <;> rfl

/-! ## Comparisons of the same values -/

variable (left right : Value)

theorem exists_compare_equal : ∃ equal, compare .equal left right = .ok equal ∧
    compare .notEqual left right = .ok !equal := by
  rw [compare, compare]
  cases left.compare? right with
  | some order => exact ⟨satisfies .equal order, rfl, by cases order <;> rfl⟩
  | none => exact ⟨left.same right, rfl, rfl⟩

theorem isOk_compare {comparison : Comparison} (ordering : comparison.isOrdering = true) :
    (compare comparison left right).isOk = (left.compare? right).isSome := by
  unfold compare
  cases left.compare? right with
  | some order => rfl
  | none => cases comparison <;> first | rfl | cases ordering

variable {left right}

theorem compare_of_order {order : Ordering} (ordered : left.compare? right = some order)
    (comparison : Comparison) :
    compare comparison left right = .ok (satisfies comparison order) := by
  unfold compare
  rw [ordered]

end Operator

theorem Value.IsData.exists_order {kind : Kind} {left right : Value} (leftData : left.IsData kind)
    (rightData : right.IsData kind) (transparent : kind ≠ .object) :
    ∃ order, left.compare? right = some order := by
  rcases exists_compare? transparent leftData rightData with ⟨order, compared, _⟩
  exact ⟨order, compared⟩

open Operator in
/-- The comparisons of any two values agree with each other. Less and greater are each other the
other way round, errors included. Whether the values are equal always has an answer, and the
same one either way. The comparisons that ask for an order have an answer together, and then exactly
one of less, equal and greater holds. They have one for all values of one kind that are neither
opaque nor missing. -/
theorem comparisons_are_coherent (left right : Value) :
    (compare .less left right = (compare .greater right left).mapError .mirrored ∧
      compare .lessOrEqual left right = (compare .greaterOrEqual right left).mapError .mirrored) ∧
    (∃ equal, compare .equal left right = .ok equal ∧ compare .equal right left = .ok equal ∧
      compare .notEqual left right = .ok (!equal) ∧
      compare .notEqual right left = .ok (!equal)) ∧
    (∀ first second : Comparison, first.isOrdering = true → second.isOrdering = true →
      (compare first left right).isOk = (compare second left right).isOk) ∧
    (∀ less, compare .less left right = .ok less →
      ∃ equal greater, compare .equal left right = .ok equal ∧
        compare .greater left right = .ok greater ∧ [less, equal, greater].count true = 1 ∧
        compare .lessOrEqual left right = .ok (less || equal) ∧
        compare .greaterOrEqual left right = .ok (greater || equal)) ∧
    (∀ kind : Kind, kind ≠ .object → left.IsData kind → right.IsData kind →
      ∀ comparison, (compare comparison left right).isOk = true) := by
  refine ⟨⟨compare_mirrored .less left right, compare_mirrored .lessOrEqual left right⟩,
    ?_, ?_, ?_, ?_⟩
  · rcases exists_compare_equal left right with ⟨equal, isEqual, isNotEqual⟩
    have swapped := compare_mirrored .equal right left
    have swappedNot := compare_mirrored .notEqual right left
    rw [Comparison.mirrored, isEqual] at swapped
    rw [Comparison.mirrored, isNotEqual] at swappedNot
    exact ⟨equal, isEqual, swapped, isNotEqual, swappedNot⟩
  · intro first second firstOrders secondOrders
    rw [isOk_compare left right firstOrders, isOk_compare left right secondOrders]
  · intro less isLess
    cases ordered : left.compare? right with
    | none =>
        have fails : (compare .less left right).isOk = (left.compare? right).isSome :=
          isOk_compare left right rfl
        rw [isLess, ordered] at fails
        cases fails
    | some order =>
        rw [compare_of_order ordered] at isLess
        cases isLess
        refine ⟨_, _, compare_of_order ordered .equal, compare_of_order ordered .greater,
          ?_, ?_, ?_⟩
        · cases order <;> rfl
        · rw [compare_of_order ordered]
          cases order <;> rfl
        · rw [compare_of_order ordered]
          cases order <;> rfl
  · intro kind transparent leftData rightData comparison
    rcases leftData.exists_order rightData transparent with ⟨order, ordered⟩
    rw [compare_of_order ordered]
    rfl

open Operator in
/-- One and a half is at most and at least itself, however many places it is written with. -/
theorem one_and_a_half_compares_with_more_places :
    let short : Value := .decimal ⟨false, 15, 1, by decide, by decide⟩
    let long : Value := .decimal ⟨false, 150, 2, by decide, by decide⟩
    short.IsData .decimal ∧ long.IsData .decimal ∧
      (compare .less short long).isOk = (compare .greaterOrEqual short long).isOk ∧
      compare .less short long = .ok false ∧
      (∃ equal greater, [false, equal, greater].count true = 1 ∧
        compare .lessOrEqual short long = .ok (false || equal) ∧
        compare .greaterOrEqual short long = .ok (greater || equal)) ∧
      (compare .notEqual short long).isOk = true := by
  intro short long
  have shortData : short.IsData .decimal := ⟨rfl, rfl⟩
  have longData : long.IsData .decimal := ⟨rfl, rfl⟩
  have notLess : compare .less short long = .ok false := rfl
  rcases comparisons_are_coherent short long with ⟨_, _, together, agree, comparable⟩
  rcases agree false notLess with ⟨equal, greater, _, _, exactlyOne, atMost, atLeast⟩
  exact ⟨shortData, longData, together .less .greaterOrEqual rfl rfl, notLess,
    ⟨equal, greater, exactlyOne, atMost, atLeast⟩,
    comparable .decimal nofun shortData longData .notEqual⟩

end GroupedReport
