import GroupedReport.Data.Grouping
import GroupedReport.Proofs.Binary64.Identity

/-!
# Equality of values

Equality of values is symmetric and transitive, and so is equality of keys. It is not reflexive: a
double that is not a number equals nothing, so no row is in the group of a row with such a key.
-/

namespace GroupedReport

/-! ## Doubles -/

namespace Binary64

open Float.Model (UnpackedFloat)
open Float.Model.UnpackedFloat (Sign)

def number? : UnpackedFloat → Option UnpackedFloat
  | .notANumber => none
  | .zero _ => some (.zero .positive)
  | other => some other

theorem beq_iff (left right : Float) :
    (left == right) = true ↔
      ∃ number, number? (unpacked left) = some number ∧ number? (unpacked right) = some number := by
  change (unpacked left).beq (unpacked right) = true ↔ _
  generalize unpacked left = left
  generalize unpacked right = right
  rw [UnpackedFloat.beq, beq_iff_eq]
  cases left <;> cases right
  case finite.finite leftSign leftSignificand leftExponent _ rightSign rightSignificand
      rightExponent _ =>
    cases leftSign <;> cases rightSign <;>
      simp [UnpackedFloat.compare, number?, Ordering.then_eq_eq]
    all_goals omega
  case infinity.infinity leftSign rightSign =>
    cases leftSign <;> cases rightSign <;> simp [UnpackedFloat.compare, number?] <;> rfl
  case infinity.zero sign _ => cases sign <;> simp [UnpackedFloat.compare, number?]
  case infinity.finite sign _ _ _ _ => cases sign <;> simp [UnpackedFloat.compare, number?]
  case zero.infinity _ sign => cases sign <;> simp [UnpackedFloat.compare, number?]
  case zero.finite _ sign _ _ _ => cases sign <;> simp [UnpackedFloat.compare, number?]
  case finite.infinity leftSign _ _ _ rightSign =>
    cases leftSign <;> cases rightSign <;> simp [UnpackedFloat.compare, number?]
  case finite.zero sign _ _ _ _ => cases sign <;> simp [UnpackedFloat.compare, number?]
  all_goals simp [UnpackedFloat.compare, number?]

instance partialEquivBEq : PartialEquivBEq Float where
  symm equal := by
    rw [beq_iff] at equal ⊢
    rcases equal with ⟨number, ofLeft, ofRight⟩
    exact ⟨number, ofRight, ofLeft⟩
  trans first second := by
    rw [beq_iff] at first second ⊢
    rcases first with ⟨number, ofLeft, ofMiddle⟩
    rcases second with ⟨other, stillOfMiddle, ofRight⟩
    rw [ofMiddle] at stillOfMiddle
    cases stillOfMiddle
    exact ⟨number, ofLeft, ofRight⟩

end Binary64

/-! ## Decimals -/

namespace Decimal

theorem sameNumber_symm {left right : Decimal} (equal : left.sameNumber right = true) :
    right.sameNumber left = true := by
  rw [sameNumber, beq_iff_eq] at equal ⊢
  exact equal.symm

theorem sameNumber_trans {left middle right : Decimal} (first : left.sameNumber middle = true)
    (second : middle.sameNumber right = true) : left.sameNumber right = true := by
  rw [sameNumber, beq_iff_eq] at first second ⊢
  have positive : (10 : Int) ^ middle.scale ≠ 0 := by
    apply Int.pow_ne_zero
    decide
  apply Int.eq_of_mul_eq_mul_right positive
  calc left.signed * 10 ^ right.scale * 10 ^ middle.scale
      = left.signed * 10 ^ middle.scale * 10 ^ right.scale := Int.mul_right_comm ..
    _ = middle.signed * 10 ^ left.scale * 10 ^ right.scale := by rw [first]
    _ = middle.signed * 10 ^ right.scale * 10 ^ left.scale := Int.mul_right_comm ..
    _ = right.signed * 10 ^ middle.scale * 10 ^ left.scale := by rw [second]
    _ = right.signed * 10 ^ left.scale * 10 ^ middle.scale := Int.mul_right_comm ..

end Decimal

/-! ## JSON -/

namespace Json

mutual

theorem same_symm {left right : Json} (equal : left.same right = true) :
    right.same left = true := by
  cases left <;> cases right <;> first
    | exact equal
    | exact Bool.noConfusion equal
    | exact BEq.symm equal
    | exact sameElements_symm equal
    | exact sameMembers_symm equal

theorem sameElements_symm {lefts rights : List Json}
    (equal : sameElements lefts rights = true) : sameElements rights lefts = true := by
  cases lefts with
  | nil =>
      cases rights with
      | nil => rfl
      | cons => cases equal
  | cons left lefts =>
      cases rights with
      | nil => cases equal
      | cons right rights =>
          rw [sameElements, Bool.and_eq_true] at equal ⊢
          exact ⟨same_symm equal.1, sameElements_symm equal.2⟩

theorem sameMembers_symm {lefts rights : List (String × Json)}
    (equal : sameMembers lefts rights = true) : sameMembers rights lefts = true := by
  cases lefts with
  | nil =>
      cases rights with
      | nil => rfl
      | cons => cases equal
  | cons left lefts =>
      cases rights with
      | nil => cases equal
      | cons right rights =>
          rw [sameMembers, Bool.and_eq_true, Bool.and_eq_true] at equal ⊢
          rcases equal with ⟨⟨key, value⟩, rest⟩
          exact ⟨⟨BEq.symm key, same_symm value⟩, sameMembers_symm rest⟩

end

mutual

theorem same_trans {left middle right : Json} (first : left.same middle = true)
    (second : middle.same right = true) : left.same right = true := by
  -- Values of two forms are never equal, which leaves one case for each form.
  cases left <;> cases middle <;> try exact Bool.noConfusion first
  all_goals cases right <;> try exact Bool.noConfusion second
  all_goals first
    | exact second
    | exact BEq.trans first second
    | exact sameElements_trans first second
    | exact sameMembers_trans first second
termination_by structural middle

theorem sameElements_trans {lefts middles rights : List Json}
    (first : sameElements lefts middles = true) (second : sameElements middles rights = true) :
    sameElements lefts rights = true := by
  cases middles with
  | nil =>
      cases lefts with
      | nil => exact second
      | cons => cases first
  | cons middle middles =>
      cases lefts with
      | nil => cases first
      | cons left lefts =>
          cases rights with
          | nil => cases second
          | cons right rights =>
              rw [sameElements, Bool.and_eq_true] at first second ⊢
              exact ⟨same_trans first.1 second.1, sameElements_trans first.2 second.2⟩
termination_by structural middles

theorem sameMembers_trans {lefts middles rights : List (String × Json)}
    (first : sameMembers lefts middles = true) (second : sameMembers middles rights = true) :
    sameMembers lefts rights = true := by
  cases middles with
  | nil =>
      cases lefts with
      | nil => exact second
      | cons => cases first
  | cons middle middles =>
      rcases middle with ⟨key, value⟩
      cases lefts with
      | nil => cases first
      | cons left lefts =>
          cases rights with
          | nil => cases second
          | cons right rights =>
              rw [sameMembers, Bool.and_eq_true, Bool.and_eq_true] at first second ⊢
              rcases first with ⟨⟨firstKey, firstValue⟩, firstRest⟩
              rcases second with ⟨⟨secondKey, secondValue⟩, secondRest⟩
              exact ⟨⟨BEq.trans firstKey secondKey, same_trans firstValue secondValue⟩,
                sameMembers_trans firstRest secondRest⟩
termination_by structural middles

end

end Json

/-! ## Values -/

namespace Value

theorem same_symm {left right : Value} (equal : left.same right = true) :
    right.same left = true := by
  cases left <;> cases right <;> first
    | exact equal
    | exact Bool.noConfusion equal
    | exact Decimal.sameNumber_symm equal
    | exact BEq.symm equal
    | exact Json.same_symm equal

theorem same_trans {left middle right : Value} (first : left.same middle = true)
    (second : middle.same right = true) : left.same right = true := by
  cases left <;> cases middle <;> try exact Bool.noConfusion first
  all_goals cases right <;> try exact Bool.noConfusion second
  all_goals first
    | exact second
    | exact BEq.trans first second
    | exact Decimal.sameNumber_trans first second
    | exact Json.same_trans first second

end Value

/-! ## Keys -/

namespace Group

theorem sameKey_symm {left right : List Value} (equal : sameKey left right = true) :
    sameKey right left = true := by
  induction left generalizing right with
  | nil =>
      cases right with
      | nil => rfl
      | cons => cases equal
  | cons value rest induction =>
      cases right with
      | nil => cases equal
      | cons other others =>
          rw [sameKey, Bool.and_eq_true] at equal ⊢
          exact ⟨Value.same_symm equal.1, induction equal.2⟩

theorem sameKey_trans {left middle right : List Value} (first : sameKey left middle = true)
    (second : sameKey middle right = true) : sameKey left right = true := by
  induction middle generalizing left right with
  | nil =>
      cases left with
      | nil => exact second
      | cons => cases first
  | cons value rest induction =>
      cases left with
      | nil => cases first
      | cons before befores =>
          cases right with
          | nil => cases second
          | cons after afters =>
              rw [sameKey, Bool.and_eq_true] at first second ⊢
              exact ⟨Value.same_trans first.1 second.1, induction first.2 second.2⟩

theorem sameKey_congr {left right : List Value} (equal : sameKey left right = true)
    (key : List Value) : sameKey key left = sameKey key right := by
  rw [Bool.eq_iff_iff]
  exact ⟨fun same => sameKey_trans same equal, fun same => sameKey_trans same (sameKey_symm equal)⟩

theorem sameKey_of_append {left right leftRest rightRest : List Value}
    (lengths : left.length = right.length)
    (equal : sameKey (left ++ leftRest) (right ++ rightRest) = true) :
    sameKey left right = true := by
  induction left generalizing right with
  | nil =>
      cases right with
      | nil => rfl
      | cons => cases lengths
  | cons value rest induction =>
      cases right with
      | nil => cases lengths
      | cons other others =>
          rw [List.cons_append, List.cons_append, sameKey, Bool.and_eq_true] at equal
          rw [sameKey, Bool.and_eq_true]
          exact ⟨equal.1, induction (Nat.succ.inj lengths) equal.2⟩

end Group

end GroupedReport
