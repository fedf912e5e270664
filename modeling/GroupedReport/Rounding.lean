/-!
# Rounding a quotient

A quotient of natural numbers is rounded to a nearest whole number. Only the treatment of a
quotient that lies halfway between two whole numbers is a choice.
-/

namespace GroupedReport.Rounding

inductive Tie where
  | toEven
  | up
deriving DecidableEq, Repr

def nearest (tie : Tie) (numerator denominator : Nat) : Nat :=
  if 2 * (numerator % denominator) < denominator then numerator / denominator
  else if denominator < 2 * (numerator % denominator) then numerator / denominator + 1
  else match tie with
    | .up => numerator / denominator + 1
    | .toEven => numerator / denominator + numerator / denominator % 2

example : [1, 2, 3, 5, 7].map (nearest .toEven · 2) = [0, 1, 2, 2, 4] := rfl
example : [1, 2, 3, 5, 7].map (nearest .up · 2) = [1, 1, 2, 3, 4] := rfl

/-- The result is one of the two neighbours, and never the farther one. -/
theorem nearest_cases (tie : Tie) (numerator denominator : Nat) :
    nearest tie numerator denominator = numerator / denominator ∧
        2 * (numerator % denominator) ≤ denominator ∨
      nearest tie numerator denominator = numerator / denominator + 1 ∧
        denominator ≤ 2 * (numerator % denominator) := by
  unfold nearest
  split
  · omega
  · split
    · omega
    · have : numerator / denominator % 2 = 0 ∨ numerator / denominator % 2 = 1 := by omega
      cases tie
      · dsimp only; omega
      · dsimp only; omega

theorem twice_nearest_le (tie : Tie) (numerator denominator : Nat) :
    2 * (nearest tie numerator denominator * denominator) ≤ 2 * numerator + denominator := by
  have division := Nat.div_add_mod numerator denominator
  rw [Nat.mul_comm] at division
  rcases nearest_cases tie numerator denominator with ⟨same, _⟩ | ⟨same, _⟩
  · rw [same]; omega
  · rw [same, Nat.add_mul]; omega

theorem le_twice_nearest (tie : Tie) (numerator : Nat) {denominator : Nat}
    (positive : 0 < denominator) :
    2 * numerator ≤ 2 * (nearest tie numerator denominator * denominator) + denominator := by
  have division := Nat.div_add_mod numerator denominator
  have remainder := Nat.mod_lt numerator positive
  rw [Nat.mul_comm] at division
  rcases nearest_cases tie numerator denominator with ⟨same, _⟩ | ⟨same, _⟩
  · rw [same]; omega
  · rw [same, Nat.add_mul]; omega

@[simp] theorem nearest_mul (tie : Tie) (quotient : Nat) {denominator : Nat}
    (positive : 0 < denominator) :
    nearest tie (quotient * denominator) denominator = quotient := by
  simp [nearest, Nat.mul_div_cancel _ positive, positive]

end GroupedReport.Rounding
