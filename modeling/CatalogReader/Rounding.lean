/-
Rounding of quotients to the nearest integer. Of two integers that are equally near the even one is
taken, so a half goes down as often as up.
-/

namespace CatalogReader

/-- The integer nearest to a quotient; of two that are equally near, the even one. -/
def nearestQuotient (value divisor : Nat) : Nat :=
  let quotient := value / divisor
  let twice := 2 * (value % divisor)
  if twice < divisor ∨ (twice = divisor ∧ quotient % 2 = 0) then quotient else quotient + 1

/-- A quotient without a remainder is itself. -/
theorem nearestQuotient_of_dvd (value divisor : Nat) (positive : 0 < divisor)
    (divides : divisor ∣ value) : nearestQuotient value divisor = value / divisor := by
  simp [nearestQuotient, Nat.mod_eq_zero_of_dvd divides, positive]

end CatalogReader
