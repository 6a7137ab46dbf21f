/-
# Rounding a quotient to an integer

Two rules for the integer near a quotient `n / d`: to nearest with a tie to the even
neighbour, which decimal and binary64 arithmetic use, and to nearest with a tie away from
zero, which rounding a binary64 number to an integer uses.

Key definitions: `roundDivEven`, `roundDivAway`.
Key theorems: `roundDivEven_exact`, `roundDivAway_exact` (an exact quotient is kept).
-/
namespace ColumnExpr

/-- The integer nearest to `n / d`; of two equally near, the even one. -/
def roundDivEven (n d : Nat) : Nat :=
  let q := n / d
  let r := n % d
  if 2 * r < d then q
  else if d < 2 * r then q + 1
  else if q % 2 = 0 then q
  else q + 1

/-- The integer nearest to `n / d`; of two equally near, the larger. -/
def roundDivAway (n d : Nat) : Nat :=
  if d ≤ 2 * (n % d) then n / d + 1 else n / d

/-- A quotient without remainder is not rounded. -/
theorem roundDivEven_exact (n d : Nat) (hd : 0 < d) (h : n % d = 0) :
    roundDivEven n d = n / d := by
  simp [roundDivEven, h, hd]

/-- A quotient without remainder is not rounded. -/
theorem roundDivAway_exact (n d : Nat) (hd : 0 < d) (h : n % d = 0) :
    roundDivAway n d = n / d := by
  simp only [roundDivAway, h, Nat.mul_zero]
  have : ¬ d ≤ 0 := by omega
  simp [this]

example : roundDivEven 5 2 = 2 ∧ roundDivEven 7 2 = 4 ∧ roundDivAway 5 2 = 3 := by decide

end ColumnExpr
