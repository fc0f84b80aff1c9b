set_option autoImplicit false

/-!
# Number: rounding a quotient

Two ways to turn a quotient of natural numbers into a natural number: the nearest one with ties
to the even neighbour, and the nearest one with ties upwards.
-/

namespace DocQuery.Number

/-- The natural number nearest to `n / d`; a tie goes to the even neighbour. -/
def roundHalfEven (n d : Nat) : Nat :=
  if d < 2 * (n % d) ∨ (2 * (n % d) = d ∧ n / d % 2 = 1) then n / d + 1 else n / d

/-- The natural number nearest to `n / d`; a tie goes up. -/
def roundHalfUp (n d : Nat) : Nat :=
  if d ≤ 2 * (n % d) then n / d + 1 else n / d

theorem roundHalfEven_one (n : Nat) : roundHalfEven n 1 = n := by
  simp [roundHalfEven, Nat.mod_one]

/-- The rounded quotient is at most half a unit away. -/
theorem roundHalfEven_near (n d : Nat) (hd : 0 < d) :
    2 * (roundHalfEven n d * d) ≤ 2 * n + d ∧ 2 * n ≤ 2 * (roundHalfEven n d * d) + d := by
  have h := Nat.div_add_mod n d
  have hlt := Nat.mod_lt n hd
  have hc : d * (n / d) = n / d * d := Nat.mul_comm _ _
  simp only [roundHalfEven]
  split
  · rw [Nat.add_mul, Nat.one_mul]
    omega
  · omega

end DocQuery.Number
