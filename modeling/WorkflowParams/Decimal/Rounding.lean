/-!
Rounding a quotient of naturals to the nearest natural, a tie going to the even neighbour. The
result is never more than half a unit away from the quotient.
-/

namespace WorkflowParams.Decimal

def roundQuotient (n d : Nat) : Nat :=
  if 2 * (n % d) < d then n / d
  else if d < 2 * (n % d) then n / d + 1
  else n / d + n / d % 2

theorem roundQuotient_le (n d : Nat) : 2 * (roundQuotient n d * d) ≤ 2 * n + d := by
  have hn := Nat.div_add_mod n d
  rw [Nat.mul_comm] at hn
  have hbit := Nat.mod_two_eq_zero_or_one (n / d)
  unfold roundQuotient
  split
  · omega
  · split
    · rw [Nat.add_mul]; omega
    · rcases hbit with h | h <;> rw [h, Nat.add_mul] <;> omega

theorem le_roundQuotient (n : Nat) {d : Nat} (hd : 0 < d) :
    2 * n ≤ 2 * (roundQuotient n d * d) + d := by
  have hn := Nat.div_add_mod n d
  rw [Nat.mul_comm] at hn
  have hmod := Nat.mod_lt n hd
  unfold roundQuotient
  split
  · omega
  · split <;> rw [Nat.add_mul] <;> omega

end WorkflowParams.Decimal
