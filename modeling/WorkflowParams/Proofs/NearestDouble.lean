import Mathlib.Algebra.Order.Field.Power
import Mathlib.Tactic.FieldSimp
import Mathlib.Tactic.Linarith
import Mathlib.Tactic.Positivity
import Mathlib.Tactic.Ring
import WorkflowParams.Json.Numeral

/-!
How near a double comes to the number that it stands for. Rounding a quotient gives the nearest
number of the format, in a tie the one with an even significand, so products and quotients of
doubles are as near as they can be. A numeral is read by several of these steps. If its digits and
its power of ten are doubles themselves only the last step rounds, and the numeral is read as the
double nearest to it.
-/

namespace WorkflowParams.Decimal

/-! Rounding to a whole number. -/

section

variable {n d : ℕ}

theorem abs_roundQuotient_sub_le (hd : 0 < d) : |(roundQuotient n d : ℚ) - n / d| ≤ 1 / 2 := by
  have hd' : (0 : ℚ) < d := Nat.cast_pos.mpr hd
  have hle : 2 * ((roundQuotient n d : ℚ) * d) ≤ 2 * n + d := by
    exact_mod_cast roundQuotient_le n d
  have hge : 2 * (n : ℚ) ≤ 2 * (roundQuotient n d * d) + d := by
    exact_mod_cast le_roundQuotient n hd
  have hquotient : (n : ℚ) / d * d = n := div_mul_cancel₀ _ hd'.ne'
  rw [abs_le]
  constructor <;> nlinarith

/-- Where one whole number is within a half of `q`, no other one is nearer than that. -/
theorem half_le_abs_sub {k l : ℕ} {q : ℚ} (hne : k ≠ l) (h : |(l : ℚ) - q| ≤ 1 / 2) :
    1 / 2 ≤ |(k : ℚ) - q| := by
  obtain ⟨hbelow, habove⟩ := abs_le.mp h
  rcases Nat.lt_or_gt_of_ne hne with hlt | hgt
  · have hstep : (k : ℚ) + 1 ≤ l := by exact_mod_cast hlt
    exact le_abs.mpr (.inr (by linarith))
  · have hstep : (l : ℚ) + 1 ≤ k := by exact_mod_cast hgt
    exact le_abs.mpr (.inl (by linarith))

theorem roundQuotient_nearest (hd : 0 < d) (k : ℕ) :
    |(roundQuotient n d : ℚ) - n / d| ≤ |(k : ℚ) - n / d| := by
  have hhalf := abs_roundQuotient_sub_le (n := n) hd
  by_cases hk : k = roundQuotient n d
  · rw [hk]
  · exact hhalf.trans (half_le_abs_sub hk hhalf)

theorem even_roundQuotient (h : 2 * (roundQuotient n d * d) = 2 * n + d ∨
    2 * n = 2 * (roundQuotient n d * d) + d) (hd : 0 < d) : Even (roundQuotient n d) := by
  have hn := Nat.div_add_mod n d
  rw [Nat.mul_comm] at hn
  have hmod := Nat.mod_lt n hd
  rw [Nat.even_iff]
  unfold roundQuotient at h ⊢
  split
  · rw [if_pos ‹_›] at h
    omega
  · rw [if_neg ‹_›] at h
    split
    · rw [if_pos ‹_›, Nat.add_mul] at h
      omega
    · omega

theorem even_roundQuotient_of_tie (hd : 0 < d) {k : ℕ} (hne : k ≠ roundQuotient n d)
    (htie : |(k : ℚ) - n / d| = |(roundQuotient n d : ℚ) - n / d|) :
    Even (roundQuotient n d) := by
  have hd' : (0 : ℚ) < d := Nat.cast_pos.mpr hd
  have hquotient : (n : ℚ) / d * d = n := div_mul_cancel₀ _ hd'.ne'
  have hle := abs_roundQuotient_sub_le (n := n) hd
  have hhalf : |(roundQuotient n d : ℚ) - n / d| = 1 / 2 :=
    le_antisymm hle (htie ▸ half_le_abs_sub hne hle)
  refine even_roundQuotient ?_ hd
  rcases (abs_eq (by norm_num)).mp hhalf with habove | hbelow
  · left
    have h : 2 * ((roundQuotient n d : ℚ) * d) = 2 * n + d := by nlinarith
    exact_mod_cast h
  · right
    have h : 2 * (n : ℚ) = 2 * (roundQuotient n d * d) + d := by nlinarith
    exact_mod_cast h

end

/-! Powers of two. -/

/-- Shifting one side of a quotient or the other scales it by a power of two. -/
theorem shiftLeft_div_shiftLeft (n d : ℕ) (e : ℤ) :
    ((n <<< (-e).toNat : ℕ) : ℚ) / (d <<< e.toNat : ℕ) = n / d / 2 ^ e := by
  rw [Nat.shiftLeft_eq, Nat.shiftLeft_eq]
  push_cast
  rcases le_total 0 e with he | he
  · lift e to ℕ using he
    simp [div_div]
  · obtain ⟨k, rfl⟩ := Int.exists_eq_neg_ofNat he
    simp [mul_div_right_comm]

theorem abs_mul_zpow_sub (a q : ℚ) (e : ℤ) : |a * 2 ^ e - q| = |a - q / 2 ^ e| * 2 ^ e := by
  have hpower : (0 : ℚ) < 2 ^ e := by positivity
  calc |a * 2 ^ e - q| = |(a - q / 2 ^ e) * 2 ^ e| := by
        rw [sub_mul, div_mul_cancel₀ _ hpower.ne']
    _ = |a - q / 2 ^ e| * 2 ^ e := by rw [abs_mul, abs_of_pos hpower]

namespace Double

theorem zpow_log2_le {n : ℕ} (hn : 0 < n) : (2 : ℚ) ^ (n.log2 : ℤ) ≤ n := by
  rw [zpow_natCast]
  exact_mod_cast Nat.log2_self_le hn.ne'

theorem lt_zpow_log2 (n : ℕ) : (n : ℚ) < 2 ^ (n.log2 + 1 : ℤ) := by
  have h := Nat.lt_log2_self (n := n)
  rw [← Nat.cast_one, ← Nat.cast_add, zpow_natCast]
  exact_mod_cast h

section

variable {n d : ℕ}

theorem floorLog2_guess (hd : 0 < d) (guess : ℤ) :
    d <<< guess.toNat ≤ n <<< (-guess).toNat ↔ (2 : ℚ) ^ guess ≤ n / d := by
  have hpower : (0 : ℚ) < 2 ^ guess := by positivity
  have hshifted : (0 : ℚ) < (d <<< guess.toNat : ℕ) := by
    exact_mod_cast Nat.shiftLeft_pos_iff.mpr hd
  rw [← one_le_div hpower, ← shiftLeft_div_shiftLeft, one_le_div hshifted, Nat.cast_le]

theorem zpow_floorLog2_le (hn : 0 < n) (hd : 0 < d) : (2 : ℚ) ^ floorLog2 n d ≤ n / d := by
  rw [floorLog2]
  split
  · exact (floorLog2_guess hd _).mp ‹_›
  · rw [sub_sub, zpow_sub₀ two_ne_zero]
    exact div_le_div₀ (by positivity) (zpow_log2_le hn) (by exact_mod_cast hd)
      (lt_zpow_log2 d).le

theorem lt_zpow_floorLog2 (hd : 0 < d) : (n / d : ℚ) < 2 ^ (floorLog2 n d + 1) := by
  rw [floorLog2]
  split
  · rw [sub_add_eq_add_sub, zpow_sub₀ two_ne_zero]
    exact div_lt_div₀ (lt_zpow_log2 n) (zpow_log2_le hd) (by positivity) (by positivity)
  · rw [sub_add_cancel]
    exact lt_of_not_ge fun h => ‹¬ _› ((floorLog2_guess hd _).mpr h)

end

/-! The numbers of the format. -/

def magnitude (x : Double) : ℚ := x.significand * 2 ^ x.exponent

structure InFormat (x : Double) : Prop where
  significand_lt : x.significand < 2 ^ precision
  minExponent_le : minExponent ≤ x.exponent
  exponent_le : x.exponent ≤ maxExponent

def largest : Double := ⟨false, 2 ^ precision - 1, maxExponent⟩

/-- Signs aside, `x` is of the numbers of the format the nearest to `q`. If another one is as near,
the significand of `x` is even. -/
structure IsNearest (x : Double) (q : ℚ) : Prop where
  inFormat : x.InFormat
  abs_sub_le (y : Double) (hy : y.InFormat) : |x.magnitude - q| ≤ |y.magnitude - q|
  even_of_tie (y : Double) (hy : y.InFormat) (hne : y.magnitude ≠ x.magnitude)
    (htie : |y.magnitude - q| = |x.magnitude - q|) : Even x.significand

theorem IsNearest.magnitude_eq {x y : Double} (h : x.IsNearest y.magnitude) (hy : y.InFormat) :
    x.magnitude = y.magnitude := by
  have hle := h.abs_sub_le y hy
  rw [sub_self, abs_zero] at hle
  exact sub_eq_zero.mp (abs_nonpos_iff.mp hle)

theorem InFormat.le_largest {x : Double} (h : x.InFormat) : x.magnitude ≤ largest.magnitude := by
  have hsignificand : (x.significand : ℚ) ≤ largest.significand :=
    Nat.cast_le.mpr (Nat.le_sub_one_of_lt h.significand_lt)
  have hexponent : (2 : ℚ) ^ x.exponent ≤ 2 ^ largest.exponent :=
    zpow_le_zpow_right₀ one_le_two h.exponent_le
  rw [magnitude, magnitude]
  exact mul_le_mul hsignificand hexponent (zpow_nonneg zero_le_two _) (Nat.cast_nonneg _)

/-- A number of the format is one of the numbers with a given last place, or smaller than all of
those that have no leading zero. -/
theorem InFormat.on_grid_or_lt {y : Double} (h : y.InFormat) (e : ℤ) :
    (∃ k : ℕ, y.magnitude = k * 2 ^ e) ∨
      minExponent < e ∧ y.magnitude < 2 ^ (precision - 1) * 2 ^ e := by
  rcases le_or_gt e y.exponent with he | he
  · left
    obtain ⟨k, hk⟩ := Int.eq_ofNat_of_zero_le (sub_nonneg.mpr he)
    refine ⟨y.significand * 2 ^ k, ?_⟩
    rw [magnitude, ← add_sub_cancel e y.exponent, hk, zpow_add₀ two_ne_zero, zpow_natCast]
    push_cast
    ring
  · right
    refine ⟨h.minExponent_le.trans_lt he, ?_⟩
    have hsignificand : (y.significand : ℚ) < 2 ^ precision := by
      exact_mod_cast h.significand_lt
    have hexponent : (2 : ℚ) ^ y.exponent ≤ 2 ^ (e - 1) :=
      zpow_le_zpow_right₀ one_le_two (by omega)
    calc y.magnitude < 2 ^ precision * 2 ^ (e - 1) :=
          mul_lt_mul hsignificand hexponent (by positivity) (by positivity)
      _ = 2 ^ (precision - 1) * 2 ^ e := by
          rw [zpow_sub_one₀ two_ne_zero, precision]
          ring

theorem magnitude_carry {x : Double} (h : x.significand ≤ 2 ^ precision) :
    (carry x).magnitude = x.magnitude := by
  rw [carry, Nat.one_shiftLeft]
  split
  · rfl
  · have hsignificand : x.significand = 2 ^ precision := by omega
    rw [magnitude, magnitude, hsignificand, zpow_add_one₀ two_ne_zero, precision]
    norm_num
    ring

/-! The nearest number of the format. -/

section

variable {n d : ℕ}

theorem div_lastPlace_lt (hd : 0 < d) : (n / d : ℚ) / 2 ^ lastPlace n d < 2 ^ precision := by
  rw [div_lt_iff₀ (by positivity), ← zpow_natCast, ← zpow_add₀ two_ne_zero]
  refine (lt_zpow_floorLog2 hd).trans_le (zpow_le_zpow_right₀ one_le_two ?_)
  rw [lastPlace]
  omega

theorem le_div_lastPlace (hn : 0 < n) (hd : 0 < d) (h : minExponent < lastPlace n d) :
    2 ^ (precision - 1) ≤ (n / d : ℚ) / 2 ^ lastPlace n d := by
  rw [le_div_iff₀ (by positivity), ← zpow_natCast, ← zpow_add₀ two_ne_zero]
  refine (zpow_le_zpow_right₀ one_le_two ?_).trans (zpow_floorLog2_le hn hd)
  rw [lastPlace] at h ⊢
  rw [precision] at *
  omega

theorem roundedPlaces_nearest (hd : 0 < d) (k : ℕ) :
    |(roundedPlaces n d : ℚ) - n / d / 2 ^ lastPlace n d| ≤
      |(k : ℚ) - n / d / 2 ^ lastPlace n d| := by
  rw [← shiftLeft_div_shiftLeft]
  exact roundQuotient_nearest (Nat.shiftLeft_pos_iff.mpr hd) k

theorem even_roundedPlaces_of_tie (hd : 0 < d) {k : ℕ} (hne : k ≠ roundedPlaces n d)
    (htie : |(k : ℚ) - n / d / 2 ^ lastPlace n d| =
      |(roundedPlaces n d : ℚ) - n / d / 2 ^ lastPlace n d|) : Even (roundedPlaces n d) := by
  rw [← shiftLeft_div_shiftLeft] at htie
  exact even_roundQuotient_of_tie (Nat.shiftLeft_pos_iff.mpr hd) hne htie

theorem roundedPlaces_le_of_le (hd : 0 < d) {k : ℕ} (h : (n / d : ℚ) / 2 ^ lastPlace n d ≤ k) :
    roundedPlaces n d ≤ k := by
  have hnearest := roundedPlaces_nearest (n := n) hd k
  rw [abs_of_nonneg (sub_nonneg.mpr h)] at hnearest
  exact Nat.cast_le.mp ((sub_le_sub_iff_right _).mp ((le_abs_self _).trans hnearest))

theorem roundedPlaces_le (hd : 0 < d) : roundedPlaces n d ≤ 2 ^ precision := by
  refine roundedPlaces_le_of_le hd ?_
  push_cast
  exact (div_lastPlace_lt hd).le

theorem inFormat_carry {x : Double} (hsignificand : x.significand ≤ 2 ^ precision)
    (hexponent : minExponent ≤ x.exponent) (h : (carry x).exponent ≤ maxExponent) :
    (carry x).InFormat := by
  rw [carry, Nat.one_shiftLeft] at h ⊢
  split at h
  · rw [if_pos ‹_›]
    exact ⟨‹_›, hexponent, h⟩
  · rw [if_neg ‹_›]
    refine ⟨?_, hexponent.trans (Int.le_add_one le_rfl), h⟩
    simp only [precision] at *
    omega

theorem even_carry {x : Double} (hsignificand : x.significand ≤ 2 ^ precision)
    (h : Even x.significand) : Even (carry x).significand := by
  rw [carry, Nat.one_shiftLeft]
  split
  · exact h
  · have hpower : x.significand = 2 ^ precision := by omega
    simp only [hpower, precision]
    decide

theorem abs_roundedPlaces_mul_sub_le (hd : 0 < d) (k : ℕ) :
    |(roundedPlaces n d : ℚ) * 2 ^ lastPlace n d - n / d| ≤
      |(k : ℚ) * 2 ^ lastPlace n d - n / d| := by
  rw [abs_mul_zpow_sub, abs_mul_zpow_sub]
  exact mul_le_mul_of_nonneg_right (roundedPlaces_nearest hd k) (by positivity)

theorem even_of_abs_mul_sub_eq (hd : 0 < d) {k : ℕ} (hne : k ≠ roundedPlaces n d)
    (htie : |(k : ℚ) * 2 ^ lastPlace n d - n / d| =
      |(roundedPlaces n d : ℚ) * 2 ^ lastPlace n d - n / d|) : Even (roundedPlaces n d) := by
  rw [abs_mul_zpow_sub, abs_mul_zpow_sub] at htie
  exact even_roundedPlaces_of_tie hd hne (mul_right_cancel₀ (by positivity) htie)

/-- A number of the format that is no multiple of the last place is farther away than a multiple
between it and `n / d`. -/
theorem abs_roundedPlaces_sub_lt (hn : 0 < n) (hd : 0 < d) {y : ℚ}
    (hnormal : minExponent < lastPlace n d)
    (hy : y < 2 ^ (precision - 1) * 2 ^ lastPlace n d) :
    |(roundedPlaces n d : ℚ) * 2 ^ lastPlace n d - n / d| < |y - n / d| := by
  have hbetween : (2 ^ (precision - 1) * 2 ^ lastPlace n d : ℚ) ≤ n / d :=
    (le_div_iff₀ (by positivity)).mp (le_div_lastPlace hn hd hnormal)
  have hle := abs_roundedPlaces_mul_sub_le (n := n) hd (2 ^ (precision - 1))
  push_cast at hle
  rw [abs_of_nonpos (sub_nonpos.mpr hbetween)] at hle
  refine hle.trans_lt ?_
  rw [abs_of_neg (sub_neg.mpr (hy.trans_le hbetween))]
  linarith

theorem isNearest_carry (hn : 0 < n) (hd : 0 < d) {negative : Bool}
    (h : (carry ⟨negative, roundedPlaces n d, lastPlace n d⟩).exponent ≤ maxExponent) :
    (carry ⟨negative, roundedPlaces n d, lastPlace n d⟩).IsNearest (n / d) := by
  have hplaces := roundedPlaces_le (n := n) hd
  have hmagnitude : (carry ⟨negative, roundedPlaces n d, lastPlace n d⟩).magnitude =
      roundedPlaces n d * 2 ^ lastPlace n d := magnitude_carry hplaces
  refine ⟨inFormat_carry hplaces (le_max_left _ _) h, ?_, ?_⟩
  · intro y hy
    rw [hmagnitude]
    rcases hy.on_grid_or_lt (lastPlace n d) with ⟨k, hk⟩ | ⟨hnormal, hlt⟩
    · rw [hk]
      exact abs_roundedPlaces_mul_sub_le hd k
    · exact (abs_roundedPlaces_sub_lt hn hd hnormal hlt).le
  · intro y hy hne htie
    rw [hmagnitude] at hne htie
    rcases hy.on_grid_or_lt (lastPlace n d) with ⟨k, hk⟩ | ⟨hnormal, hlt⟩
    · rw [hk] at hne htie
      refine even_carry hplaces (even_of_abs_mul_sub_eq hd ?_ htie)
      rintro rfl
      exact hne rfl
    · exact absurd htie (abs_roundedPlaces_sub_lt hn hd hnormal hlt).ne'

end

theorem inFormat_zero (negative : Bool) : (zero negative).InFormat := by
  refine ⟨?_, ?_, ?_⟩ <;> simp only [zero] <;> decide

@[simp] theorem magnitude_zero (negative : Bool) : (zero negative).magnitude = 0 := by
  simp [zero, magnitude]

theorem isNearest_zero (negative : Bool) : (zero negative).IsNearest 0 := by
  refine ⟨inFormat_zero negative, ?_, fun _ _ _ _ => ⟨0, rfl⟩⟩
  intro y _
  simp

@[simp] theorem negative_carry (x : Double) : (carry x).negative = x.negative := by
  rw [carry]
  split <;> rfl

/-- Rounding a quotient gives the nearest number of the format. -/
theorem of_ofQuotient?_eq_some {negative : Bool} {n d : ℕ} (hd : 0 < d) {x : Double}
    (h : ofQuotient? negative n d = some x) : x.negative = negative ∧ x.IsNearest (n / d) := by
  rw [ofQuotient?] at h
  split at h
  · next hn =>
      obtain rfl := Option.some.inj h
      rw [hn, Nat.cast_zero, zero_div]
      exact ⟨rfl, isNearest_zero negative⟩
  · next hn =>
      dsimp only at h
      split at h
      · obtain rfl := Option.some.inj h
        exact ⟨negative_carry _, isNearest_carry (Nat.pos_of_ne_zero hn) hd ‹_›⟩
      · cases h

theorem magnitude_largest : largest.magnitude = (2 ^ precision - 1) * 2 ^ maxExponent := by
  rw [magnitude, largest, Nat.cast_sub Nat.one_le_two_pow]
  push_cast
  rfl

section

variable {n d : ℕ}

theorem lastPlace_le (hn : 0 < n) (hd : 0 < d) (h : (n / d : ℚ) ≤ largest.magnitude) :
    lastPlace n d ≤ maxExponent := by
  by_contra hbeyond
  have hnormal : minExponent < lastPlace n d := lt_trans (by decide) (not_le.mp hbeyond)
  have hpower : (2 : ℚ) ^ (maxExponent + 1) ≤ 2 ^ lastPlace n d :=
    zpow_le_zpow_right₀ one_le_two (not_le.mp hbeyond)
  have hpositive : (0 : ℚ) < 2 ^ maxExponent := by positivity
  have hle := (le_div_iff₀ (by positivity)).mp (le_div_lastPlace hn hd hnormal)
  rw [magnitude_largest] at h
  rw [zpow_add_one₀ two_ne_zero] at hpower
  rw [precision] at *
  linarith

theorem roundedPlaces_lt (hd : 0 < d) (h : (n / d : ℚ) ≤ largest.magnitude)
    (hlast : lastPlace n d = maxExponent) : roundedPlaces n d < 2 ^ precision := by
  refine Nat.lt_of_le_sub_one (Nat.two_pow_pos _) (roundedPlaces_le_of_le hd ?_)
  rw [div_le_iff₀ (by positivity), hlast]
  exact h

/-- A quotient is rounded unless it is beyond the largest number of the format. -/
theorem exists_ofQuotient?_of_le (negative : Bool) (hd : 0 < d)
    (h : (n / d : ℚ) ≤ largest.magnitude) : ∃ x, ofQuotient? negative n d = some x := by
  rw [ofQuotient?]
  split
  · exact ⟨_, rfl⟩
  · next hn =>
      have hlast := lastPlace_le (Nat.pos_of_ne_zero hn) hd h
      refine ⟨_, if_pos ?_⟩
      rw [carry, Nat.one_shiftLeft]
      split
      · exact hlast
      · exact lt_of_le_of_ne hlast fun heq => ‹¬ _› (roundedPlaces_lt hd h heq)

/-- A quotient that is a number of the format is not changed by rounding. -/
theorem exists_ofQuotient?_of_magnitude_eq (negative : Bool) (hd : 0 < d) {y : Double}
    (hy : y.InFormat) (h : y.magnitude = n / d) :
    ∃ x, ofQuotient? negative n d = some x ∧ x.negative = negative ∧ x.InFormat ∧
      x.magnitude = n / d := by
  obtain ⟨x, hx⟩ := exists_ofQuotient?_of_le negative hd (h ▸ hy.le_largest)
  obtain ⟨hnegative, hnearest⟩ := of_ofQuotient?_eq_some hd hx
  rw [← h] at hnearest ⊢
  exact ⟨x, hx, hnegative, hnearest.inFormat, hnearest.magnitude_eq hy⟩

end

/-! Products and quotients. -/

theorem shiftLeft_div_one_shiftLeft (n : ℕ) (e : ℤ) :
    ((n <<< e.toNat : ℕ) : ℚ) / (1 <<< (-e).toNat : ℕ) = n * 2 ^ e := by
  have h := shiftLeft_div_shiftLeft n 1 (-e)
  rwa [neg_neg, zpow_neg, div_inv_eq_mul, Nat.cast_one, div_one] at h

theorem mul_quotient_eq (x y : Double) :
    (((x.significand * y.significand) <<< (x.exponent + y.exponent).toNat : ℕ) : ℚ) /
      (1 <<< (-(x.exponent + y.exponent)).toNat : ℕ) = x.magnitude * y.magnitude := by
  rw [shiftLeft_div_one_shiftLeft, magnitude, magnitude, zpow_add₀ two_ne_zero]
  push_cast
  ring

theorem div_quotient_eq (x y : Double) :
    ((x.significand <<< (x.exponent - y.exponent).toNat : ℕ) : ℚ) /
      (y.significand <<< (-(x.exponent - y.exponent)).toNat : ℕ) = x.magnitude / y.magnitude := by
  have h := shiftLeft_div_shiftLeft x.significand y.significand (-(x.exponent - y.exponent))
  rw [neg_neg] at h
  rw [h, magnitude, magnitude, zpow_neg, zpow_sub₀ two_ne_zero]
  field_simp

/-- A product is rounded once, to the nearest number of the format. -/
theorem exists_mul? (x y : Double) (h : x.magnitude * y.magnitude ≤ largest.magnitude) :
    ∃ z, x.mul? y = some z ∧ z.negative = (x.negative ^^ y.negative) ∧
      z.IsNearest (x.magnitude * y.magnitude) := by
  have hd : 0 < 1 <<< (-(x.exponent + y.exponent)).toNat := Nat.shiftLeft_pos_iff.mpr Nat.one_pos
  rw [← mul_quotient_eq] at h ⊢
  obtain ⟨z, hz⟩ := exists_ofQuotient?_of_le (x.negative ^^ y.negative) hd h
  exact ⟨z, hz, of_ofQuotient?_eq_some hd hz⟩

/-- So is a quotient. -/
theorem exists_div? (x : Double) {y : Double} (hy : 0 < y.significand)
    (h : x.magnitude / y.magnitude ≤ largest.magnitude) :
    ∃ z, x.div? y = some z ∧ z.negative = (x.negative ^^ y.negative) ∧
      z.IsNearest (x.magnitude / y.magnitude) := by
  have hd : 0 < y.significand <<< (-(x.exponent - y.exponent)).toNat :=
    Nat.shiftLeft_pos_iff.mpr hy
  rw [← div_quotient_eq] at h ⊢
  obtain ⟨z, hz⟩ := exists_ofQuotient?_of_le (x.negative ^^ y.negative) hd h
  exact ⟨z, hz, of_ofQuotient?_eq_some hd hz⟩

/-! Decimals. -/

/-- The last power of ten that is a number of the format. -/
def largestExactPower : ℕ := 22

theorem exists_powerOfTen? {k : ℕ} (hk : k ≤ largestExactPower) :
    ∃ x, powerOfTen? k = some x ∧ x.negative = false ∧ x.InFormat ∧ x.magnitude = 10 ^ k := by
  have hformat : InFormat ⟨false, 5 ^ k, k⟩ := by
    rw [largestExactPower] at hk
    refine ⟨?_, ?_, ?_⟩
    · exact (Nat.pow_le_pow_right (by decide) hk).trans_lt (by decide)
    · simp only [minExponent]
      omega
    · simp only [maxExponent]
      omega
  have hmagnitude : magnitude ⟨false, 5 ^ k, k⟩ = ((Nat.pow 10 k : ℕ) : ℚ) / (1 : ℕ) := by
    rw [magnitude, zpow_natCast, Nat.cast_pow, ← mul_pow, Nat.cast_one, div_one]
    norm_num
  have hcast : ((Nat.pow 10 k : ℕ) : ℚ) / (1 : ℕ) = 10 ^ k := by simp
  rw [← hcast]
  exact exists_ofQuotient?_of_magnitude_eq false Nat.one_pos hformat hmagnitude

theorem mul_pow_le_largest {n k : ℕ} (hn : n < 2 ^ precision) (hk : k ≤ largestExactPower) :
    (n : ℚ) * 10 ^ k ≤ largest.magnitude := by
  have hn' : (n : ℚ) ≤ 2 ^ precision - 1 := by
    rw [le_sub_iff_add_le]
    exact_mod_cast hn
  have hpower : (10 : ℚ) ^ k ≤ 2 ^ maxExponent :=
    calc (10 : ℚ) ^ k ≤ 10 ^ largestExactPower := pow_le_pow_right₀ (by norm_num) hk
      _ ≤ 2 ^ (74 : ℤ) := by norm_num [largestExactPower]
      _ ≤ 2 ^ maxExponent := zpow_le_zpow_right₀ one_le_two (by decide)
  rw [magnitude_largest]
  exact mul_le_mul hn' hpower (by positivity) ((Nat.cast_nonneg n).trans hn')

/-- A decimal is read as the nearest double if its digits and its power of ten are doubles. -/
theorem exists_ofDecimal? (negative : Bool) {n : ℕ} {scale : ℤ} (hn : n < 2 ^ precision)
    (hscale : scale.natAbs ≤ largestExactPower) :
    ∃ x, ofDecimal? negative n scale = some x ∧ x.negative = negative ∧
      x.IsNearest (n * 10 ^ scale) := by
  have hformat : InFormat ⟨negative, n, 0⟩ :=
    ⟨hn, by simp [minExponent], by simp [maxExponent]⟩
  have hcast : (n : ℚ) / (1 : ℕ) = n := by simp
  have hdigits : magnitude ⟨negative, n, 0⟩ = n / (1 : ℕ) := by simp [magnitude]
  obtain ⟨x, hx, hnegative, -, hmagnitude⟩ :=
    exists_ofQuotient?_of_magnitude_eq negative Nat.one_pos hformat hdigits
  rw [hcast] at hmagnitude
  obtain ⟨power, hpower, hpositive, -, hten⟩ := exists_powerOfTen? hscale
  have hsmall : scale.natAbs ≤ largestPower := hscale.trans (by decide)
  rw [ofDecimal?, hx, Option.bind_some, timesPowerOfTen?, if_pos hsmall, hpower, Option.bind_some]
  split
  · next hup =>
      have hexact : (n : ℚ) * 10 ^ scale = x.magnitude * power.magnitude := by
        rw [hmagnitude, hten, ← zpow_natCast, Int.natAbs_of_nonneg hup]
      have hle : x.magnitude * power.magnitude ≤ largest.magnitude := by
        rw [hmagnitude, hten]
        exact mul_pow_le_largest hn hscale
      obtain ⟨z, hz, hsign, hnearest⟩ := exists_mul? x power hle
      refine ⟨z, hz, ?_, hexact ▸ hnearest⟩
      rw [hsign, hnegative, hpositive, Bool.xor_false]
  · next hdown =>
      have hexact : (n : ℚ) * 10 ^ scale = x.magnitude / power.magnitude := by
        rw [hmagnitude, hten, ← zpow_natCast, Int.ofNat_natAbs_of_nonpos (by omega), zpow_neg,
          div_inv_eq_mul]
      have hle : x.magnitude / power.magnitude ≤ largest.magnitude := by
        rw [hmagnitude, hten]
        have hle := mul_pow_le_largest hn (Nat.zero_le largestExactPower)
        rw [pow_zero, mul_one] at hle
        exact (div_le_self (Nat.cast_nonneg n) (one_le_pow₀ (by norm_num))).trans hle
      have hnonzero : 0 < power.significand := by
        refine Nat.pos_of_ne_zero fun hzero => ?_
        rw [magnitude, hzero, Nat.cast_zero, zero_mul] at hten
        exact absurd hten (by positivity)
      obtain ⟨z, hz, hsign, hnearest⟩ := exists_div? x hnonzero hle
      refine ⟨z, hz, ?_, hexact ▸ hnearest⟩
      rw [hsign, hnegative, hpositive, Bool.xor_false]

end Double

end WorkflowParams.Decimal

namespace WorkflowParams.Json

open Decimal

/-! Numerals. -/

theorem le_foldl_digits (n : ℕ) (cs : List Char) :
    n ≤ cs.foldl (fun n c => 10 * n + digitValue c) n := by
  induction cs generalizing n with
  | nil => exact le_rfl
  | cons c cs ih =>
      have hle := ih (10 * n + digitValue c)
      rw [List.foldl_cons]
      omega

theorem takeDigits_of_lt {n : ℕ} {cs : List Char}
    (h : cs.foldl (fun n c => 10 * n + digitValue c) n < 1 <<< 64) :
    takeDigits n cs = (cs.foldl (fun n c => 10 * n + digitValue c) n, 0) := by
  induction cs generalizing n with
  | nil => rfl
  | cons c cs ih =>
      have hfits := (le_foldl_digits (10 * n + digitValue c) cs).trans_lt h
      rw [takeDigits, if_pos hfits, List.foldl_cons]
      exact ih h

namespace Numeral

def allDigits (x : Numeral) : List Char := x.whole ++ x.fraction.getD []

/-- The power of ten that the last digit stands for. -/
def lastPower (x : Numeral) : ℤ := x.power - (x.fraction.getD []).length

/-- The number that is written, without its sign. -/
def magnitude (x : Numeral) : ℚ := naturalOf x.allDigits * 10 ^ x.lastPower

theorem scaled_of_lt {x : Numeral} (h : naturalOf x.allDigits < 1 <<< 64) :
    x.scaled = ⟨naturalOf x.allDigits, -(x.fraction.getD []).length⟩ := by
  have hwhole : naturalOf x.whole < 1 <<< 64 := by
    rw [allDigits, naturalOf, List.foldl_append] at h
    exact (le_foldl_digits _ _).trans_lt h
  rw [allDigits, naturalOf, List.foldl_append] at h ⊢
  simp only [scaled, takeDigits_of_lt hwhole, takeDigits_of_lt h]
  simp

/-- A numeral of few digits, near the point, is read as the double nearest to it. -/
theorem double?_nearest {x : Numeral} (hdigits : naturalOf x.allDigits < 2 ^ Double.precision)
    (hpower : x.lastPower.natAbs ≤ Double.largestExactPower) :
    ∃ d, x.double? = some d ∧ d.negative = x.negative ∧ d.IsNearest x.magnitude := by
  have hfits : naturalOf x.allDigits < 1 <<< 64 := hdigits.trans (by decide)
  have hscale : -((x.fraction.getD []).length : ℤ) + x.power = x.lastPower := by
    rw [lastPower]
    omega
  rw [double?, scaled_of_lt hfits, hscale]
  exact Double.exists_ofDecimal? x.negative hdigits hpower

/-- Beyond that a numeral may miss the nearest double: this one is read a place too high. -/
example : let x : Numeral := ⟨false, ['1'], some ['1'], some ⟨true, ['3', '0']⟩⟩
    x.double? = some ⟨false, 6279889847906224, -152⟩ ∧
      Double.ofQuotient? false 11 (Nat.pow 10 31) = some ⟨false, 6279889847906223, -152⟩ := by
  decide +kernel

end Numeral

end WorkflowParams.Json
