import Mathlib.Data.Int.Log
import Mathlib.Data.Rat.Floor
import Mathlib.Tactic.FieldSimp
import Mathlib.Tactic.Linarith
import Mathlib.Tactic.Positivity

/-! The logarithm of a fraction of natural numbers, rounded down, from the quotient of the
two: that of the numerator by the denominator, or the other way round for a small fraction. -/

theorem log_fraction_eq_iff {b : ℕ} (base : 1 < b) {x : ℚ} (positive : 0 < x) {k : ℤ} :
    Int.log b x = k ↔ (b : ℚ) ^ k ≤ x ∧ x < (b : ℚ) ^ (k + 1) := by
  rw [Int.zpow_le_iff_le_log base positive, Int.lt_zpow_iff_log_lt base positive]
  omega

theorem log_fraction_of_le {b n d : ℕ} (denominator : 0 < d) (large : d ≤ n) :
    Int.log b ((n : ℚ) / d) = Nat.log b (n / d) := by
  have one_le : (1 : ℚ) ≤ (n : ℚ) / d := by
    rw [le_div_iff₀ (by exact_mod_cast denominator), one_mul]
    exact_mod_cast large
  rw [Int.log_of_one_le_right b one_le, Rat.natFloor_natCast_div_natCast]

/-- The largest number below the inverse of the fraction. -/
theorem pred_ceil_inverse {n d : ℕ} (numerator : 0 < n) (small : n < d) :
    0 < (d + n - 1) / n - 1 ∧ n * ((d + n - 1) / n - 1) < d ∧ d ≤ n * ((d + n - 1) / n - 1 + 1) := by
  have below : n * ((d + n - 1) / n) ≤ d + n - 1 := Nat.mul_div_le _ _
  have above : d + n - 1 < n * ((d + n - 1) / n + 1) := Nat.lt_mul_div_succ _ numerator
  have two_le : 2 ≤ (d + n - 1) / n := (Nat.le_div_iff_mul_le numerator).mpr (by omega)
  obtain ⟨c, ceil⟩ : ∃ c, (d + n - 1) / n = c + 1 := ⟨(d + n - 1) / n - 1, by omega⟩
  rw [ceil] at below above two_le ⊢
  rw [Nat.add_sub_cancel]
  have first : n * (c + 1) = n * c + n := Nat.mul_succ n c
  have second : n * (c + 1 + 1) = n * (c + 1) + n := Nat.mul_succ n (c + 1)
  omega

theorem log_fraction_of_lt {b n d : ℕ} (base : 1 < b) (numerator : 0 < n) (small : n < d) :
    Int.log b ((n : ℚ) / d) = -(Nat.log b ((d + n - 1) / n - 1) + 1 : ℕ) := by
  obtain ⟨positive, below, above⟩ := pred_ceil_inverse numerator small
  set c := (d + n - 1) / n - 1
  have denominator : (0 : ℚ) < d := by exact_mod_cast numerator.trans small
  have pow_pos (j : ℕ) : (0 : ℚ) < (b : ℚ) ^ j := by
    have : (0 : ℚ) < b := by exact_mod_cast (Nat.zero_lt_one.trans base)
    positivity
  have lower : b ^ Nat.log b c ≤ c := Nat.pow_log_le_self b positive.ne'
  have upper : c < b ^ (Nat.log b c + 1) := Nat.lt_pow_succ_log_self base c
  rw [log_fraction_eq_iff base (by positivity)]
  constructor
  · rw [zpow_neg, zpow_natCast, le_div_iff₀ denominator, inv_mul_le_iff₀ (pow_pos _)]
    have bound : d ≤ b ^ (Nat.log b c + 1) * n :=
      above.trans ((Nat.mul_le_mul_left n upper).trans_eq (Nat.mul_comm _ _))
    exact_mod_cast bound
  · have exponent : -((Nat.log b c + 1 : ℕ) : ℤ) + 1 = -(Nat.log b c : ℤ) := by push_cast; omega
    rw [exponent, zpow_neg, zpow_natCast, div_lt_iff₀ denominator, lt_inv_mul_iff₀ (pow_pos _)]
    have bound : b ^ Nat.log b c * n < d :=
      (Nat.mul_le_mul_right n lower).trans_lt ((Nat.mul_comm _ _).trans_lt below)
    exact_mod_cast bound
