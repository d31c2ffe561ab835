import OpcUaAdapter.Library.FloorLog
import OpcUaAdapter.Numeral
import Mathlib.Algebra.Order.Field.Power
import Mathlib.Tactic.Ring

/-! Rounding to 17 decimal digits, and from a decimal number to the nearest `double`. A
number that was a `double` before is found again, as its neighbours are further away than
half a unit of the last digit. -/

namespace OpcUaAdapter

theorem roundHalfEven_close (numerator : Nat) {denominator : Nat} (positive : 0 < denominator) :
    |(roundHalfEven numerator denominator : ℚ) - numerator / denominator| ≤ 1 / 2 := by
  have positive' : (0 : ℚ) < denominator := by exact_mod_cast positive
  have whole : (denominator : ℚ) * (numerator / denominator : Nat) + (numerator % denominator : Nat) = numerator := by
    exact_mod_cast Nat.div_add_mod numerator denominator
  have remainder : (numerator % denominator : Nat) < (denominator : ℚ) := by
    exact_mod_cast Nat.mod_lt numerator positive
  have quotient : (numerator : ℚ) / denominator =
      (numerator / denominator : Nat) + (numerator % denominator : Nat) / denominator := by
    field_simp
    linarith
  have part : ((numerator % denominator : Nat) : ℚ) / denominator * denominator = (numerator % denominator : Nat) :=
    div_mul_cancel₀ _ positive'.ne'
  have not_negative : (0 : ℚ) ≤ ((numerator % denominator : Nat) : ℚ) / denominator := by positivity
  unfold roundHalfEven
  dsimp only
  rw [quotient]
  split
  next up =>
    have half : (denominator : ℚ) ≤ 2 * (numerator % denominator : Nat) := by
      exact_mod_cast up.elim le_of_lt fun tie => tie.1.le
    have upper : ((numerator % denominator : Nat) : ℚ) / denominator < 1 := (div_lt_one positive').mpr remainder
    have lower : 1 / 2 ≤ ((numerator % denominator : Nat) : ℚ) / denominator := by
      rw [le_div_iff₀ positive']
      linarith
    rw [abs_le]
    push_cast
    constructor <;> linarith
  next down =>
    have half : 2 * ((numerator % denominator : Nat) : ℚ) ≤ denominator := by
      exact_mod_cast not_lt.mp fun more => down (.inl more)
    have upper : ((numerator % denominator : Nat) : ℚ) / denominator ≤ 1 / 2 := by
      rw [div_le_iff₀ positive']
      linarith
    rw [abs_le]
    constructor <;> linarith

private theorem roundHalfEven_eq {numerator denominator : Nat} (positive : 0 < denominator) {k : Nat}
    (close : |(numerator : ℚ) / denominator - k| < 1 / 2) : roundHalfEven numerator denominator = k := by
  have rounded := abs_le.mp (roundHalfEven_close numerator positive)
  have near := abs_lt.mp close
  have above : (roundHalfEven numerator denominator : ℚ) < k + 1 := by linarith [rounded.2, near.2]
  have below : (k : ℚ) < roundHalfEven numerator denominator + 1 := by linarith [rounded.1, near.1]
  have above' : roundHalfEven numerator denominator < k + 1 := by exact_mod_cast above
  have below' : k < roundHalfEven numerator denominator + 1 := by exact_mod_cast below
  omega

section Scaling

variable {base numerator denominator : Nat} {exponent : Int}

private theorem fraction_scaled_down (shift : 0 ≤ exponent) :
    (numerator : ℚ) / (denominator * base ^ exponent.toNat : Nat) = numerator / denominator / (base : ℚ) ^ exponent := by
  obtain ⟨n, rfl⟩ := Int.eq_ofNat_of_zero_le shift
  rw [Int.toNat_natCast, zpow_natCast, div_div]
  push_cast
  rfl

private theorem fraction_scaled_up (shift : exponent ≤ 0) :
    ((numerator * base ^ (-exponent).toNat : Nat) : ℚ) / denominator =
      numerator / denominator / (base : ℚ) ^ exponent := by
  obtain ⟨n, rfl⟩ : ∃ n : Nat, exponent = -n := ⟨(-exponent).toNat, by omega⟩
  rw [neg_neg, Int.toNat_natCast, zpow_neg, zpow_natCast, div_inv_eq_mul]
  push_cast
  ring

end Scaling

private theorem binaryExponent_eq {numerator denominator : Nat} (numerator_pos : 0 < numerator)
    (denominator_pos : 0 < denominator) :
    binaryExponent numerator denominator = Int.log 2 ((numerator : ℚ) / denominator) := by
  unfold binaryExponent
  split
  next large => rw [Nat.log2_eq_log_two, log_fraction_of_le denominator_pos large]
  next small => rw [Nat.log2_eq_log_two, log_fraction_of_lt one_lt_two numerator_pos (by omega)]

theorem length_toDigits {n : Nat} (positive : 0 < n) : (Nat.toDigits 10 n).length = Nat.log 10 n + 1 := by
  have lower : 10 ^ Nat.log 10 n ≤ n := Nat.pow_log_le_self 10 positive.ne'
  have upper : n < 10 ^ (Nat.log 10 n + 1) := Nat.lt_pow_succ_log_self (by decide) n
  refine le_antisymm ((Nat.length_toDigits_le_iff (by decide) (by omega)).mpr upper) ?_
  by_contra shorter
  have some : 0 < (Nat.toDigits 10 n).length := Nat.length_toDigits_pos
  have within : (Nat.toDigits 10 n).length ≤ Nat.log 10 n ↔ n < 10 ^ Nat.log 10 n :=
    Nat.length_toDigits_le_iff (by decide) (by omega)
  have := within.mp (by omega)
  omega

private theorem decimalExponent_eq {numerator denominator : Nat} (numerator_pos : 0 < numerator)
    (denominator_pos : 0 < denominator) :
    decimalExponent numerator denominator = Int.log 10 ((numerator : ℚ) / denominator) := by
  unfold decimalExponent
  split
  next large =>
    rw [length_toDigits (Nat.div_pos large denominator_pos), log_fraction_of_le denominator_pos large]
    push_cast
    omega
  next small =>
    obtain ⟨below, -, -⟩ := pred_ceil_inverse numerator_pos (Nat.lt_of_not_le small)
    rw [length_toDigits below, log_fraction_of_lt (by decide) numerator_pos (Nat.lt_of_not_le small)]

section Digits

variable {numerator denominator : Nat}

private theorem fraction_pos (numerator_pos : 0 < numerator) (denominator_pos : 0 < denominator) :
    (0 : ℚ) < numerator / denominator :=
  div_pos (by exact_mod_cast numerator_pos) (by exact_mod_cast denominator_pos)

theorem units_bounds {x : ℚ} (positive : 0 < x) :
    (10 : ℚ) ^ 16 ≤ x / 10 ^ (Int.log 10 x - 16) ∧ x / 10 ^ (Int.log 10 x - 16) < (10 : ℚ) ^ 17 := by
  obtain ⟨lower, upper⟩ := (log_fraction_eq_iff (by decide) positive).mp (rfl : Int.log 10 x = _)
  push_cast at lower upper
  have unit_pos : (0 : ℚ) < 10 ^ (Int.log 10 x - 16) := by positivity
  constructor
  · rw [le_div_iff₀ unit_pos, ← zpow_natCast, ← zpow_add₀ (by norm_num)]
    refine le_of_eq_of_le ?_ lower
    congr 1
    push_cast
    ring
  · rw [div_lt_iff₀ unit_pos, ← zpow_natCast, ← zpow_add₀ (by norm_num)]
    refine lt_of_lt_of_eq upper ?_
    congr 1
    push_cast
    ring

theorem scaledDigits_eq (exponent : Int) :
    ∃ scaledNumerator scaledDenominator : Nat,
      (if exponent ≤ 16 then roundHalfEven (numerator * 10 ^ (16 - exponent).toNat) denominator
        else roundHalfEven numerator (denominator * 10 ^ (exponent - 16).toNat)) =
          roundHalfEven scaledNumerator scaledDenominator ∧
        (0 < denominator → 0 < scaledDenominator) ∧
        (scaledNumerator : ℚ) / scaledDenominator = numerator / denominator / 10 ^ (exponent - 16) := by
  by_cases small : exponent ≤ 16
  · refine ⟨numerator * 10 ^ (16 - exponent).toNat, denominator, if_pos small, id, ?_⟩
    have scaled := @fraction_scaled_up 10 numerator denominator (exponent - 16) (by omega)
    rw [neg_sub] at scaled
    exact_mod_cast scaled
  · refine ⟨numerator, denominator * 10 ^ (exponent - 16).toNat, if_neg small, fun positive => by positivity, ?_⟩
    exact_mod_cast @fraction_scaled_down 10 numerator denominator (exponent - 16) (by omega)

theorem roundedDigits_close {scaledNumerator scaledDenominator : Nat} (positive : 0 < scaledDenominator) {x : ℚ}
    (x_pos : 0 < x) (scaled : (scaledNumerator : ℚ) / scaledDenominator = x / 10 ^ (Int.log 10 x - 16)) :
    10 ^ 16 ≤ roundHalfEven scaledNumerator scaledDenominator ∧
      roundHalfEven scaledNumerator scaledDenominator ≤ 10 ^ 17 ∧
      |(roundHalfEven scaledNumerator scaledDenominator : ℚ) * 10 ^ (Int.log 10 x - 16) - x| ≤ x / (2 * 10 ^ 16) := by
  have close := abs_le.mp (roundHalfEven_close scaledNumerator positive)
  obtain ⟨at_least, less⟩ := units_bounds x_pos
  rw [scaled] at close
  have unit_pos : (0 : ℚ) < 10 ^ (Int.log 10 x - 16) := by positivity
  refine ⟨?_, ?_, ?_⟩
  · have : (10 : ℚ) ^ 16 < roundHalfEven scaledNumerator scaledDenominator + 1 := by linarith [close.1]
    have : 10 ^ 16 < roundHalfEven scaledNumerator scaledDenominator + 1 := by exact_mod_cast this
    omega
  · have : (roundHalfEven scaledNumerator scaledDenominator : ℚ) < 10 ^ 17 + 1 := by linarith [close.2]
    have : roundHalfEven scaledNumerator scaledDenominator < 10 ^ 17 + 1 := by exact_mod_cast this
    omega
  · have error : |(roundHalfEven scaledNumerator scaledDenominator : ℚ) - x / 10 ^ (Int.log 10 x - 16)| ≤
        x / 10 ^ (Int.log 10 x - 16) / (2 * 10 ^ 16) := by
      rw [abs_le]
      constructor <;> linarith [close.1, close.2]
    have split : (roundHalfEven scaledNumerator scaledDenominator : ℚ) * 10 ^ (Int.log 10 x - 16) - x =
        (roundHalfEven scaledNumerator scaledDenominator - x / 10 ^ (Int.log 10 x - 16)) *
          10 ^ (Int.log 10 x - 16) := by
      rw [sub_mul, div_mul_cancel₀ _ unit_pos.ne']
    rw [split, abs_mul, abs_of_pos unit_pos]
    refine (mul_le_mul_of_nonneg_right error unit_pos.le).trans_eq ?_
    rw [div_right_comm, div_mul_cancel₀ _ unit_pos.ne']

/-- There are 17 digits, and the number they stand for is off by at most half a unit of the last. -/
theorem significantDigits_close (numerator_pos : 0 < numerator) (denominator_pos : 0 < denominator) {number : Nat}
    {exponent : Int} (digits : significantDigits numerator denominator = (number, exponent)) :
    10 ^ 16 ≤ number ∧ number < 10 ^ 17 ∧
      |(number : ℚ) * 10 ^ (exponent - 16) - numerator / denominator| ≤ numerator / denominator / (2 * 10 ^ 16) := by
  have x_pos := fraction_pos numerator_pos denominator_pos
  have log := decimalExponent_eq numerator_pos denominator_pos
  obtain ⟨scaledNumerator, scaledDenominator, rounded, scaled_pos, scaled⟩ :=
    @scaledDigits_eq numerator denominator (decimalExponent numerator denominator)
  unfold significantDigits at digits
  dsimp only at digits
  rw [rounded, log] at digits
  rw [log] at scaled
  obtain ⟨lower, upper, error⟩ := roundedDigits_close (scaled_pos denominator_pos) x_pos scaled
  split at digits
  next carry =>
    obtain ⟨rfl, rfl⟩ := Prod.mk.inj digits
    refine ⟨le_refl _, by norm_num, ?_⟩
    have same : ((10 ^ 16 : Nat) : ℚ) * 10 ^ (Int.log 10 ((numerator : ℚ) / denominator) + 1 - 16) =
        ((10 ^ 17 : Nat) : ℚ) * 10 ^ (Int.log 10 ((numerator : ℚ) / denominator) - 16) := by
      rw [add_sub_right_comm, zpow_add₀ (by norm_num)]
      push_cast
      ring
    rw [same, ← carry]
    exact error
  next no_carry =>
    obtain ⟨rfl, rfl⟩ := Prod.mk.inj digits
    exact ⟨lower, lt_of_le_of_ne upper no_carry, error⟩

end Digits

/-- Mantissa and exponent of a finite `double`. -/
structure Canonical (mantissa : Nat) (exponent : Int) : Prop where
  mantissa_lt : mantissa < 2 ^ 53
  lowest : -1074 ≤ exponent
  highest : exponent ≤ 971
  normal : 2 ^ 52 ≤ mantissa ∨ exponent = -1074

def magnitudeBits (mantissa : Nat) (exponent : Int) : Nat := mantissa + (exponent + 1074).toNat * 2 ^ 52

theorem Canonical.magnitudeBits_lt {mantissa : Nat} {exponent : Int} (canonical : Canonical mantissa exponent) :
    magnitudeBits mantissa exponent < infinityBits := by
  obtain ⟨small, lowest, highest, -⟩ := canonical
  have steps : (exponent + 1074).toNat ≤ 2045 := by omega
  have := Nat.mul_le_mul_right (2 ^ 52) steps
  unfold magnitudeBits infinityBits
  omega

section Nearest

variable {numerator denominator : Nat}

/-- The exponent a positive number is rounded to. -/
def roundingExponent (x : ℚ) : Int := max (Int.log 2 x - 52) (-1074)

theorem nearestBits_eq (numerator_pos : 0 < numerator) (denominator_pos : 0 < denominator) :
    ∃ scaledNumerator scaledDenominator : Nat, 0 < scaledDenominator ∧
      (scaledNumerator : ℚ) / scaledDenominator =
        numerator / denominator / 2 ^ roundingExponent ((numerator : ℚ) / denominator) ∧
      nearestBits numerator denominator = min infinityBits
        (magnitudeBits (roundHalfEven scaledNumerator scaledDenominator)
          (roundingExponent ((numerator : ℚ) / denominator))) := by
  have exponent : max (binaryExponent numerator denominator - 52) (-1074) =
      roundingExponent ((numerator : ℚ) / denominator) := by
    rw [binaryExponent_eq numerator_pos denominator_pos]
    rfl
  unfold nearestBits
  rw [if_neg numerator_pos.ne', exponent]
  dsimp only
  by_cases large : 0 ≤ roundingExponent ((numerator : ℚ) / denominator)
  · refine ⟨numerator, denominator * 2 ^ (roundingExponent ((numerator : ℚ) / denominator)).toNat, by positivity, ?_, ?_⟩
    · exact_mod_cast @fraction_scaled_down 2 numerator denominator _ large
    · rw [if_pos large]
      rfl
  · refine ⟨numerator * 2 ^ (-roundingExponent ((numerator : ℚ) / denominator)).toNat, denominator, denominator_pos, ?_, ?_⟩
    · exact_mod_cast @fraction_scaled_up 2 numerator denominator _ (le_of_not_ge large)
    · rw [if_neg large]
      rfl

theorem nearestBits_of_unit (numerator_pos : 0 < numerator) (denominator_pos : 0 < denominator) {mantissa : Nat}
    (close : |(numerator : ℚ) / denominator / 2 ^ roundingExponent ((numerator : ℚ) / denominator) - mantissa| < 1 / 2) :
    nearestBits numerator denominator =
      min infinityBits (magnitudeBits mantissa (roundingExponent ((numerator : ℚ) / denominator))) := by
  obtain ⟨scaledNumerator, scaledDenominator, positive, scaled, bits⟩ := nearestBits_eq numerator_pos denominator_pos
  rw [← scaled] at close
  rw [bits, roundHalfEven_eq positive close]

end Nearest

theorem log_two_of_scaled {x : ℚ} (positive : 0 < x) {exponent : Int} {k : Nat}
    (lower : (2 : ℚ) ^ k ≤ x / 2 ^ exponent) (upper : x / 2 ^ exponent < 2 ^ (k + 1)) :
    Int.log 2 x = exponent + k := by
  have unit_pos : (0 : ℚ) < 2 ^ exponent := by positivity
  rw [le_div_iff₀ unit_pos] at lower
  rw [div_lt_iff₀ unit_pos] at upper
  apply (log_fraction_eq_iff (by decide) positive).mpr
  push_cast
  constructor
  · rw [zpow_add₀ (by norm_num), zpow_natCast, mul_comm]
    exact lower
  · rw [add_assoc, zpow_add₀ (by norm_num), mul_comm]
    exact_mod_cast upper

section Close

variable {x : ℚ} {mantissa : Nat} {exponent : Int}

private theorem Canonical.mantissa_le (canonical : Canonical mantissa exponent) : (mantissa : ℚ) ≤ 2 ^ 53 - 1 := by
  have : mantissa + 1 ≤ 2 ^ 53 := canonical.mantissa_lt
  have : (mantissa : ℚ) + 1 ≤ 2 ^ 53 := by exact_mod_cast this
  linarith

private theorem scaled_close (close : |x - mantissa * 2 ^ exponent| ≤ mantissa * 2 ^ exponent / (2 * 10 ^ 16)) :
    |x / 2 ^ exponent - mantissa| ≤ mantissa / (2 * 10 ^ 16) := by
  have unit_pos : (0 : ℚ) < 2 ^ exponent := by positivity
  have split : x / 2 ^ exponent - mantissa = (x - mantissa * 2 ^ exponent) / 2 ^ exponent := by
    rw [sub_div, mul_div_cancel_right₀ _ unit_pos.ne']
  rw [split, abs_div, abs_of_pos unit_pos, div_le_iff₀ unit_pos]
  refine close.trans_eq ?_
  ring

theorem roundingExponent_of_close (positive : 0 < x) (canonical : Canonical mantissa exponent)
    (close : |x / 2 ^ exponent - mantissa| ≤ mantissa / (2 * 10 ^ 16)) :
    roundingExponent x = exponent ∨ mantissa = 2 ^ 52 ∧ -1074 < exponent ∧ roundingExponent x = exponent - 1 := by
  have small := canonical.mantissa_le
  obtain ⟨-, lowest, -, normal⟩ := canonical
  obtain ⟨near_below, near_above⟩ := abs_le.mp close
  by_cases large : (2 : ℚ) ^ 52 ≤ x / 2 ^ exponent
  · have log : Int.log 2 x = exponent + 52 := by
      refine log_two_of_scaled positive large ?_
      linarith
    exact .inl (by unfold roundingExponent; omega)
  · rcases normal with normal | rfl
    · have normal' : (2 : ℚ) ^ 52 ≤ mantissa := by exact_mod_cast normal
      have power : mantissa = 2 ^ 52 := by
        have : (mantissa : ℚ) < 2 ^ 52 + 1 := by linarith
        have : mantissa < 2 ^ 52 + 1 := by exact_mod_cast this
        omega
      have log : Int.log 2 x = exponent + 51 := by
        refine log_two_of_scaled positive ?_ (not_le.mp large)
        linarith
      unfold roundingExponent
      omega
    · have log : Int.log 2 x < -1074 + 52 := by
        have unit_pos : (0 : ℚ) < 2 ^ (-1074 : Int) := by positivity
        rw [← Int.lt_zpow_iff_log_lt (by decide) positive]
        have : x < 2 ^ 52 * 2 ^ (-1074 : Int) := (div_lt_iff₀ unit_pos).mp (not_le.mp large)
        rw [add_comm, zpow_add₀ (by norm_num)]
        exact_mod_cast this
      exact .inl (by unfold roundingExponent; omega)

/-- The mantissa one exponent lower has the same bits. -/
theorem magnitudeBits_carry (above : -1074 < exponent) :
    magnitudeBits (2 ^ 53) (exponent - 1) = magnitudeBits (2 ^ 52) exponent := by
  obtain ⟨steps, shift⟩ : ∃ steps : Nat, exponent = steps - 1073 := ⟨(exponent + 1073).toNat, by omega⟩
  have first : (exponent - 1 + 1074).toNat = steps := by omega
  have second : (exponent + 1074).toNat = steps + 1 := by omega
  unfold magnitudeBits
  rw [first, second]
  omega

/-- A number so close to a `double` that there is no other in between is rounded to it. Below
a power of two the other ones are nearer, but still further away. -/
theorem nearestBits_of_close {numerator denominator : Nat} (numerator_pos : 0 < numerator)
    (denominator_pos : 0 < denominator) (canonical : Canonical mantissa exponent)
    (close : |(numerator : ℚ) / denominator - mantissa * 2 ^ exponent| ≤ mantissa * 2 ^ exponent / (2 * 10 ^ 16)) :
    nearestBits numerator denominator = magnitudeBits mantissa exponent := by
  have below := canonical.magnitudeBits_lt
  have small := canonical.mantissa_le
  have scaled := scaled_close close
  rcases roundingExponent_of_close (fraction_pos numerator_pos denominator_pos) canonical scaled with
    found | ⟨rfl, above, found⟩
  · have unit : |(numerator : ℚ) / denominator / 2 ^ roundingExponent ((numerator : ℚ) / denominator) - mantissa| <
        1 / 2 := by
      rw [found]
      refine scaled.trans_lt ?_
      linarith
    rw [nearestBits_of_unit numerator_pos denominator_pos unit, found, min_eq_right below.le]
  · have unit : |(numerator : ℚ) / denominator / 2 ^ roundingExponent ((numerator : ℚ) / denominator) -
        (2 ^ 53 : Nat)| < 1 / 2 := by
      have doubled : (numerator : ℚ) / denominator / 2 ^ (exponent - 1) - (2 ^ 53 : Nat) =
          2 * ((numerator : ℚ) / denominator / 2 ^ exponent - (2 ^ 52 : Nat)) := by
        rw [zpow_sub_one₀ (by norm_num)]
        push_cast
        field_simp
        ring
      rw [found, doubled, abs_mul, abs_of_pos two_pos]
      push_cast at scaled ⊢
      linarith
    rw [nearestBits_of_unit numerator_pos denominator_pos unit, found, magnitudeBits_carry above, min_eq_right below.le]

end Close

end OpcUaAdapter
