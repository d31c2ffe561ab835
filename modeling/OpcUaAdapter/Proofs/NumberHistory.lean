import OpcUaAdapter.Proofs.NumberText
import OpcUaAdapter.Proofs.StringHistory
import OpcUaAdapter.Proofs.HistoryPaging

/-! Numbers written to the history and read back. A `double` comes back with the same bits,
any other number as the `double` nearest to it. -/

namespace OpcUaAdapter

universe u v

def Floating.number : Floating → Option ℚ
  | .nan _ => none
  | .infinite _ => none
  | .finite negative mantissa exponent => some ((if negative then -1 else 1) * (mantissa * 2 ^ exponent))

section Decoding

theorem decodeFloating_finite {bits mantissa : Nat} {negative : Bool} {exponent : Int} (size : bits < 2 ^ 64)
    (finite : decodeFloating 11 52 bits = .finite negative mantissa exponent) :
    Canonical mantissa exponent ∧ bits = magnitudeBits mantissa exponent + if negative then 2 ^ 63 else 0 := by
  have parts : bits = bits / 2 ^ 63 % 2 * 2 ^ 63 + (bits / 2 ^ 52 % 2 ^ 11 * 2 ^ 52 + bits % 2 ^ 52) := by omega
  have fraction_lt : bits % 2 ^ 52 < 2 ^ 52 := Nat.mod_lt _ (by decide)
  have exponent_lt : bits / 2 ^ 52 % 2 ^ 11 < 2 ^ 11 := Nat.mod_lt _ (by decide)
  have sign : bits / 2 ^ 63 % 2 * 2 ^ 63 = if decide (bits / 2 ^ 63 % 2 = 1) then 2 ^ 63 else 0 := by
    rcases Nat.mod_two_eq_zero_or_one (bits / 2 ^ 63) with even | odd
    · rw [even]
      rfl
    · rw [odd]
      rfl
  unfold decodeFloating at finite
  simp only [Nat.reduceAdd] at finite
  split at finite
  next => split at finite <;> cases finite
  next not_top =>
    split at finite
    next zero =>
      obtain ⟨rfl, rfl, rfl⟩ := Floating.finite.inj finite
      refine ⟨⟨by omega, by norm_num, by norm_num, .inr (by norm_num)⟩, ?_⟩
      rw [zero, Nat.zero_mul, Nat.zero_add] at parts
      rw [← sign]
      conv => lhs; rw [parts]
      exact Nat.add_comm _ _
    next nonzero =>
      obtain ⟨rfl, rfl, rfl⟩ := Floating.finite.inj finite
      have bias : ((2 : Int) ^ (11 - 1) - 1 + (52 : Nat)) = 1075 := by norm_num
      rw [bias]
      refine ⟨⟨by omega, by omega, by omega, .inl (by omega)⟩, ?_⟩
      have steps : ((bits / 2 ^ 52 % 2 ^ 11 : Nat) - 1075 + 1074 : Int).toNat = bits / 2 ^ 52 % 2 ^ 11 - 1 := by omega
      unfold magnitudeBits
      rw [steps, ← sign]
      omega

theorem decodeFloating_magnitudeBits {mantissa : Nat} {exponent : Int} (canonical : Canonical mantissa exponent)
    (negative : Bool) :
    magnitudeBits mantissa exponent + (if negative then 2 ^ 63 else 0) < 2 ^ 64 ∧
      decodeFloating 11 52 (magnitudeBits mantissa exponent + if negative then 2 ^ 63 else 0) =
        .finite negative mantissa exponent := by
  obtain ⟨small, lowest, highest, normal⟩ := canonical
  obtain ⟨steps, shift⟩ : ∃ steps : Nat, exponent = steps - 1074 := ⟨(exponent + 1074).toNat, by omega⟩
  have position : (exponent + 1074).toNat = steps := by omega
  have bias : ((2 : Int) ^ (11 - 1) - 1 + (52 : Nat)) = 1075 := by norm_num
  unfold magnitudeBits
  rw [position]
  obtain ⟨sign, sign_eq⟩ : ∃ sign : Nat, sign = if negative then 2 ^ 63 else 0 := ⟨_, rfl⟩
  have sign_cases : negative = true ∧ sign = 2 ^ 63 ∨ negative = false ∧ sign = 0 := by
    cases negative with
    | true => exact .inl ⟨rfl, sign_eq⟩
    | false => exact .inr ⟨rfl, sign_eq⟩
  rw [← sign_eq]
  have negative_eq : decide ((mantissa + steps * 2 ^ 52 + sign) / 2 ^ (52 + 11) % 2 = 1) = negative := by
    rcases sign_cases with ⟨rfl, rfl⟩ | ⟨rfl, rfl⟩
    · exact decide_eq_true (by omega)
    · exact decide_eq_false (by omega)
  refine ⟨by omega, ?_⟩
  unfold decodeFloating
  rw [negative_eq, bias]
  by_cases subnormal : mantissa < 2 ^ 52
  · have lowest_exponent : steps = 0 := by omega
    have field : (mantissa + steps * 2 ^ 52 + sign) / 2 ^ 52 % 2 ^ 11 = 0 := by omega
    have fraction : (mantissa + steps * 2 ^ 52 + sign) % 2 ^ 52 = mantissa := by omega
    rw [field, fraction, shift, lowest_exponent]
    rfl
  · have field : (mantissa + steps * 2 ^ 52 + sign) / 2 ^ 52 % 2 ^ 11 = steps + 1 := by omega
    have fraction : (mantissa + steps * 2 ^ 52 + sign) % 2 ^ 52 = mantissa - 2 ^ 52 := by omega
    have whole : 2 ^ 52 + (mantissa - 2 ^ 52) = mantissa := by omega
    have exponent_eq : ((steps + 1 : Nat) : Int) - 1075 = exponent := by omega
    rw [field, fraction]
    dsimp only
    rw [if_neg (by omega), if_neg (by omega), whole, exponent_eq]

end Decoding

section Values

theorem exists_canonical {mantissa : Nat} {exponent : Int} (positive : 0 < mantissa) (small : mantissa < 2 ^ 53)
    (lowest : -1022 ≤ exponent) (highest : exponent ≤ 971) :
    ∃ mantissa' exponent', Canonical mantissa' exponent' ∧
      (mantissa' : ℚ) * 2 ^ exponent' = mantissa * 2 ^ exponent := by
  have lower : 2 ^ Nat.log 2 mantissa ≤ mantissa := Nat.pow_log_le_self 2 positive.ne'
  have upper : mantissa < 2 ^ (Nat.log 2 mantissa + 1) := Nat.lt_pow_succ_log_self (by decide) mantissa
  have log_le : Nat.log 2 mantissa ≤ 52 := Nat.lt_succ_iff.mp ((Nat.log_lt_iff_lt_pow (by decide) positive.ne').mpr small)
  obtain ⟨shift, split⟩ : ∃ shift, 52 = Nat.log 2 mantissa + shift := Nat.exists_eq_add_of_le log_le
  have power : 2 ^ 52 = 2 ^ Nat.log 2 mantissa * 2 ^ shift := by rw [← Nat.pow_add, ← split]
  have power' : 2 ^ 53 = 2 ^ (Nat.log 2 mantissa + 1) * 2 ^ shift := by
    rw [← Nat.pow_add]
    congr 1
    omega
  refine ⟨mantissa * 2 ^ shift, exponent - shift, ⟨?_, by omega, by omega, .inl ?_⟩, ?_⟩
  · rw [power']
    exact Nat.mul_lt_mul_of_pos_right upper (by positivity)
  · rw [power]
    exact Nat.mul_le_mul_right _ lower
  · rw [zpow_sub₀ (by norm_num), zpow_natCast]
    push_cast
    field_simp

theorem floatingText_fraction {mantissa : Nat} (positive : 0 < mantissa) (exponent : Int) (negative : Bool) :
    ∃ numerator denominator : Nat, 0 < numerator ∧ 0 < denominator ∧
      (numerator : ℚ) / denominator = mantissa * 2 ^ exponent ∧
      floatingText (.finite negative mantissa exponent) =
        (if negative then ['-'] else []) ++ positiveText numerator denominator := by
  simp only [floatingText, if_neg positive.ne']
  by_cases whole : 0 ≤ exponent
  · refine ⟨mantissa * 2 ^ exponent.toNat, 1, by positivity, one_pos, ?_, by rw [if_pos whole]⟩
    obtain ⟨n, rfl⟩ := Int.eq_ofNat_of_zero_le whole
    simp
  · refine ⟨mantissa, 2 ^ (-exponent).toNat, positive, by positivity, ?_, by rw [if_neg whole]⟩
    obtain ⟨n, rfl⟩ : ∃ n : Nat, exponent = -n := ⟨(-exponent).toNat, by omega⟩
    rw [neg_neg, Int.toNat_natCast, zpow_neg, zpow_natCast, div_eq_mul_inv]
    push_cast
    rfl

theorem strtod_floatingText {mantissa mantissa' : Nat} {exponent exponent' : Int}
    (canonical : Canonical mantissa' exponent') (same : (mantissa' : ℚ) * 2 ^ exponent' = mantissa * 2 ^ exponent)
    (negative : Bool) :
    strtod (floatingText (.finite negative mantissa exponent)) =
      some (UInt64.ofNat (magnitudeBits mantissa' exponent' + if negative then 2 ^ 63 else 0), []) := by
  have unit_pos : (0 : ℚ) < 2 ^ exponent := by positivity
  have unit_pos' : (0 : ℚ) < 2 ^ exponent' := by positivity
  rcases Nat.eq_zero_or_pos mantissa with rfl | positive
  · have zero : mantissa' = 0 := by
      rw [Nat.cast_zero, zero_mul, mul_eq_zero_iff_right unit_pos'.ne'] at same
      exact_mod_cast same
    have lowest : exponent' = -1074 := by
      have := canonical.normal
      omega
    subst zero lowest
    cases negative with
    | true => rfl
    | false => rfl
  · obtain ⟨numerator, denominator, numerator_pos, denominator_pos, value, text⟩ :=
      floatingText_fraction positive exponent negative
    obtain ⟨number, shift, significant⟩ : ∃ number shift, significantDigits numerator denominator = (number, shift) :=
      ⟨_, _, rfl⟩
    obtain ⟨lower, upper, close⟩ := significantDigits_close numerator_pos denominator_pos significant
    have printed := printed_positiveText significant lower upper
    obtain ⟨digits, place, scanned, equal⟩ := printed.scanned
    rw [value, ← same, ← equal] at close
    have digits_pos : 0 < digits := by
      rcases Nat.eq_zero_or_pos digits with rfl | some
      · have : (0 : ℚ) < number * 10 ^ (shift - 16) := by
          have : (0 : ℚ) < number := by exact_mod_cast (by omega : 0 < number)
          positivity
        rw [← equal, Nat.cast_zero, zero_mul] at this
        exact absurd this (lt_irrefl _)
      · exact some
    rw [text, strtod_decimal printed.numeric printed.starts scanned, bits_of_close digits_pos canonical close]

private theorem intText_eq (value : Int) :
    intText value = (if decide (value < 0) then ['-'] else []) ++ Nat.toDigits 10 value.natAbs := by
  cases value with
  | ofNat magnitude => rfl
  | negSucc magnitude =>
    rw [decide_eq_true (Int.negSucc_lt_zero magnitude)]
    rfl

end Values

section Integers

theorem nearestBits_rounds {n : Nat} (positive : 0 < n) (size : n < 2 ^ 64) :
    ∃ mantissa exponent, Canonical mantissa exponent ∧ nearestBits n 1 = magnitudeBits mantissa exponent ∧
      |(mantissa : ℚ) * 2 ^ exponent - n| ≤ n / 2 ^ 53 := by
  obtain ⟨numerator, denominator, denominator_pos, scaled, bits⟩ := nearestBits_eq positive one_pos
  have log : Int.log 2 ((n : ℚ) / (1 : Nat)) = Nat.log 2 n := by
    rw [Nat.cast_one, div_one, Int.log_natCast]
  have log_lt : Nat.log 2 n < 64 := (Nat.log_lt_iff_lt_pow (by decide) positive.ne').mpr size
  have exponent : roundingExponent ((n : ℚ) / (1 : Nat)) = Nat.log 2 n - 52 := by
    unfold roundingExponent
    rw [log]
    omega
  rw [exponent, Nat.cast_one, div_one] at scaled
  rw [exponent] at bits
  have unit_pos : (0 : ℚ) < 2 ^ ((Nat.log 2 n : Int) - 52) := by positivity
  have split : (2 : ℚ) ^ ((Nat.log 2 n : Int) - 52) * 2 ^ 52 = 2 ^ Nat.log 2 n := by
    rw [zpow_sub₀ (by norm_num), zpow_natCast]
    norm_cast
    field_simp
  have lower : (2 : ℚ) ^ Nat.log 2 n ≤ n := by exact_mod_cast Nat.pow_log_le_self 2 positive.ne'
  have upper : (n : ℚ) < 2 ^ Nat.log 2 n * 2 := by
    have := Nat.lt_pow_succ_log_self (b := 2) (by decide) n
    exact_mod_cast this
  have at_least : (2 : ℚ) ^ 52 ≤ n / 2 ^ ((Nat.log 2 n : Int) - 52) := by
    rw [le_div_iff₀ unit_pos, mul_comm, split]
    exact lower
  have less : (n : ℚ) / 2 ^ ((Nat.log 2 n : Int) - 52) < 2 ^ 53 := by
    rw [div_lt_iff₀ unit_pos, pow_succ, mul_right_comm, mul_comm (2 ^ 52 : ℚ), split]
    exact upper
  have close := abs_le.mp (roundHalfEven_close numerator denominator_pos)
  have error : |(roundHalfEven numerator denominator : ℚ) * 2 ^ ((Nat.log 2 n : Int) - 52) - n| ≤ n / 2 ^ 53 := by
    have whole : (roundHalfEven numerator denominator : ℚ) * 2 ^ ((Nat.log 2 n : Int) - 52) - n =
        (roundHalfEven numerator denominator - (numerator : ℚ) / denominator) * 2 ^ ((Nat.log 2 n : Int) - 52) := by
      rw [scaled, sub_mul, div_mul_cancel₀ _ unit_pos.ne']
    rw [whole, abs_mul, abs_of_pos unit_pos]
    refine (mul_le_mul_of_nonneg_right (roundHalfEven_close numerator denominator_pos) unit_pos.le).trans ?_
    linarith
  rw [scaled] at close
  have rounded_ge : 2 ^ 52 ≤ roundHalfEven numerator denominator := by
    have : (2 : ℚ) ^ 52 < roundHalfEven numerator denominator + 1 := by linarith [close.1]
    have : 2 ^ 52 < roundHalfEven numerator denominator + 1 := by exact_mod_cast this
    omega
  have rounded_le : roundHalfEven numerator denominator ≤ 2 ^ 53 := by
    have : (roundHalfEven numerator denominator : ℚ) < 2 ^ 53 + 1 := by linarith [close.2]
    have : roundHalfEven numerator denominator < 2 ^ 53 + 1 := by exact_mod_cast this
    omega
  rcases Nat.lt_or_eq_of_le rounded_le with no_carry | carry
  · have canonical : Canonical (roundHalfEven numerator denominator) ((Nat.log 2 n : Int) - 52) :=
      ⟨no_carry, by omega, by omega, .inl rounded_ge⟩
    exact ⟨_, _, canonical, by rw [bits, min_eq_right canonical.magnitudeBits_lt.le], error⟩
  · have canonical : Canonical (2 ^ 52) ((Nat.log 2 n : Int) - 52 + 1) :=
      ⟨by decide, by omega, by omega, .inl (le_refl _)⟩
    have same := @magnitudeBits_carry ((Nat.log 2 n : Int) - 52 + 1) (by omega)
    rw [add_sub_cancel_right] at same
    refine ⟨_, _, canonical, by rw [bits, carry, same, min_eq_right canonical.magnitudeBits_lt.le], ?_⟩
    rw [carry] at error
    refine le_of_eq_of_le ?_ error
    rw [zpow_add_one₀ (by norm_num)]
    push_cast
    congr 1
    ring

theorem nearestBits_exact {n : Nat} (positive : 0 < n) (small : n ≤ 2 ^ 53) :
    ∃ mantissa exponent, Canonical mantissa exponent ∧ nearestBits n 1 = magnitudeBits mantissa exponent ∧
      (mantissa : ℚ) * 2 ^ exponent = n := by
  have found : ∃ mantissa exponent, Canonical mantissa exponent ∧ (mantissa : ℚ) * 2 ^ exponent = n := by
    rcases Nat.lt_or_eq_of_le small with less | rfl
    · obtain ⟨mantissa, exponent, canonical, same⟩ := @exists_canonical n 0 positive less (by decide) (by decide)
      exact ⟨mantissa, exponent, canonical, by rw [same, zpow_zero, mul_one]⟩
    · exact ⟨2 ^ 52, 1, ⟨by decide, by decide, by decide, .inl (le_refl _)⟩, by norm_num⟩
  obtain ⟨mantissa, exponent, canonical, same⟩ := found
  refine ⟨mantissa, exponent, canonical, nearestBits_of_close positive one_pos canonical ?_, same⟩
  rw [same, Nat.cast_one, div_one, sub_self, abs_zero]
  positivity

theorem nearestBits_natural {n : Nat} (size : n < 2 ^ 64) :
    ∃ mantissa exponent, Canonical mantissa exponent ∧ nearestBits n 1 = magnitudeBits mantissa exponent ∧
      |(mantissa : ℚ) * 2 ^ exponent - n| ≤ n / 2 ^ 53 ∧ (n ≤ 2 ^ 53 → (mantissa : ℚ) * 2 ^ exponent = n) := by
  rcases Nat.eq_zero_or_pos n with rfl | positive
  · exact ⟨0, -1074, ⟨by decide, by decide, by decide, .inr rfl⟩, rfl, by norm_num, fun _ => by norm_num⟩
  · by_cases small : n ≤ 2 ^ 53
    · obtain ⟨mantissa, exponent, canonical, bits, same⟩ := nearestBits_exact positive small
      refine ⟨mantissa, exponent, canonical, bits, ?_, fun _ => same⟩
      rw [same, sub_self, abs_zero]
      positivity
    · obtain ⟨mantissa, exponent, canonical, bits, close⟩ := nearestBits_rounds positive size
      exact ⟨mantissa, exponent, canonical, bits, close, fun below => absurd below small⟩

end Integers

section Parsing

theorem parseNumberValue_of_strtod {text : Text} {bits : UInt64}
    (plain : ∀ c ∈ text, isspace c = false ∧ c ≠ '\x00') (whole : strtod text = some (bits, [])) :
    parseNumberValue text = some bits := by
  have trimmed : trim text = text := by
    apply trim_eq_self_iff.mpr
    exact ⟨fun c first => (plain c (List.mem_of_mem_head? first)).1, fun c last => (plain c (List.mem_of_getLast? last)).1⟩
  have no_end : cStr text = text := cStr_eq_self_iff.mpr fun member => (plain _ member).2 rfl
  have filled : text ≠ [] := by
    rintro rfl
    cases whole
  unfold parseNumberValue
  simp only [trimmed, no_end, whole, List.isEmpty_eq_false_iff.mpr filled]
  rfl

theorem Numeric.plain {text : Text} (numeric : Numeric text) : ∀ c ∈ text, isspace c = false ∧ c ≠ '\x00' := by
  intro c member
  rcases numeric c member with digit | rfl | rfl | rfl | rfl
  · refine ⟨(isDigit_plain digit).1, ?_⟩
    rintro rfl
    cases digit
  all_goals exact ⟨by decide, by decide⟩

theorem Numeric.signed {text : Text} (numeric : Numeric text) (negative : Bool) :
    Numeric ((if negative then ['-'] else []) ++ text) := by
  cases negative with
  | true => exact numeric.cons (by simp)
  | false => exact numeric

private theorem numeric_floatingText (negative : Bool) (mantissa : Nat) (exponent : Int) :
    Numeric (floatingText (.finite negative mantissa exponent)) := by
  rcases Nat.eq_zero_or_pos mantissa with rfl | positive
  · cases negative with
    | true => exact Numeric.cons (by simp) (Numeric.cons (by decide) fun c member => absurd member List.not_mem_nil)
    | false => exact Numeric.cons (by decide) fun c member => absurd member List.not_mem_nil
  · obtain ⟨numerator, denominator, numerator_pos, denominator_pos, -, text⟩ :=
      floatingText_fraction positive exponent negative
    obtain ⟨lower, upper, -⟩ := significantDigits_close numerator_pos denominator_pos
      (rfl : significantDigits numerator denominator = (_, _))
    rw [text]
    exact (printed_positiveText rfl lower upper).numeric.signed negative

private theorem parseNumberValue_floatingText {mantissa mantissa' : Nat} {exponent exponent' : Int}
    (canonical : Canonical mantissa' exponent') (same : (mantissa' : ℚ) * 2 ^ exponent' = mantissa * 2 ^ exponent)
    (negative : Bool) :
    parseNumberValue (floatingText (.finite negative mantissa exponent)) =
      some (UInt64.ofNat (magnitudeBits mantissa' exponent' + if negative then 2 ^ 63 else 0)) :=
  parseNumberValue_of_strtod (numeric_floatingText negative mantissa exponent).plain
    (strtod_floatingText canonical same negative)

theorem number_of_magnitudeBits {mantissa : Nat} {exponent : Int} (canonical : Canonical mantissa exponent)
    (negative : Bool) :
    (decodeFloating 11 52 (UInt64.ofNat (magnitudeBits mantissa exponent + if negative then 2 ^ 63 else 0)).toNat).number =
      some ((if negative then -1 else 1) * ((mantissa : ℚ) * 2 ^ exponent)) := by
  obtain ⟨size, decoded⟩ := decodeFloating_magnitudeBits canonical negative
  rw [UInt64.toNat_ofNat', Nat.mod_eq_of_lt size, decoded]
  rfl

private theorem parseNumberValue_intText {value : Int} (size : value.natAbs < 2 ^ 64) :
    ∃ bits read, parseNumberValue (intText value) = some bits ∧
      (decodeFloating 11 52 bits.toNat).number = some read ∧ |read - value| ≤ |(value : ℚ)| / 2 ^ 53 ∧
      (value.natAbs ≤ 2 ^ 53 → read = value) := by
  obtain ⟨mantissa, exponent, canonical, bits, close, exact_read⟩ := nearestBits_natural size
  have whole := strtod_decimal (digits_toDigits value.natAbs).numeric (starts_toDigits value.natAbs)
    (scanDecimal_toDigits value.natAbs) (decide (value < 0))
  have natural : (Magnitude.decimal value.natAbs 0).bits = nearestBits value.natAbs 1 := by
    unfold Magnitude.bits
    dsimp only
    rw [if_pos (le_refl 0), Int.toNat_zero, pow_zero, mul_one]
  rw [← intText_eq, natural, bits] at whole
  have plain : ∀ c ∈ intText value, isspace c = false ∧ c ≠ '\x00' := by
    rw [intText_eq]
    exact ((digits_toDigits value.natAbs).numeric.signed _).plain
  have signed : (value : ℚ) = (if decide (value < 0) then -1 else 1) * (value.natAbs : ℚ) := by
    rw [Nat.cast_natAbs]
    by_cases negative : value < 0
    · simp [negative, abs_of_neg negative]
    · simp [negative, abs_of_nonneg (not_lt.mp negative)]
  have unit : |(if decide (value < 0) then -1 else 1 : ℚ)| = 1 := by
    split <;> simp
  refine ⟨_, _, parseNumberValue_of_strtod plain whole, number_of_magnitudeBits canonical _, ?_, fun small => ?_⟩
  · rw [signed, ← mul_sub, abs_mul, abs_mul, unit, one_mul, one_mul, Nat.abs_cast]
    exact close
  · rw [exact_read small, ← signed]

end Parsing

section Kinds

def UaTypeKind.number : (kind : UaTypeKind) → kind.Value → Option ℚ
  | .string, _ => none
  | .boolean, _ => none
  | .sByte, value => some value.toInt
  | .byte, value => some value.toNat
  | .int16, value => some value.toInt
  | .uInt16, value => some value.toNat
  | .int32, value => some value.toInt
  | .uInt32, value => some value.toNat
  | .int64, value => some value.toInt
  | .uInt64, value => some value.toNat
  | .float, value => (decodeFloating 8 23 value.toNat).number
  | .double, value => (decodeFloating 11 52 value.toNat).number
  | .dateTime, value => some value.toInt
  | .other, _ => none

private theorem Floating.number_eq_some_iff {floating : Floating} {x : ℚ} :
    floating.number = some x ↔ ∃ negative mantissa exponent, floating = .finite negative mantissa exponent ∧
      x = (if negative then -1 else 1) * (mantissa * 2 ^ exponent) := by
  cases floating with
  | nan negative => simp [number]
  | infinite negative => simp [number]
  | finite negative mantissa exponent =>
    constructor
    · intro same
      exact ⟨_, _, _, rfl, (Option.some.inj same).symm⟩
    · rintro ⟨_, _, _, same, rfl⟩
      cases same
      rfl

/-- What a number reads as after it was printed: a `double` that is at most half a unit away,
and the number itself if it was a floating point number or not larger than 2 ^ 53. -/
structure ReadsAs (floating : Bool) (text : Text) (x : ℚ) (bits : UInt64) (read : ℚ) : Prop where
  parsed : parseNumberValue text = some bits
  number : (decodeFloating 11 52 bits.toNat).number = some read
  close : |read - x| ≤ |x| / 2 ^ 53
  exactly : floating = true ∨ |x| ≤ 2 ^ 53 → read = x

private theorem readsAs_intText {value : Int} (size : value.natAbs < 2 ^ 64) :
    ∃ bits read, ReadsAs false (intText value) value bits read := by
  obtain ⟨bits, read, parsed, number, close, small⟩ := parseNumberValue_intText size
  refine ⟨bits, read, parsed, number, close, fun either => small ?_⟩
  rcases either with floating | bound
  · cases floating
  · have : ((value.natAbs : Nat) : ℚ) ≤ 2 ^ 53 := by
      rw [Nat.cast_natAbs]
      exact_mod_cast bound
    exact_mod_cast this

private theorem readsAs_floatingText {negative : Bool} {mantissa mantissa' : Nat} {exponent exponent' : Int}
    (canonical : Canonical mantissa' exponent') (same : (mantissa' : ℚ) * 2 ^ exponent' = mantissa * 2 ^ exponent) :
    ReadsAs true (floatingText (.finite negative mantissa exponent))
      ((if negative then -1 else 1) * (mantissa * 2 ^ exponent))
      (UInt64.ofNat (magnitudeBits mantissa' exponent' + if negative then 2 ^ 63 else 0))
      ((if negative then -1 else 1) * (mantissa * 2 ^ exponent)) where
  parsed := parseNumberValue_floatingText canonical same negative
  number := by rw [number_of_magnitudeBits canonical, same]
  close := by
    rw [sub_self, abs_zero]
    positivity
  exactly := fun _ => rfl

theorem decodeFloating_float {bits mantissa : Nat} {negative : Bool} {exponent : Int}
    (finite : decodeFloating 8 23 bits = .finite negative mantissa exponent) :
    ∃ mantissa' exponent', Canonical mantissa' exponent' ∧
      (mantissa' : ℚ) * 2 ^ exponent' = mantissa * 2 ^ exponent := by
  have fraction_lt : bits % 2 ^ 23 < 2 ^ 23 := Nat.mod_lt _ (by decide)
  have exponent_lt : bits / 2 ^ 23 % 2 ^ 8 < 2 ^ 8 := Nat.mod_lt _ (by decide)
  have bias : ((2 : Int) ^ (8 - 1) - 1 + (23 : Nat)) = 150 := by norm_num
  have bounds : mantissa < 2 ^ 24 ∧ -149 ≤ exponent ∧ exponent ≤ 105 := by
    unfold decodeFloating at finite
    dsimp only at finite
    rw [bias] at finite
    split at finite
    next => split at finite <;> cases finite
    next =>
      split at finite
      next =>
        obtain ⟨-, rfl, rfl⟩ := Floating.finite.inj finite
        omega
      next =>
        obtain ⟨-, rfl, rfl⟩ := Floating.finite.inj finite
        omega
  rcases Nat.eq_zero_or_pos mantissa with rfl | positive
  · exact ⟨0, -1074, ⟨by decide, by decide, by decide, .inr rfl⟩, by simp⟩
  · exact exists_canonical positive (by omega) (by omega) (by omega)

private theorem readsAs_integer {value : Int} (size : value.natAbs < 2 ^ 64) :
    ∃ bits read, ReadsAs false (intText value) value bits read ∧ (⟨intText value, false⟩ : FieldValue).isString = false ∧
      Numeric (intText value) := by
  obtain ⟨bits, read, reads⟩ := readsAs_intText size
  refine ⟨bits, read, reads, rfl, ?_⟩
  rw [intText_eq]
  exact (digits_toDigits value.natAbs).numeric.signed _

private theorem readsAs_natural {value : Nat} (size : value < 2 ^ 64) :
    ∃ bits read, ReadsAs false (intText value) value bits read ∧ (⟨intText value, false⟩ : FieldValue).isString = false ∧
      Numeric (intText value) := by
  have reads := @readsAs_integer value size
  rwa [Int.cast_natCast] at reads

theorem readsAs_uaValueToString {kind : UaTypeKind} {value : kind.Value} {x : ℚ} (number : kind.number value = some x) :
    ∃ bits read, ReadsAs (kind = .float ∨ kind = .double) (uaValueToString kind value).value x bits read ∧
      (uaValueToString kind value).isString = false ∧ Numeric (uaValueToString kind value).value := by
  cases kind with
  | string => cases number
  | boolean => cases number
  | other => cases number
  | sByte =>
    cases number
    exact readsAs_integer (by have := Int8.toInt_lt value; have := Int8.le_toInt value; omega)
  | int16 =>
    cases number
    exact readsAs_integer (by have := Int16.toInt_lt value; have := Int16.le_toInt value; omega)
  | int32 =>
    cases number
    exact readsAs_integer (by have := Int32.toInt_lt value; have := Int32.le_toInt value; omega)
  | int64 =>
    cases number
    exact readsAs_integer (by have := Int64.toInt_lt value; have := Int64.le_toInt value; omega)
  | dateTime =>
    cases number
    exact readsAs_integer (by have := Int64.toInt_lt value; have := Int64.le_toInt value; omega)
  | byte =>
    cases number
    exact readsAs_natural (by have := UInt8.toNat_lt value; omega)
  | uInt16 =>
    cases number
    exact readsAs_natural (by have := UInt16.toNat_lt value; omega)
  | uInt32 =>
    cases number
    exact readsAs_natural (by have := UInt32.toNat_lt value; omega)
  | uInt64 =>
    cases number
    exact readsAs_natural (by have := UInt64.toNat_lt value; omega)
  | float =>
    obtain ⟨negative, mantissa, exponent, finite, rfl⟩ := Floating.number_eq_some_iff.mp number
    obtain ⟨mantissa', exponent', canonical, same⟩ := decodeFloating_float finite
    have printed : uaValueToString .float value = ⟨floatingText (.finite negative mantissa exponent), false⟩ :=
      congrArg (fun floating => (⟨floatingText floating, false⟩ : FieldValue)) finite
    rw [printed]
    exact ⟨_, _, readsAs_floatingText canonical same, rfl, numeric_floatingText _ _ _⟩
  | double =>
    obtain ⟨negative, mantissa, exponent, finite, rfl⟩ := Floating.number_eq_some_iff.mp number
    obtain ⟨canonical, -⟩ := decodeFloating_finite (UInt64.toNat_lt value) finite
    have printed : uaValueToString .double value = ⟨floatingText (.finite negative mantissa exponent), false⟩ :=
      congrArg (fun floating => (⟨floatingText floating, false⟩ : FieldValue)) finite
    rw [printed]
    exact ⟨_, _, readsAs_floatingText canonical rfl, rfl, numeric_floatingText _ _ _⟩

theorem parseNumberValue_double {value : UInt64} {x : ℚ} (number : UaTypeKind.double.number value = some x) :
    parseNumberValue (uaValueToString .double value).value = some value := by
  obtain ⟨negative, mantissa, exponent, finite, -⟩ := Floating.number_eq_some_iff.mp number
  obtain ⟨canonical, bits⟩ := decodeFloating_finite (UInt64.toNat_lt value) finite
  have printed : uaValueToString .double value = ⟨floatingText (.finite negative mantissa exponent), false⟩ :=
    congrArg (fun floating => (⟨floatingText floating, false⟩ : FieldValue)) finite
  rw [printed]
  refine (parseNumberValue_floatingText canonical rfl negative).trans ?_
  rw [← bits, UInt64.ofNat_toNat]

theorem Numeric.checkValue {text : Text} (numeric : Numeric text) (filled : text ≠ []) :
    checkValue text false = true := by
  have no_word {word : Text} {w : Char} (inside : w ∈ word) (letter : w.isDigit = false)
      (other : w ≠ '.' ∧ w ≠ 'e' ∧ w ≠ '+' ∧ w ≠ '-') : text ≠ word := by
    rintro rfl
    rcases numeric w inside with digit | rfl | rfl | rfl | rfl
    · rw [digit] at letter
      cases letter
    · exact other.1 rfl
    · exact other.2.1 rfl
    · exact other.2.2.1 rfl
    · exact other.2.2.2 rfl
  have words : ¬ (text = "NaN" ∨ text = "nan" ∨ text = "inf" ∨ text = "-inf") := by
    rintro (same | same | same | same)
    · exact @no_word "NaN" 'N' (by decide) rfl (by decide) same
    · exact @no_word "nan" 'n' (by decide) rfl (by decide) same
    · exact @no_word "inf" 'n' (by decide) rfl (by decide) same
    · exact @no_word "-inf" 'n' (by decide) rfl (by decide) same
  have some_text : text.isEmpty = false := List.isEmpty_eq_false_iff.mpr filled
  simpa [OpcUaAdapter.checkValue, some_text, not_or, and_assoc] using words

end Kinds

section ReadBack
variable {σ : Type u} {τ : Type v} (member : HistoryClient σ) (reader : HistoryReader τ)
  {ctx : InfluxHistoryBackendContext} {value : UaDataValue} {kind : UaTypeKind} {scalar : kind.Value} {now : Int}
  {writer : σ} {database : τ} {request : PageRequest} {environment : UaEnvironment}

theorem scalar_history_handed {nodeId : UaNodeId} (connected : ctx.hasClient = true)
    (sound : member.hasFundamentalError writer = false) (present : value.hasValue = true)
    (single : value.value = .scalar kind scalar) :
    (serverSetHistoryDataInflux member (some ctx) (some nodeId) true (some value) now writer).handed =
      if checkValue (uaValueToString kind scalar).value (uaValueToString kind scalar).isString then
        [⟨ctx.influxFieldName, uaValueToString kind scalar, commonTags ctx (member.addExtraTags writer) nodeId,
          some (valueTimestamp value now)⟩]
      else [] := by
  have converted : variantToStrings value.value =
      if checkValue (uaValueToString kind scalar).value (uaValueToString kind scalar).isString then
        some [uaValueToString kind scalar] else none := by
    rw [single]
    rfl
  by_cases kept : checkValue (uaValueToString kind scalar).value (uaValueToString kind scalar).isString = true
  · rw [if_pos kept] at converted ⊢
    simp only [serverSetHistoryDataInflux, present, connected, sound, converted, Bool.not_true, Bool.or_self,
      Bool.false_eq_true, ite_false]
    rfl
  · rw [if_neg kept] at converted ⊢
    simp only [serverSetHistoryDataInflux, present, connected, sound, converted, Bool.not_true, Bool.or_self,
      Bool.false_eq_true, ite_false]

private theorem recordVariant_number {text : Text} {bits : UInt64} (parsed : parseNumberValue text = some bits) :
    recordVariant text = .scalar .double bits := by
  unfold recordVariant
  rw [parsed]

/-- The database returns, for the point that was handed over, one record with a text that
reads as the same number. -/
def Delivers (handed : List PendingWritePoint) (records : Except StdException (List InfluxRecord)) : Prop :=
  ∀ point ∈ handed, ∃ record : InfluxRecord,
    parseNumberValue record.value = parseNumberValue point.fieldValue.value ∧ records = .ok [record]

private theorem scalar_history_page {bits : UInt64} (connected : ctx.hasClient = true)
    (sound : member.hasFundamentalError writer = false) (present : value.hasValue = true)
    (single : value.value = .scalar kind scalar) (memory : environment.arrayAllocated = true)
    (delivers : Delivers
      (serverSetHistoryDataInflux member (some ctx) (some request.nodeId) true (some value) now writer).handed
      (reader.read (historyQuery ctx request.nodeId (request.call none) environment) database).records)
    (error : (reader.read (historyQuery ctx request.nodeId (request.call none) environment) database).readError = [])
    (kept : checkValue (uaValueToString kind scalar).value (uaValueToString kind scalar).isString = true)
    (parsed : parseNumberValue (uaValueToString kind scalar).value = some bits) :
    (∃ point, (serverSetHistoryDataInflux member (some ctx) (some request.nodeId) true (some value) now writer).handed =
        [point]) ∧
      ∃ page, (getHistoryDataInflux reader (some ctx) (request.call none) environment database).1 = .ok page ∧
        page.dataValues.map UaDataValue.value = [.scalar .double bits] := by
  have handed := @scalar_history_handed _ member ctx value kind scalar now writer request.nodeId connected sound present
    single
  rw [if_pos kept] at handed
  rw [handed] at delivers ⊢
  obtain ⟨record, again, records⟩ := delivers _ List.mem_cons_self
  obtain ⟨page, answered, values⟩ := getHistoryDataInflux_single reader memory records error
  refine ⟨⟨_, rfl⟩, page, answered, ?_⟩
  rw [values]
  exact congrArg (fun variant => [variant]) (recordVariant_number (again.trans parsed))

private theorem checkValue_number {x : ℚ} (number : kind.number scalar = some x) :
    checkValue (uaValueToString kind scalar).value (uaValueToString kind scalar).isString = true := by
  obtain ⟨bits, read, reads, not_string, numeric⟩ := readsAs_uaValueToString number
  rw [not_string]
  apply numeric.checkValue
  intro empty
  have parsed := reads.parsed
  rw [empty] at parsed
  cases parsed

/-- A number of any type comes back as a `double` that is at most half a unit away from it.
The number does not change if it was a floating point number or is not larger than 2 ^ 53. -/
theorem number_history_read_back {x : ℚ} (number : kind.number scalar = some x) (connected : ctx.hasClient = true)
    (sound : member.hasFundamentalError writer = false) (present : value.hasValue = true)
    (single : value.value = .scalar kind scalar) (memory : environment.arrayAllocated = true)
    (delivers : Delivers
      (serverSetHistoryDataInflux member (some ctx) (some request.nodeId) true (some value) now writer).handed
      (reader.read (historyQuery ctx request.nodeId (request.call none) environment) database).records)
    (error : (reader.read (historyQuery ctx request.nodeId (request.call none) environment) database).readError = []) :
    (∃ point, (serverSetHistoryDataInflux member (some ctx) (some request.nodeId) true (some value) now writer).handed =
        [point]) ∧
      ∃ page bits read,
        (getHistoryDataInflux reader (some ctx) (request.call none) environment database).1 = .ok page ∧
          page.dataValues.map UaDataValue.value = [.scalar .double bits] ∧
          UaTypeKind.double.number bits = some read ∧ |read - x| ≤ |x| / 2 ^ 53 ∧
          (kind = .float ∨ kind = .double ∨ |x| ≤ 2 ^ 53 → read = x) := by
  obtain ⟨bits, read, reads, -, -⟩ := readsAs_uaValueToString number
  obtain ⟨handed, page, answered, values⟩ :=
    scalar_history_page member reader connected sound present single memory delivers error (checkValue_number number)
      reads.parsed
  refine ⟨handed, page, bits, read, answered, values, reads.number, reads.close, fun either => reads.exactly ?_⟩
  rw [decide_eq_true_eq, or_assoc]
  exact either

/-- The `double` that `strtod` makes of `-nan`. -/
def negativeNan : UInt64 := 0xFFF8000000000000

theorem double_not_number {value : UInt64} (none_number : UaTypeKind.double.number value = none) :
    checkValue (uaValueToString .double value).value (uaValueToString .double value).isString = false ∨
      uaValueToString .double value = ⟨"-nan", false⟩ := by
  have printed (floating : Floating) (decoded : decodeFloating 11 52 value.toNat = floating) :
      uaValueToString .double value = ⟨floatingText floating, false⟩ :=
    congrArg (fun floating => (⟨floatingText floating, false⟩ : FieldValue)) decoded
  cases decoded : decodeFloating 11 52 value.toNat with
  | nan negative =>
    rw [printed _ decoded]
    cases negative with
    | true => exact .inr rfl
    | false => exact .inl rfl
  | infinite negative =>
    rw [printed _ decoded]
    cases negative with
    | true => exact .inl rfl
    | false => exact .inl rfl
  | finite negative mantissa exponent =>
    have number : UaTypeKind.double.number value = some _ := congrArg Floating.number decoded
    rw [number] at none_number
    cases none_number

/-- A value of type `double` comes back with the same bits exactly if it is a number. Of the
others, only a NaN with a sign is written, and that comes back as the one NaN of `strtod`. -/
theorem double_history_read_back_iff {bits : UInt64} (connected : ctx.hasClient = true)
    (sound : member.hasFundamentalError writer = false) (present : value.hasValue = true)
    (single : value.value = .scalar .double bits) (memory : environment.arrayAllocated = true)
    (delivers : Delivers
      (serverSetHistoryDataInflux member (some ctx) (some request.nodeId) true (some value) now writer).handed
      (reader.read (historyQuery ctx request.nodeId (request.call none) environment) database).records)
    (error : (reader.read (historyQuery ctx request.nodeId (request.call none) environment) database).readError = []) :
    ((∃ point, (serverSetHistoryDataInflux member (some ctx) (some request.nodeId) true (some value) now writer).handed =
          [point]) ∧
        ∃ page, (getHistoryDataInflux reader (some ctx) (request.call none) environment database).1 = .ok page ∧
          page.dataValues.map UaDataValue.value = [.scalar .double bits]) ↔
      (UaTypeKind.double.number bits).isSome = true ∨ bits = negativeNan := by
  cases number : UaTypeKind.double.number bits with
  | some x =>
    refine iff_of_true ?_ (.inl rfl)
    exact scalar_history_page member reader connected sound present single memory delivers error
      (checkValue_number number) (parseNumberValue_double number)
  | none =>
    rcases double_not_number number with refused | printed
    · have handed := @scalar_history_handed _ member ctx value .double bits now writer request.nodeId connected sound
        present single
      rw [if_neg (by rw [refused]; decide)] at handed
      refine iff_of_false ?_ ?_
      · rintro ⟨⟨point, some_point⟩, -⟩
        rw [handed] at some_point
        cases some_point
      · rintro (is_some | rfl)
        · cases is_some
        · exact absurd refused (by decide)
    · have kept : checkValue (uaValueToString .double bits).value (uaValueToString .double bits).isString = true := by
        rw [printed]
        rfl
      have parsed : parseNumberValue (uaValueToString .double bits).value = some negativeNan := by
        rw [printed]
        decide
      obtain ⟨handed, page, answered, values⟩ :=
        scalar_history_page member reader connected sound present single memory delivers error kept parsed
      constructor
      · rintro ⟨-, other, again, same⟩
        rw [answered] at again
        cases again
        rw [values] at same
        exact .inr (by cases same; rfl)
      · rintro (is_some | rfl)
        · cases is_some
        · exact ⟨handed, page, answered, values⟩

end ReadBack

section Demo

/-- The `double` 0.1, for which the database has a shorter text. -/
theorem double_history_read_back_of_tenth :
    (∃ point, (serverSetHistoryDataInflux takingClient (some demoContext) (some demoRequest.nodeId) true
          (some ⟨true, .scalar .double 0x3FB999999999999A, none, none⟩) unixEpoch ()).handed = [point]) ∧
      ∃ page, (getHistoryDataInflux (demoReader [{ value := "0.1" }]) (some demoContext) (demoRequest.call none)
          ⟨0, 0, true, true⟩ ()).1 = .ok page ∧
        page.dataValues.map UaDataValue.value = [.scalar .double 0x3FB999999999999A] :=
  (double_history_read_back_iff takingClient (demoReader [{ value := "0.1" }]) rfl rfl rfl rfl rfl (by
    intro point handed
    have printed : uaValueToString .double 0x3FB999999999999A = ⟨"0.10000000000000001", false⟩ := by decide +kernel
    rw [@scalar_history_handed _ takingClient _ _ _ _ _ _ _ rfl rfl rfl rfl, printed] at handed
    cases List.mem_singleton.mp handed
    exact ⟨{ value := "0.1" }, by decide +kernel, rfl⟩) rfl).mpr (.inl rfl)

theorem number_history_read_back_of_large :
    (∃ point, (serverSetHistoryDataInflux takingClient (some demoContext) (some demoRequest.nodeId) true
          (some ⟨true, .scalar .int64 9007199254740993, none, none⟩) unixEpoch ()).handed = [point]) ∧
      ∃ page bits read, (getHistoryDataInflux (demoReader [{ value := "9007199254740992" }]) (some demoContext)
          (demoRequest.call none) ⟨0, 0, true, true⟩ ()).1 = .ok page ∧
        page.dataValues.map UaDataValue.value = [.scalar .double bits] ∧
        UaTypeKind.double.number bits = some read ∧ |read - 9007199254740993| ≤ |(9007199254740993 : ℚ)| / 2 ^ 53 ∧
        (UaTypeKind.int64 = .float ∨ UaTypeKind.int64 = .double ∨ |(9007199254740993 : ℚ)| ≤ 2 ^ 53 →
          read = 9007199254740993) :=
  number_history_read_back takingClient (demoReader [{ value := "9007199254740992" }])
    (by decide +kernel : UaTypeKind.int64.number 9007199254740993 = some 9007199254740993) rfl rfl rfl rfl rfl (by
    intro point handed
    have printed : uaValueToString .int64 9007199254740993 = ⟨"9007199254740993", false⟩ := by decide +kernel
    rw [@scalar_history_handed _ takingClient _ _ _ _ _ _ _ rfl rfl rfl rfl, printed] at handed
    cases List.mem_singleton.mp handed
    exact ⟨{ value := "9007199254740992" }, by decide +kernel, rfl⟩) rfl

end Demo

end OpcUaAdapter
