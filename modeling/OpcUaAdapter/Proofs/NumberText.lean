import OpcUaAdapter.Proofs.DecimalText
import OpcUaAdapter.Proofs.NumberRounding
import OpcUaAdapter.HistoryAccess

/-! The three notations of a printed number are read as decimal numbers of the same value. -/

namespace OpcUaAdapter

/-- A text that consists of the characters of a printed number. -/
def Numeric (text : Text) : Prop := ∀ c ∈ text, c.isDigit = true ∨ c = '.' ∨ c = 'e' ∨ c = '+' ∨ c = '-'

def Digits (text : Text) : Prop := ∀ c ∈ text, c.isDigit = true

theorem Digits.numeric {text : Text} (digits : Digits text) : Numeric text := fun c member => .inl (digits c member)

theorem digits_toDigits (number : Nat) : Digits (Nat.toDigits 10 number) :=
  fun _ member => Nat.isDigit_of_mem_toDigits (by decide) (by decide) member

private theorem digits_replicate (count : Nat) : Digits (List.replicate count '0') := by
  intro c member
  rw [List.eq_of_mem_replicate member]
  rfl

theorem Digits.append {first second : Text} (left : Digits first) (right : Digits second) : Digits (first ++ second) :=
  fun c member => (List.mem_append.mp member).elim (left c) (right c)

theorem Numeric.append {first second : Text} (left : Numeric first) (right : Numeric second) :
    Numeric (first ++ second) :=
  fun c member => (List.mem_append.mp member).elim (left c) (right c)

theorem Numeric.cons {c : Char} {text : Text} (first : c.isDigit = true ∨ c = '.' ∨ c = 'e' ∨ c = '+' ∨ c = '-')
    (rest : Numeric text) : Numeric (c :: text) := List.forall_mem_cons.mpr ⟨first, rest⟩

section Words

private theorem toLower_of_isDigit {c : Char} (digit : c.isDigit = true) : c.toLower = c := by
  refine dif_neg fun upper => ?_
  have above := UInt32.le_iff_toNat_le.mp upper.1
  simp only [Char.isDigit, Bool.and_eq_true, decide_eq_true_eq] at digit
  have below := UInt32.le_iff_toNat_le.mp digit.2
  exact absurd (above.trans below) (by decide)

theorem Numeric.toLower_ne {text : Text} (numeric : Numeric text) {w : Char} (letter : w.isDigit = false)
    (other : w ≠ '.' ∧ w ≠ 'e' ∧ w ≠ '+' ∧ w ≠ '-') : ∀ c ∈ text, c.toLower ≠ w := by
  rintro c member rfl
  rcases numeric c member with digit | rfl | rfl | rfl | rfl
  · rw [toLower_of_isDigit digit, digit] at letter
    cases letter
  · exact other.1 rfl
  · exact other.2.1 rfl
  · exact other.2.2.1 rfl
  · exact other.2.2.2 rfl

private theorem dropWord_none {word text : Text} {w : Char} (inside : w ∈ word) (absent : ∀ c ∈ text, c.toLower ≠ w) :
    dropWord word text = none := by
  refine if_neg fun same => ?_
  rw [← same] at inside
  obtain ⟨c, member, lower⟩ := List.mem_map.mp inside
  exact absent c (List.mem_of_mem_take member) lower

private theorem scanMagnitude_numeric {text : Text} (numeric : Numeric text) : scanMagnitude text = scanDecimal text := by
  have infinity : dropWord "infinity" text = none :=
    @dropWord_none _ _ 'i' (by decide) (numeric.toLower_ne rfl (by decide))
  have inf : dropWord "inf" text = none := @dropWord_none _ _ 'i' (by decide) (numeric.toLower_ne rfl (by decide))
  have nan : dropWord "nan" text = none := @dropWord_none _ _ 'n' (by decide) (numeric.toLower_ne rfl (by decide))
  have hexadecimal : scanHexadecimal text = none := by
    unfold scanHexadecimal
    rw [@dropWord_none _ _ 'x' (by decide) (numeric.toLower_ne rfl (by decide))]
    rfl
  unfold scanMagnitude
  rw [infinity, inf, nan, hexadecimal]
  rfl

end Words

section Scanning

theorem Digits.takeWhile {digits rest : Text} (all : Digits digits) (stop : ∀ c ∈ rest.head?, c.isDigit = false) :
    (digits ++ rest).takeWhile Char.isDigit = digits ∧ (digits ++ rest).dropWhile Char.isDigit = rest := by
  rw [List.takeWhile_append_of_pos all, List.dropWhile_append_of_pos all]
  cases rest with
  | nil => simp
  | cons c rest =>
    have := stop c rfl
    simp [this]

/-- The end of a printed number, which goes on with an exponent or not at all. -/
structure ExponentPart (tail : Text) (exponent : Int) : Prop where
  scanned : scanExponent 'e' tail = (exponent, [])
  marked : ∀ c ∈ tail.head?, c = 'e'

private theorem exponentPart_nil : ExponentPart [] 0 := ⟨rfl, by simp⟩

private theorem ofDigitChars_leftpad (count number : Nat) :
    Nat.ofDigitChars 10 ((Nat.toDigits 10 number).leftpad count '0') 0 = number := by
  rw [List.leftpad, Nat.ofDigitChars_append, Nat.ofDigitChars_replicate_zero, Nat.mul_zero,
    Nat.ofDigitChars_ten_toDigits]

private theorem exponentPart_signed (exponent : Int) :
    ExponentPart ('e' :: (if exponent < 0 then '-' else '+') :: (Nat.toDigits 10 exponent.natAbs).leftpad 2 '0')
      exponent := by
  refine ⟨?_, by simp⟩
  set digits := (Nat.toDigits 10 exponent.natAbs).leftpad 2 '0' with padded
  have all : Digits digits := (digits_replicate _).append (digits_toDigits _)
  have filled : digits ≠ [] := by
    intro empty
    exact Nat.toDigits_ne_nil (List.append_eq_nil_iff.mp empty).2
  have value : Nat.ofDigitChars 10 digits 0 = exponent.natAbs := ofDigitChars_leftpad 2 _
  obtain ⟨taken, dropped⟩ := @Digits.takeWhile digits [] all (by simp)
  rw [List.append_nil] at taken dropped
  have marker : ('e'.toLower = 'e') := by decide
  unfold scanExponent
  by_cases negative : exponent < 0
  · simp only [if_pos negative, scanSign, taken, dropped, value, marker, List.isEmpty_eq_false_iff.mpr filled]
    simp only [decide_true, Bool.not_false, Bool.and_self, if_true, Prod.mk.injEq, and_true]
    omega
  · simp only [if_neg negative, scanSign, taken, dropped, value, marker, List.isEmpty_eq_false_iff.mpr filled]
    simp only [decide_true, Bool.not_false, Bool.and_self, if_true, Prod.mk.injEq, and_true, Bool.false_eq_true,
      if_false]
    omega

private theorem scanDigits_whole {whole tail : Text} (digits : Digits whole) (filled : whole ≠ [])
    (stop : ∀ c ∈ tail.head?, c = 'e') : scanDigits Char.isDigit (whole ++ tail) = some (whole, [], tail) := by
  have stop' : ∀ c ∈ tail.head?, c.isDigit = false := fun c first => by rw [stop c first]; rfl
  obtain ⟨taken, dropped⟩ := digits.takeWhile stop'
  unfold scanDigits
  simp only [taken, dropped, List.isEmpty_eq_false_iff.mpr filled]
  cases tail with
  | nil => rfl
  | cons c rest =>
    rw [stop c rfl]
    rfl

private theorem scanDigits_fraction {whole fraction tail : Text} (digits : Digits whole) (others : Digits fraction)
    (filled : whole ≠ []) (stop : ∀ c ∈ tail.head?, c = 'e') :
    scanDigits Char.isDigit (whole ++ '.' :: (fraction ++ tail)) = some (whole, fraction, tail) := by
  have stop' : ∀ c ∈ tail.head?, c.isDigit = false := fun c first => by rw [stop c first]; rfl
  obtain ⟨taken, dropped⟩ := @Digits.takeWhile whole ('.' :: (fraction ++ tail)) digits (by simp)
  obtain ⟨inside, behind⟩ := others.takeWhile stop'
  unfold scanDigits
  simp only [taken, dropped, List.isEmpty_eq_false_iff.mpr filled, inside, behind]
  rfl

theorem rdropWhile_zeros (fraction : Text) :
    ∃ zeros, fraction = fraction.rdropWhile (· = '0') ++ List.replicate zeros '0' := by
  induction fraction using List.reverseRecOn with
  | nil => exact ⟨0, rfl⟩
  | append_singleton rest c ih =>
    by_cases zero : c = '0'
    · obtain ⟨zeros, split⟩ := ih
      rw [List.rdropWhile_concat_pos _ _ _ (by simpa using zero)]
      refine ⟨zeros + 1, ?_⟩
      rw [List.replicate_succ', ← List.append_assoc, ← split, zero]
    · rw [List.rdropWhile_concat_neg _ _ _ (by simpa using zero)]
      exact ⟨0, by simp⟩

theorem scanDecimal_withFraction {whole fraction tail : Text} {exponent : Int} (digits : Digits whole)
    (others : Digits fraction) (filled : whole ≠ []) (part : ExponentPart tail exponent) :
    ∃ number exponent', scanDecimal (withFraction whole fraction ++ tail) = some (.decimal number exponent', []) ∧
      (number : ℚ) * 10 ^ exponent' =
        (Nat.ofDigitChars 10 (whole ++ fraction) 0 : ℚ) * 10 ^ (exponent - fraction.length) := by
  obtain ⟨zeros, split⟩ := rdropWhile_zeros fraction
  set kept := fraction.rdropWhile (· = '0')
  have kept_digits : Digits kept := fun c member => others c (by rw [split]; exact List.mem_append_left _ member)
  refine ⟨Nat.ofDigitChars 10 (whole ++ kept) 0, exponent - kept.length, ?_, ?_⟩
  · have scanned : scanDigits Char.isDigit (withFraction whole fraction ++ tail) = some (whole, kept, tail) := by
      unfold withFraction
      dsimp only
      split
      next empty =>
        have none_kept : kept = [] := List.isEmpty_iff.mp empty
        rw [none_kept]
        exact scanDigits_whole digits filled part.marked
      next =>
        rw [List.append_assoc, List.cons_append]
        exact scanDigits_fraction digits kept_digits filled part.marked
    unfold scanDecimal
    rw [scanned, Option.map_some]
    simp only [part.scanned]
  · have value : Nat.ofDigitChars 10 (whole ++ fraction) 0 = 10 ^ zeros * Nat.ofDigitChars 10 (whole ++ kept) 0 := by
      conv => lhs; rw [split, ← List.append_assoc, Nat.ofDigitChars_append, Nat.ofDigitChars_replicate_zero]
    have length : (fraction.length : Int) = kept.length + zeros := by
      conv => lhs; rw [split]
      simp
    rw [value, length, ← sub_sub, zpow_sub₀ (by norm_num) (exponent - kept.length), zpow_natCast]
    push_cast
    field_simp

end Scanning

/-- The text of a number without a sign. -/
structure Printed (text : Text) (value : ℚ) : Prop where
  numeric : Numeric text
  starts : ∃ c rest, text = c :: rest ∧ c.isDigit = true
  scanned : ∃ number exponent, scanDecimal text = some (.decimal number exponent, []) ∧
    (number : ℚ) * 10 ^ exponent = value

section Printing

private theorem numeric_withFraction {whole fraction : Text} (digits : Digits whole) (others : Digits fraction) :
    Numeric (withFraction whole fraction) := by
  unfold withFraction
  dsimp only
  split
  · exact digits.numeric
  · have kept : Digits (fraction.rdropWhile (· = '0')) :=
      fun c member => others c ((List.rdropWhile_prefix _ _).subset member)
    exact digits.numeric.append (kept.numeric.cons (by simp))

private theorem printed_withFraction {whole fraction tail : Text} {exponent : Int} (digits : Digits whole)
    (others : Digits fraction) (filled : whole ≠ []) (part : ExponentPart tail exponent) (numeric : Numeric tail) :
    Printed (withFraction whole fraction ++ tail)
      ((Nat.ofDigitChars 10 (whole ++ fraction) 0 : ℚ) * 10 ^ (exponent - fraction.length)) where
  numeric := (numeric_withFraction digits others).append numeric
  starts := by
    obtain ⟨c, rest, rfl⟩ := List.exists_cons_of_ne_nil filled
    unfold withFraction
    dsimp only
    split
    · exact ⟨c, _, rfl, digits c List.mem_cons_self⟩
    · exact ⟨c, _, rfl, digits c List.mem_cons_self⟩
  scanned := scanDecimal_withFraction digits others filled part

/-- Each of the three notations stands for the digits. -/
theorem printed_positiveText {numerator denominator number : Nat} {exponent : Int}
    (significant : significantDigits numerator denominator = (number, exponent)) (lower : 10 ^ 16 ≤ number)
    (upper : number < 10 ^ 17) : Printed (positiveText numerator denominator) (number * 10 ^ (exponent - 16)) := by
  have all := digits_toDigits number
  have seventeen : (Nat.toDigits 10 number).length = 17 := by
    rw [length_toDigits (by omega), (Nat.log_eq_iff (.inr ⟨by decide, by omega⟩)).mpr ⟨lower, upper⟩]
  have read : Nat.ofDigitChars 10 (Nat.toDigits 10 number) 0 = number := Nat.ofDigitChars_ten_toDigits
  unfold positiveText
  rw [significant]
  dsimp only
  set digits := Nat.toDigits 10 number
  have front (count : Nat) : Digits (digits.take count) := fun c member => all c (List.mem_of_mem_take member)
  have behind (count : Nat) : Digits (digits.drop count) := fun c member => all c (List.mem_of_mem_drop member)
  have filled {count : Nat} (positive : 0 < count) : digits.take count ≠ [] := by
    intro empty
    have := congrArg List.length empty
    rw [List.length_take, seventeen, List.length_nil] at this
    omega
  split
  next fixed =>
    have printed := printed_withFraction (front (exponent.toNat + 1)) (behind (exponent.toNat + 1))
      (filled (by omega)) exponentPart_nil (fun c member => absurd member (List.not_mem_nil))
    have length : (0 : Int) - (digits.drop (exponent.toNat + 1)).length = exponent - 16 := by
      rw [List.length_drop, seventeen]
      omega
    rw [List.append_nil, List.take_append_drop, read, length] at printed
    exact printed
  next =>
    split
    next small =>
      have printed := printed_withFraction (fun c member => by rw [List.mem_singleton.mp member]; rfl : Digits "0")
        ((digits_replicate (-exponent - 1).toNat).append all) (by decide) exponentPart_nil
        (fun c member => absurd member (List.not_mem_nil))
      have length : (0 : Int) - (List.replicate (-exponent - 1).toNat '0' ++ digits).length = exponent - 16 := by
        rw [List.length_append, List.length_replicate, seventeen]
        omega
      have value : Nat.ofDigitChars 10 ("0" ++ (List.replicate (-exponent - 1).toNat '0' ++ digits)) 0 = number := by
        have zeros : Nat.ofDigitChars 10 "0" 0 = 0 := rfl
        rw [Nat.ofDigitChars_append, Nat.ofDigitChars_append, zeros, Nat.ofDigitChars_replicate_zero, Nat.mul_zero, read]
      rw [List.append_nil, value, length] at printed
      exact printed
    next =>
      have marks : Numeric ('e' :: (if exponent < 0 then '-' else '+') ::
          (Nat.toDigits 10 exponent.natAbs).leftpad 2 '0') := by
        refine Numeric.cons (by simp) (Numeric.cons (by split <;> simp) ?_)
        exact ((digits_replicate _).append (digits_toDigits _)).numeric
      have printed := printed_withFraction (front 1) (behind 1) (filled (by decide)) (exponentPart_signed exponent) marks
      have length : exponent - (digits.drop 1).length = exponent - 16 := by
        rw [List.length_drop, seventeen]
        rfl
      rw [List.take_append_drop, read, length] at printed
      exact printed

end Printing

section Reading

/-- The bits of a decimal number that is close to a `double`. -/
theorem bits_of_close {number mantissa : Nat} {exponent exponent' : Int} (positive : 0 < number)
    (canonical : Canonical mantissa exponent')
    (close : |(number : ℚ) * 10 ^ exponent - mantissa * 2 ^ exponent'| ≤ mantissa * 2 ^ exponent' / (2 * 10 ^ 16)) :
    (Magnitude.decimal number exponent).bits = magnitudeBits mantissa exponent' := by
  unfold Magnitude.bits
  dsimp only
  split
  next whole =>
    have value : ((number * 10 ^ exponent.toNat : Nat) : ℚ) / (1 : Nat) = number * 10 ^ exponent := by
      obtain ⟨n, rfl⟩ := Int.eq_ofNat_of_zero_le whole
      simp
    refine nearestBits_of_close (by positivity) one_pos canonical ?_
    rw [value]
    exact close
  next part =>
    have value : (number : ℚ) / (10 ^ (-exponent).toNat : Nat) = number * 10 ^ exponent := by
      obtain ⟨n, rfl⟩ : ∃ n : Nat, exponent = -n := ⟨(-exponent).toNat, by omega⟩
      rw [neg_neg, Int.toNat_natCast, zpow_neg, zpow_natCast, div_eq_mul_inv]
      push_cast
      rfl
    refine nearestBits_of_close positive (by positivity) canonical ?_
    rw [value]
    exact close

/-- A decimal number, with or without a minus sign, as `strtod` takes it. -/
theorem strtod_decimal {text : Text} {number : Nat} {exponent : Int} (numeric : Numeric text)
    (starts : ∃ c rest, text = c :: rest ∧ c.isDigit = true)
    (scanned : scanDecimal text = some (.decimal number exponent, [])) (negative : Bool) :
    strtod ((if negative then ['-'] else []) ++ text) =
      some (UInt64.ofNat ((Magnitude.decimal number exponent).bits + if negative then 2 ^ 63 else 0), []) := by
  obtain ⟨c, rest, shape, digit⟩ := starts
  obtain ⟨space, minus, plus⟩ := isDigit_plain digit
  have unsigned : scanSign text = (false, text) := by
    rw [shape]
    unfold scanSign
    split
    next again => exact absurd (List.cons.inj again).1 minus
    next again => exact absurd (List.cons.inj again).1 plus
    next => rfl
  have magnitude := scanMagnitude_numeric numeric
  unfold strtod
  cases negative with
  | true =>
    have front : ((if true then ['-'] else []) ++ text).dropWhile isspace = '-' :: text := by
      simp [isspace]
    rw [front]
    simp only [scanSign, magnitude, scanned, Option.map_some]
  | false =>
    have front : ((if false then ['-'] else []) ++ text).dropWhile isspace = text := by
      rw [shape]
      simp [space]
    rw [front]
    simp only [unsigned, magnitude, scanned, Option.map_some]

theorem starts_toDigits (number : Nat) : ∃ c rest, Nat.toDigits 10 number = c :: rest ∧ c.isDigit = true := by
  obtain ⟨c, rest, shape⟩ := List.exists_cons_of_ne_nil (@Nat.toDigits_ne_nil number 10)
  exact ⟨c, rest, shape, digits_toDigits number c (shape ▸ List.mem_cons_self)⟩

/-- The digits of a natural number are read as this number. -/
theorem scanDecimal_toDigits (number : Nat) :
    scanDecimal (Nat.toDigits 10 number) = some (.decimal number 0, []) := by
  have scanned := @scanDigits_whole _ [] (digits_toDigits number) Nat.toDigits_ne_nil (by simp)
  rw [List.append_nil] at scanned
  unfold scanDecimal
  rw [scanned, Option.map_some]
  simp only [scanExponent, List.append_nil, Nat.ofDigitChars_ten_toDigits, List.length_nil]
  rfl

end Reading

end OpcUaAdapter
