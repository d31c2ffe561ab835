import OpcUaAdapter.Generator.PythonText
import OpcUaAdapter.Proofs.DecimalText

/-! Python's `int` on the digits `str` writes. -/

namespace OpcUaAdapter.Generator

private theorem decimal_digit {c : Char} (digit : c.isDigit = true) : decimal c = some (c.toNat - '0'.toNat) := by
  have bounds : 0x30 ≤ c.toNat ∧ c.toNat < 0x30 + 10 := by
    simp only [Char.isDigit, Bool.and_eq_true, decide_eq_true_eq, UInt32.le_iff_toNat_le] at digit
    exact ⟨digit.1, Nat.lt_succ_of_le digit.2⟩
  rw [decimal, decimalZeros, List.find?_cons_of_pos (by simpa using bounds)]
  rfl

private theorem readDigits_digits {digits : Text} (all : ∀ c ∈ digits, c.isDigit = true) (value : Nat) :
    readDigits value digits = some (Nat.ofDigitChars 10 digits value) := by
  induction digits generalizing value with
  | nil => rfl
  | cons c rest ih =>
    have digit := all c List.mem_cons_self
    have plain : c ≠ '_' := by rintro rfl; exact absurd digit (by decide)
    have step : readDigits value (c :: rest) =
        (decimal c).bind fun digit => readDigits (10 * value + digit) rest := by
      cases rest <;> simp [readDigits, plain]
    rw [step, decimal_digit digit, Option.bind_some, ih fun other member => all other (List.mem_cons_of_mem _ member),
      Nat.ofDigitChars_cons]

private theorem readNumber_digits {digits : Text} (some_digit : digits ≠ []) (all : ∀ c ∈ digits, c.isDigit = true) :
    readNumber digits = some (Nat.ofDigitChars 10 digits 0) := by
  obtain ⟨c, rest, rfl⟩ := List.exists_cons_of_ne_nil some_digit
  have digit := all c List.mem_cons_self
  rw [readNumber, decimal_digit digit, Option.bind_some,
    readDigits_digits fun other member => all other (List.mem_cons_of_mem _ member), Nat.ofDigitChars_cons,
    Nat.mul_zero, Nat.zero_add]

private theorem readNumber_toDigits (value : Nat) : readNumber (Nat.toDigits 10 value) = some value := by
  rw [readNumber_digits Nat.toDigits_ne_nil fun c member =>
    Nat.isDigit_of_mem_toDigits (by decide) (by decide) member, Nat.ofDigitChars_ten_toDigits]

private theorem isIntSpace_digit {c : Char} (digit : c.isDigit = true) : isIntSpace c = false := by
  have small : c.toNat < 0x80 := by
    simp only [Char.isDigit, Bool.and_eq_true, decide_eq_true_eq, UInt32.le_iff_toNat_le] at digit
    exact Nat.lt_of_le_of_lt digit.2 (by decide)
  rw [isIntSpace, (isDigit_plain digit).1, Bool.false_or, decide_eq_false_iff_not]
  simp only [List.mem_cons, List.not_mem_nil, or_false, not_or]
  omega

theorem trimmed_self {text : Text} (plain : ∀ c ∈ text, isIntSpace c = false) :
    (text.dropWhile isIntSpace).rdropWhile isIntSpace = text := by
  have front : text.dropWhile isIntSpace = text := by
    cases text with
    | nil => rfl
    | cons c rest => simp [plain c]
  rw [front, List.rdropWhile_eq_self_iff]
  intro filled space
  rw [plain _ (List.getLast_mem filled)] at space
  cases space

/-- `int` reads back what `str` writes. -/
@[simp] theorem int_intText (value : Int) : int (intText value) = some value := by
  have digits (number : Nat) : ∀ c ∈ Nat.toDigits 10 number, c.isDigit = true :=
    fun c member => Nat.isDigit_of_mem_toDigits (by decide) (by decide) member
  cases value with
  | ofNat number =>
    have plain : ∀ c ∈ Nat.toDigits 10 number, isIntSpace c = false :=
      fun c member => isIntSpace_digit (digits number c member)
    have unsigned (c : Char) (rest : Text) (shape : Nat.toDigits 10 number = c :: rest) : c ≠ '-' ∧ c ≠ '+' :=
      (isDigit_plain (digits number c (shape ▸ List.mem_cons_self))).2
    rw [int, intText, trimmed_self plain]
    split
    next rest shape => exact absurd rfl (unsigned _ _ shape).1
    next rest shape => exact absurd rfl (unsigned _ _ shape).2
    next => rw [readNumber_toDigits]; rfl
  | negSucc number =>
    have plain : ∀ c ∈ '-' :: Nat.toDigits 10 (number + 1), isIntSpace c = false := by
      intro c member
      rcases List.mem_cons.mp member with rfl | later
      · decide
      · exact isIntSpace_digit (digits _ c later)
    rw [int, intText, trimmed_self plain]
    change (readNumber (Nat.toDigits 10 (number + 1))).map _ = _
    rw [readNumber_toDigits]
    rfl

end OpcUaAdapter.Generator
