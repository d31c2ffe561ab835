import OpcUaAdapter.Text

/-! Decimal numbers as texts: what they consist of and how the C library reads them back. -/

namespace OpcUaAdapter

theorem not_mem_intText {c : Char} (other : c.isDigit = false) (unsigned : c ≠ '-') (value : Int) :
    c ∉ intText value := by
  have digits (magnitude : Nat) : c ∉ Nat.toDigits 10 magnitude := by
    intro inside
    have digit := Nat.isDigit_of_mem_toDigits (by decide) (by decide) inside
    simp [other] at digit
  cases value with
  | ofNat magnitude => exact digits magnitude
  | negSucc magnitude =>
    intro inside
    rcases List.mem_cons.mp inside with sign | later
    · exact unsigned sign
    · exact digits _ later

theorem isDigit_plain {c : Char} (digit : c.isDigit = true) : isspace c = false ∧ c ≠ '-' ∧ c ≠ '+' := by
  refine ⟨?_, ?_, ?_⟩
  · by_contra space
    simp only [isspace, Bool.not_eq_false, Bool.or_eq_true, decide_eq_true_eq] at space
    rcases space with ((((rfl | rfl) | rfl) | rfl) | rfl) | rfl <;> cases digit
  all_goals rintro rfl; cases digit

theorem scanInteger_of_digits {c : Char} {rest : Text} (space : isspace c = false) (minus : c ≠ '-') (plus : c ≠ '+')
    (digits : ∀ d ∈ c :: rest, d.isDigit = true) :
    scanInteger (c :: rest) = some (false, Nat.ofDigitChars 10 (c :: rest) 0, []) := by
  have signed : (c :: rest).dropWhile isspace = c :: rest := by simp [space]
  have all : (c :: rest).takeWhile Char.isDigit = c :: rest := List.takeWhile_eq_self_iff.mpr digits
  have none : (c :: rest).dropWhile Char.isDigit = [] := List.dropWhile_eq_nil_iff.mpr digits
  simp only [scanInteger, signed]
  split
  next same => cases same; exact absurd rfl minus
  next same => cases same; exact absurd rfl plus
  next => simp [all, none]

theorem scanInteger_digits (value : Nat) : scanInteger (Nat.toDigits 10 value) = some (false, value, []) := by
  have digits : ∀ c ∈ Nat.toDigits 10 value, c.isDigit = true :=
    fun c member => Nat.isDigit_of_mem_toDigits (by decide) (by decide) member
  have some : Nat.toDigits 10 value ≠ [] := Nat.toDigits_ne_nil
  have read : Nat.ofDigitChars 10 (Nat.toDigits 10 value) 0 = value := Nat.ofDigitChars_ten_toDigits
  obtain ⟨c, rest, shape⟩ := List.exists_cons_of_ne_nil some
  rw [shape] at digits read ⊢
  obtain ⟨space, minus, plus⟩ := isDigit_plain (digits c (by simp))
  rw [scanInteger_of_digits space minus plus digits, read]

end OpcUaAdapter
