import Mathlib.Tactic.SplitIfs
import OpcUaAdapter.Config
import OpcUaAdapter.Proofs.DecimalText

/-! The numbers in the configuration of write batching: which value a text becomes after
`strtol` or `strtoul`, the cast and the minimum. -/

namespace OpcUaAdapter

/-- A decimal integer: digits after an optional sign. -/
inductive Numeral : Text → Int → Prop where
  | unsigned {digits} (filled : digits ≠ []) (all : ∀ c ∈ digits, c.isDigit = true) :
      Numeral digits (Nat.ofDigitChars 10 digits 0)
  | positive {digits} (filled : digits ≠ []) (all : ∀ c ∈ digits, c.isDigit = true) :
      Numeral ('+' :: digits) (Nat.ofDigitChars 10 digits 0)
  | negative {digits} (filled : digits ≠ []) (all : ∀ c ∈ digits, c.isDigit = true) :
      Numeral ('-' :: digits) (-(Nat.ofDigitChars 10 digits 0 : Int))

/-- The signed value of what `scanInteger` finds. -/
def signedValue (negative : Bool) (value : Nat) : Int := if negative then -(value : Int) else value

private theorem takeWhile_digits {digits : Text} (all : ∀ c ∈ digits, c.isDigit = true) :
    digits.takeWhile Char.isDigit = digits ∧ digits.dropWhile Char.isDigit = [] :=
  ⟨List.takeWhile_eq_self_iff.mpr all, List.dropWhile_eq_nil_iff.mpr all⟩

/-- What the scan makes of the text after the white space and the sign. -/
def scanDigitsOnly (negative : Bool) (unsigned : Text) : Option (Bool × Nat × Text) :=
  if (unsigned.takeWhile Char.isDigit).isEmpty then none
  else some (negative, Nat.ofDigitChars 10 (unsigned.takeWhile Char.isDigit) 0, unsigned.dropWhile Char.isDigit)

private theorem scanDigitsOnly_digits {digits : Text} (negative : Bool) (filled : digits ≠ [])
    (all : ∀ c ∈ digits, c.isDigit = true) :
    scanDigitsOnly negative digits = some (negative, Nat.ofDigitChars 10 digits 0, []) := by
  obtain ⟨whole, rest⟩ := takeWhile_digits all
  rw [scanDigitsOnly, whole, rest, if_neg (by simpa using filled)]

private theorem digits_of_scanDigitsOnly {negative sign : Bool} {unsigned : Text} {value : Nat}
    (scanned : scanDigitsOnly negative unsigned = some (sign, value, [])) :
    sign = negative ∧ value = Nat.ofDigitChars 10 unsigned 0 ∧ unsigned ≠ [] ∧ ∀ c ∈ unsigned, c.isDigit = true := by
  unfold scanDigitsOnly at scanned
  split at scanned
  next => cases scanned
  next filled =>
    simp only [Option.some.injEq, Prod.mk.injEq] at scanned
    obtain ⟨same, number, rest⟩ := scanned
    have all := List.dropWhile_eq_nil_iff.mp rest
    rw [(takeWhile_digits all).1] at filled number
    exact ⟨same.symm, number.symm, by simpa using filled, all⟩

private theorem scanInteger_eq (text : Text) : scanInteger text = match text.dropWhile isspace with
    | '-' :: rest => scanDigitsOnly true rest
    | '+' :: rest => scanDigitsOnly false rest
    | signed => scanDigitsOnly false signed := by
  unfold scanInteger scanDigitsOnly
  split <;> simp_all

private theorem scanInteger_numeral {text : Text} {n : Int} (numeral : Numeral (text.dropWhile isspace) n) :
    ∃ negative value, scanInteger text = some (negative, value, []) ∧ signedValue negative value = n := by
  rw [scanInteger_eq]
  generalize text.dropWhile isspace = signed at numeral
  cases numeral with
  | unsigned filled all =>
    refine ⟨false, _, ?_, rfl⟩
    obtain ⟨c, rest, rfl⟩ := List.exists_cons_of_ne_nil filled
    obtain ⟨_, minus, plus⟩ := isDigit_plain (all c List.mem_cons_self)
    split
    next same => cases same; exact absurd rfl minus
    next same => cases same; exact absurd rfl plus
    next => exact scanDigitsOnly_digits false filled all
  | positive filled all => exact ⟨false, _, scanDigitsOnly_digits false filled all, rfl⟩
  | negative filled all => exact ⟨true, _, scanDigitsOnly_digits true filled all, rfl⟩

private theorem numeral_of_scanInteger {text : Text} {negative : Bool} {value : Nat}
    (scanned : scanInteger text = some (negative, value, [])) :
    Numeral (text.dropWhile isspace) (signedValue negative value) := by
  rw [scanInteger_eq] at scanned
  split at scanned
  next rest shape =>
    obtain ⟨rfl, rfl, filled, all⟩ := digits_of_scanDigitsOnly scanned
    rw [shape]
    exact .negative filled all
  next rest shape =>
    obtain ⟨rfl, rfl, filled, all⟩ := digits_of_scanDigitsOnly scanned
    rw [shape]
    exact .positive filled all
  next =>
    obtain ⟨rfl, rfl, filled, all⟩ := digits_of_scanDigitsOnly scanned
    exact .unsigned filled all

namespace ConfigLoader

private theorem cStr_eq_self {value : Text} (plain : '\x00' ∉ value) : cStr value = value := by
  rw [cStr, List.takeWhile_eq_self_iff]
  intro c member
  simpa using fun same : c = '\x00' => plain (same ▸ member)

private theorem nonempty_of_numeral {value : Text} {n : Int} (numeral : Numeral (value.dropWhile isspace) n) :
    value.isEmpty = false := by
  cases value with
  | nil => generalize shape : List.dropWhile isspace [] = signed at numeral; cases numeral <;> simp_all
  | cons c rest => rfl

theorem parseSizeValue_numeral {value : Text} {n : Int} (plain : '\x00' ∉ value)
    (numeral : Numeral (value.dropWhile isspace) n) (defaultValue minValue : Nat) :
    (parseSizeValue value defaultValue minValue : Int) =
      max (if n ≤ -2 ^ 64 ∨ 2 ^ 64 ≤ n then (2 ^ 64 - 1 : Int) else n % 2 ^ 64) minValue := by
  obtain ⟨negative, magnitude, scanned, rfl⟩ := scanInteger_numeral numeral
  simp only [parseSizeValue, nonempty_of_numeral numeral, Bool.false_eq_true, reduceIte, cStr_eq_self plain, strtoul,
    scanned, Option.map_some, ulongMax, signedValue]
  cases negative
  · simp only [Bool.false_eq_true, reduceIte]
    split_ifs <;> omega
  · simp only [reduceIte]
    split_ifs <;> omega

theorem parseIntValue_numeral {value : Text} {n : Int} (plain : '\x00' ∉ value)
    (numeral : Numeral (value.dropWhile isspace) n) (defaultValue minValue : Int) :
    parseIntValue value defaultValue minValue = max (castInt (max longMin (min longMax n))) minValue := by
  obtain ⟨negative, magnitude, scanned, rfl⟩ := scanInteger_numeral numeral
  simp only [parseIntValue, nonempty_of_numeral numeral, Bool.false_eq_true, reduceIte, cStr_eq_self plain, strtol,
    scanned, Option.map_some, signedValue]
  omega

private theorem parseSizeValue_other {value : Text} (plain : '\x00' ∉ value)
    (other : ¬ ∃ n, Numeral (value.dropWhile isspace) n) (defaultValue minValue : Nat) :
    parseSizeValue value defaultValue minValue = defaultValue := by
  unfold parseSizeValue
  rw [cStr_eq_self plain, strtoul]
  split
  · rfl
  · split
    next parsed =>
      obtain ⟨⟨negative, magnitude, rest⟩, scanned, same⟩ := Option.map_eq_some_iff.mp parsed
      cases same
      exact absurd ⟨_, numeral_of_scanInteger scanned⟩ other
    next => rfl

private theorem parseIntValue_other {value : Text} (plain : '\x00' ∉ value)
    (other : ¬ ∃ n, Numeral (value.dropWhile isspace) n) (defaultValue minValue : Int) :
    parseIntValue value defaultValue minValue = defaultValue := by
  unfold parseIntValue
  rw [cStr_eq_self plain, strtol]
  split
  · rfl
  · split
    next parsed =>
      obtain ⟨⟨negative, magnitude, rest⟩, scanned, same⟩ := Option.map_eq_some_iff.mp parsed
      cases same
      exact absurd ⟨_, numeral_of_scanInteger scanned⟩ other
    next => rfl

end ConfigLoader

/-- The numeric settings of a `write_batching` element. -/
inductive NumericSetting where
  | maxBatchPoints
  | maxQueuePoints
  | maxRetries
  | flushIntervalMs
  | retryBackoffMs
deriving DecidableEq

namespace NumericSetting

def element : NumericSetting → Text
  | .maxBatchPoints => "max_batch_points"
  | .maxQueuePoints => "max_queue_points"
  | .maxRetries => "max_retries"
  | .flushIntervalMs => "flush_interval_ms"
  | .retryBackoffMs => "retry_backoff_ms"

def value (setting : NumericSetting) (batching : InfluxWriteBatchingConfig) : Int :=
  match setting with
  | .maxBatchPoints => batching.maxBatchPoints
  | .maxQueuePoints => batching.maxQueuePoints
  | .maxRetries => batching.maxRetries
  | .flushIntervalMs => batching.flushIntervalMs
  | .retryBackoffMs => batching.retryBackoffMs

def default (setting : NumericSetting) : Int := setting.value {}

def minimum : NumericSetting → Int
  | .maxRetries => 0
  | _ => 1

def isSize : NumericSetting → Bool
  | .maxBatchPoints | .maxQueuePoints | .maxRetries => true
  | .flushIntervalMs | .retryBackoffMs => false

def lowest (setting : NumericSetting) : Int := if setting.isSize then 0 else -2 ^ 31

def highest (setting : NumericSetting) : Int := if setting.isSize then 2 ^ 64 - 1 else 2 ^ 31 - 1

/-- What is to become of the number: itself or the minimum where the type holds it, else
the default or the bound on its side. -/
def Faithful (setting : NumericSetting) (n result : Int) : Prop :=
  if setting.lowest ≤ n ∧ n ≤ setting.highest then result = max n setting.minimum
  else result = setting.default ∨ n < setting.lowest ∧ result = setting.minimum ∨
    setting.highest < n ∧ result = setting.highest

/-- The numbers that the type holds, and those whose low bits happen to give the default,
a value up to the minimum or the largest value. -/
def Kept (setting : NumericSetting) (n : Int) : Prop :=
  if setting.isSize then
    0 ≤ n ∨ -2 ^ 64 < n ∧ (n % 2 ^ 64 = setting.default ∨ n % 2 ^ 64 ≤ setting.minimum)
  else
    -2 ^ 31 ≤ n ∧ n < 2 ^ 31 ∨
      2 ^ 31 ≤ n ∧ n < 2 ^ 63 ∧ (n % 2 ^ 32 = setting.default ∨ n % 2 ^ 32 = 2 ^ 31 - 1) ∨
      n < -2 ^ 31 ∧ (n ≤ -2 ^ 63 ∨ n % 2 ^ 32 = setting.default ∨ n % 2 ^ 32 ≤ setting.minimum ∨ 2 ^ 31 ≤ n % 2 ^ 32)

instance (setting : NumericSetting) (n result : Int) : Decidable (setting.Faithful n result) :=
  inferInstanceAs (Decidable (ite (setting.lowest ≤ n ∧ n ≤ setting.highest) (result = max n setting.minimum) _))

instance (setting : NumericSetting) (n : Int) : Decidable (setting.Kept n) :=
  inferInstanceAs (Decidable
    (ite (setting.isSize = true) (0 ≤ n ∨ _ ∧ (_ ∨ _)) (_ ∧ _ ∨ _ ∧ _ ∧ (_ ∨ _) ∨ _ ∧ (_ ∨ _ ∨ _ ∨ _))))

/-- Larger numbers become larger settings, as long as neither becomes the default. -/
theorem Faithful.mono {setting : NumericSetting} {n m first second : Int} (faithfulFirst : setting.Faithful n first)
    (faithfulSecond : setting.Faithful m second) (order : n ≤ m) (changed : first ≠ setting.default)
    (changed' : second ≠ setting.default) : first ≤ second := by
  have range : setting.lowest ≤ setting.minimum ∧ setting.minimum ≤ setting.highest := by cases setting <;> decide
  unfold Faithful at faithfulFirst faithfulSecond
  split_ifs at faithfulFirst faithfulSecond <;> omega

end NumericSetting

theorem value_parseWriteBatching (setting : NumericSetting) {root child : XmlNode}
    (found : root.children.find? (XmlNode.isElement "write_batching") = some child) :
    setting.value (ConfigLoader.parseWriteBatching root) =
      if setting.isSize then
        (ConfigLoader.parseSizeValue (ConfigLoader.optionalChildContent child setting.element) setting.default.toNat
          setting.minimum.toNat : Int)
      else
        ConfigLoader.parseIntValue (ConfigLoader.optionalChildContent child setting.element) setting.default
          setting.minimum := by
  rw [ConfigLoader.parseWriteBatching, found]
  cases setting <;> rfl

/-- A decimal number keeps its meaning exactly when it is one of these; any other text
stands for the default. An XML text has no zero character. -/
theorem numeric_setting_faithful_iff (setting : NumericSetting) {root child : XmlNode}
    (found : root.children.find? (XmlNode.isElement "write_batching") = some child)
    (plain : '\x00' ∉ ConfigLoader.optionalChildContent child setting.element) :
    (∀ n, Numeral ((ConfigLoader.optionalChildContent child setting.element).dropWhile isspace) n →
      (setting.Faithful n (setting.value (ConfigLoader.parseWriteBatching root)) ↔ setting.Kept n)) ∧
    ((¬ ∃ n, Numeral ((ConfigLoader.optionalChildContent child setting.element).dropWhile isspace) n) →
      setting.value (ConfigLoader.parseWriteBatching root) = setting.default) ∧
    ∀ n m first second, setting.Faithful n first → setting.Faithful m second → n ≤ m → first ≠ setting.default →
      second ≠ setting.default → first ≤ second := by
  rw [value_parseWriteBatching setting found]
  refine ⟨?_, ?_, fun n m first second => NumericSetting.Faithful.mono⟩
  · intro n numeral
    have size := ConfigLoader.parseSizeValue_numeral plain numeral setting.default.toNat setting.minimum.toNat
    have int := ConfigLoader.parseIntValue_numeral plain numeral setting.default setting.minimum
    rw [size, int]
    cases setting with
    | maxBatchPoints | maxQueuePoints | maxRetries =>
      simp only [NumericSetting.Faithful, NumericSetting.Kept, NumericSetting.isSize, NumericSetting.lowest,
        NumericSetting.highest, NumericSetting.default, NumericSetting.value, NumericSetting.minimum, reduceIte]
      split_ifs <;> omega
    | flushIntervalMs | retryBackoffMs =>
      simp only [NumericSetting.Faithful, NumericSetting.Kept, NumericSetting.isSize, NumericSetting.lowest,
        NumericSetting.highest, NumericSetting.default, NumericSetting.value, NumericSetting.minimum,
        ConfigLoader.castInt, longMin, longMax, Bool.false_eq_true, reduceIte]
      split_ifs <;> omega
  · intro other
    rw [ConfigLoader.parseSizeValue_other plain other, ConfigLoader.parseIntValue_other plain other]
    cases setting <;> rfl

def retryBackoffText (text : Text) : XmlNode :=
  .element "influxdb" [] [.element "write_batching" [] [.element "retry_backoff_ms" [] [.text text]]]

theorem numeric_setting_faithful_of_word :
    NumericSetting.Faithful .retryBackoffMs 500
      (NumericSetting.value .retryBackoffMs (ConfigLoader.parseWriteBatching (retryBackoffText " 500 "))) := by
  have numeral : Numeral "500" 500 := .unsigned (by decide) (List.all_eq_true.mp (by decide))
  exact ((@numeric_setting_faithful_iff .retryBackoffMs (retryBackoffText " 500 ") _ rfl (by decide +kernel)).1 500
    numeral).mpr (by decide +kernel)

/-- A back-off of 2^32 + 500 milliseconds is taken for one of 500. -/
theorem large_backoff_wraps : ¬ ∀ (setting : NumericSetting) (root child : XmlNode),
    root.children.find? (XmlNode.isElement "write_batching") = some child →
    '\x00' ∉ ConfigLoader.optionalChildContent child setting.element →
    ∀ n, Numeral ((ConfigLoader.optionalChildContent child setting.element).dropWhile isspace) n →
      setting.Faithful n (setting.value (ConfigLoader.parseWriteBatching root)) := by
  intro faithful
  have numeral : Numeral "4294967796" 4294967796 := .unsigned (by decide) (List.all_eq_true.mp (by decide))
  have result := faithful .retryBackoffMs (retryBackoffText "4294967796") _ rfl (by decide +kernel) 4294967796 numeral
  have parsed : NumericSetting.value .retryBackoffMs
      (ConfigLoader.parseWriteBatching (retryBackoffText "4294967796")) = 500 := by decide +kernel
  rw [parsed] at result
  exact absurd result (by decide +kernel)

end OpcUaAdapter
