import OpcUaAdapter.LineProtocol

/-! OPC UA values as the history backend sees them, and the texts it writes for them.
Floating point numbers are their bit patterns and are printed as the C++ streams do. -/

namespace OpcUaAdapter

/-- The number an IEEE 754 bit pattern stands for; a finite one is `mantissa * 2 ^ exponent`. -/
inductive Floating where
  | nan (negative : Bool)
  | infinite (negative : Bool)
  | finite (negative : Bool) (mantissa : Nat) (exponent : Int)
deriving DecidableEq

def decodeFloating (exponentBits fractionBits bits : Nat) : Floating :=
  let fraction := bits % 2 ^ fractionBits
  let exponent := bits / 2 ^ fractionBits % 2 ^ exponentBits
  let negative := decide (bits / 2 ^ (fractionBits + exponentBits) % 2 = 1)
  let bias : Int := 2 ^ (exponentBits - 1) - 1 + fractionBits
  if exponent = 2 ^ exponentBits - 1 then if fraction = 0 then .infinite negative else .nan negative
  else if exponent = 0 then .finite negative fraction (1 - bias)
  else .finite negative (2 ^ fractionBits + fraction) (exponent - bias)

def decimalExponent (numerator denominator : Nat) : Int :=
  if denominator ≤ numerator then (Nat.toDigits 10 (numerator / denominator)).length - 1
  else -(Nat.toDigits 10 ((denominator + numerator - 1) / numerator - 1)).length

def roundHalfEven (numerator denominator : Nat) : Nat :=
  let quotient := numerator / denominator
  let remainder := numerator % denominator
  if denominator < 2 * remainder ∨ denominator = 2 * remainder ∧ quotient % 2 = 1 then quotient + 1 else quotient

/-- The 17 significant digits of a positive fraction as one number, and its decimal exponent. -/
def significantDigits (numerator denominator : Nat) : Nat × Int :=
  let exponent := decimalExponent numerator denominator
  let digits :=
    if exponent ≤ 16 then roundHalfEven (numerator * 10 ^ (16 - exponent).toNat) denominator
    else roundHalfEven numerator (denominator * 10 ^ (exponent - 16).toNat)
  if digits = 10 ^ 17 then (10 ^ 16, exponent + 1) else (digits, exponent)

def withFraction (whole fraction : Text) : Text :=
  let digits := fraction.rdropWhile (· = '0')
  if digits.isEmpty then whole else whole ++ '.' :: digits

def positiveText (numerator denominator : Nat) : Text :=
  let (number, exponent) := significantDigits numerator denominator
  let digits := Nat.toDigits 10 number
  if 0 ≤ exponent ∧ exponent < 17 then
    withFraction (digits.take (exponent.toNat + 1)) (digits.drop (exponent.toNat + 1))
  else if -4 ≤ exponent ∧ exponent < 0 then
    withFraction "0" (List.replicate (-exponent - 1).toNat '0' ++ digits)
  else
    withFraction (digits.take 1) (digits.drop 1) ++
      'e' :: (if exponent < 0 then '-' else '+') :: (Nat.toDigits 10 exponent.natAbs).leftpad 2 '0'

/-- `<<` of a `double` with a precision of `max_digits10`. -/
def floatingText : Floating → Text
  | .nan negative => if negative then "-nan" else "nan"
  | .infinite negative => if negative then "-inf" else "inf"
  | .finite negative mantissa exponent =>
    (if negative then ['-'] else []) ++
      if mantissa = 0 then ['0']
      else if 0 ≤ exponent then positiveText (mantissa * 2 ^ exponent.toNat) 1
      else positiveText mantissa (2 ^ (-exponent).toNat)

inductive UaTypeKind where
  | string
  | boolean
  | sByte
  | byte
  | int16
  | uInt16
  | int32
  | uInt32
  | int64
  | uInt64
  | float
  | double
  | dateTime
  | other
deriving DecidableEq

/-- The C values of a type kind. A floating point number is its bit pattern, a value of
any other type what `UA_print` makes of it. -/
abbrev UaTypeKind.Value : UaTypeKind → Type
  | .string => Text
  | .boolean => Bool
  | .sByte => Int8
  | .byte => UInt8
  | .int16 => Int16
  | .uInt16 => UInt16
  | .int32 => Int32
  | .uInt32 => UInt32
  | .int64 => Int64
  | .uInt64 => UInt64
  | .float => UInt32
  | .double => UInt64
  | .dateTime => Int64
  | .other => Option Text

/-- A `UA_Variant`. It is empty when it has no type or no data. -/
inductive UaVariant where
  | empty
  | scalar (kind : UaTypeKind) (value : kind.Value)
  | array (kind : UaTypeKind) (elements : List kind.Value)

def uaValueToString : (kind : UaTypeKind) → kind.Value → FieldValue
  | .string, value => ⟨value, true⟩
  | .boolean, value => ⟨if value then "true" else "false", false⟩
  | .sByte, value => ⟨intText value.toInt, false⟩
  | .byte, value => ⟨intText value.toNat, false⟩
  | .int16, value => ⟨intText value.toInt, false⟩
  | .uInt16, value => ⟨intText value.toNat, false⟩
  | .int32, value => ⟨intText value.toInt, false⟩
  | .uInt32, value => ⟨intText value.toNat, false⟩
  | .int64, value => ⟨intText value.toInt, false⟩
  | .uInt64, value => ⟨intText value.toNat, false⟩
  | .float, value => ⟨floatingText (decodeFloating 8 23 value.toNat), false⟩
  | .double, value => ⟨floatingText (decodeFloating 11 52 value.toNat), false⟩
  | .dateTime, value => ⟨intText value.toInt, false⟩
  | .other, none => ⟨[], true⟩
  | .other, some text => ⟨text, true⟩

def checkValue (value : Text) (isString : Bool) : Bool :=
  if !isString && value.isEmpty then false
  else if value = "NaN" || value = "nan" || value = "inf" || value = "-inf" then false
  else true

/-- The loop over the elements of an array. Both branches of its body return. -/
def elementsToStrings (kind : UaTypeKind) : List kind.Value → Option (List FieldValue)
  | [] => none
  | element :: _ =>
    let value := uaValueToString kind element
    if checkValue value.value value.isString then some [value] else none

/-- `none` when `variantToStrings` returns false. -/
def variantToStrings : UaVariant → Option (List FieldValue)
  | .empty => none
  | .scalar kind value =>
    let value := uaValueToString kind value
    if checkValue value.value value.isString then some [value] else none
  | .array kind elements => if elements.length = 0 then none else elementsToStrings kind elements

def unixEpoch : Int := 116444736000000000

def uaDateTimeToUnixNanoseconds (value : Int) : Int :=
  if value ≤ unixEpoch then 0
  else if (2 ^ 63 - 1) / 100 ≤ value - unixEpoch then 2 ^ 63 - 1
  else (value - unixEpoch) * 100

end OpcUaAdapter
