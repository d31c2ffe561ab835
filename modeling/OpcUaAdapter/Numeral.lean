import OpcUaAdapter.UaValue

/-! `strtod` of the C library in the "C" locale: the text it takes for a number and
the `double` it returns, as a bit pattern. A magnitude is exact until it is rounded. -/

namespace OpcUaAdapter

inductive Magnitude where
  | infinity
  | nan (payload : Nat)
  /-- `digits * 10 ^ exponent`. -/
  | decimal (digits : Nat) (exponent : Int)
  /-- `digits * 2 ^ exponent`. -/
  | hexadecimal (digits : Nat) (exponent : Int)
deriving DecidableEq

def infinityBits : Nat := 2047 * 2 ^ 52

/-- The exponent of two of a positive fraction. -/
def binaryExponent (numerator denominator : Nat) : Int :=
  if denominator ≤ numerator then Nat.log2 (numerator / denominator)
  else -(Nat.log2 ((denominator + numerator - 1) / numerator - 1) + 1 : Nat)

/-- The `double` nearest to a fraction. A fraction too large for every finite one is infinite. -/
def nearestBits (numerator denominator : Nat) : Nat :=
  if numerator = 0 then 0
  else
    let exponent := max (binaryExponent numerator denominator - 52) (-1074)
    let mantissa :=
      if 0 ≤ exponent then roundHalfEven numerator (denominator * 2 ^ exponent.toNat)
      else roundHalfEven (numerator * 2 ^ (-exponent).toNat) denominator
    min infinityBits (mantissa + (exponent + 1074).toNat * 2 ^ 52)

def Magnitude.bits : Magnitude → Nat
  | .infinity => infinityBits
  -- a quiet one, with what fits of the payload below the bit that says so
  | .nan payload => infinityBits + 2 ^ 51 + payload % 2 ^ 51
  | .decimal digits exponent =>
    if 0 ≤ exponent then nearestBits (digits * 10 ^ exponent.toNat) 1
    else nearestBits digits (10 ^ (-exponent).toNat)
  | .hexadecimal digits exponent =>
    if 0 ≤ exponent then nearestBits (digits * 2 ^ exponent.toNat) 1
    else nearestBits digits (2 ^ (-exponent).toNat)

def isHexDigit (c : Char) : Bool := c.isDigit || ('a' ≤ c.toLower && c.toLower ≤ 'f')

def hexDigitValue (c : Char) : Nat :=
  if c.isDigit then c.toNat - '0'.toNat else c.toLower.toNat - 'a'.toNat + 10

def hexValue (digits : Text) : Nat := digits.foldl (fun value c => 16 * value + hexDigitValue c) 0

/-- Compare the front of a text with a lower case word, and drop it. -/
def dropWord (word text : Text) : Option Text :=
  if (text.take word.length).map Char.toLower = word then some (text.drop word.length) else none

def scanSign : Text → Bool × Text
  | '-' :: rest => (true, rest)
  | '+' :: rest => (false, rest)
  | text => (false, text)

/-- The digits before and after a decimal point. One of them must be there. -/
def scanDigits (isDigit : Char → Bool) (text : Text) : Option (Text × Text × Text) :=
  let whole := text.takeWhile isDigit
  let (fraction, rest) := match text.dropWhile isDigit with
    | '.' :: after => (after.takeWhile isDigit, after.dropWhile isDigit)
    | rest => ([], rest)
  if whole.isEmpty && fraction.isEmpty then none else some (whole, fraction, rest)

/-- An exponent part. Without a digit in it the marker is not part of the number. -/
def scanExponent (marker : Char) (text : Text) : Int × Text :=
  match text with
  | [] => (0, [])
  | c :: rest =>
    let (negative, unsigned) := scanSign rest
    let digits := unsigned.takeWhile Char.isDigit
    if c.toLower = marker && !digits.isEmpty then
      let value : Int := Nat.ofDigitChars 10 digits 0
      (if negative then -value else value, unsigned.dropWhile Char.isDigit)
    else (0, text)

def scanDecimal (text : Text) : Option (Magnitude × Text) :=
  (scanDigits Char.isDigit text).map fun (whole, fraction, rest) =>
    let (exponent, rest) := scanExponent 'e' rest
    (.decimal (Nat.ofDigitChars 10 (whole ++ fraction) 0) (exponent - fraction.length), rest)

def scanHexadecimal (text : Text) : Option (Magnitude × Text) := do
  let digits ← dropWord "0x" text
  let (whole, fraction, rest) ← scanDigits isHexDigit digits
  let (exponent, rest) := scanExponent 'p' rest
  return (.hexadecimal (hexValue (whole ++ fraction)) (exponent - 4 * fraction.length), rest)

/-- `strtoull` with the base 0, for a text that it takes as a whole. -/
def strtoullWhole : Text → Option Nat
  | '0' :: 'x' :: digits | '0' :: 'X' :: digits =>
    if digits ≠ [] ∧ digits.all isHexDigit then some (hexValue digits) else none
  | '0' :: digits => if digits.all fun c => '0' ≤ c && c ≤ '7' then some (Nat.ofDigitChars 8 digits 0) else none
  | digits => if digits.all Char.isDigit then some (Nat.ofDigitChars 10 digits 0) else none

/-- What may follow `nan`: letters, digits and underscores in parentheses. A number there becomes
the payload, as glibc has it. -/
def scanNanPayload (text : Text) : Nat × Text :=
  match text with
  | '(' :: rest =>
    let inside := rest.takeWhile fun c => c.isAlphanum || c = '_'
    match rest.dropWhile fun c => c.isAlphanum || c = '_' with
    | ')' :: after => (min (2 ^ 64 - 1) ((strtoullWhole inside).getD 0), after)
    | _ => (0, text)
  | _ => (0, text)

def scanMagnitude (text : Text) : Option (Magnitude × Text) :=
  ((dropWord "infinity" text).map fun rest => (.infinity, rest)) <|>
    ((dropWord "inf" text).map fun rest => (.infinity, rest)) <|>
    ((dropWord "nan" text).map fun rest => (.nan (scanNanPayload rest).1, (scanNanPayload rest).2)) <|>
    scanHexadecimal text <|> scanDecimal text

/-- The number at the front of a text and the text from `endptr` on, `none` without a conversion. -/
def strtod (text : Text) : Option (UInt64 × Text) :=
  let (negative, unsigned) := scanSign (text.dropWhile isspace)
  (scanMagnitude unsigned).map fun (magnitude, rest) =>
    (UInt64.ofNat (magnitude.bits + if negative then 2 ^ 63 else 0), rest)

end OpcUaAdapter
