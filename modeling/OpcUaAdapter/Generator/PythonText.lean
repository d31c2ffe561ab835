import OpcUaAdapter.Text

/-! Strings of the Python sources: the methods of `str` the map file generator calls. -/

namespace OpcUaAdapter.Generator

def removePrefix (text start : Text) : Text := if start.isPrefixOf text then text.drop start.length else text

def removeSuffix (text finish : Text) : Text :=
  if finish.isSuffixOf text then text.take (text.length - finish.length) else text

/-- `str.strip` of a single character. -/
def strip (text : Text) (c : Char) : Text := (text.dropWhile (· = c)).rdropWhile (· = c)

/-- A `str|None` as `if` takes it: the empty string counts as absent. -/
def given : Option Text → Option Text
  | some [] => none
  | value => value

/-- The upper case of a character where that is ASCII, as it is for a few characters
outside of ASCII. Any other character stands for itself: its upper case is not ASCII either. -/
def upperChar (c : Char) : Text :=
  match c with
  | 'ß' => "SS"
  | 'ı' => "I"
  | 'ſ' => "S"
  | 'ﬀ' => "FF"
  | 'ﬁ' => "FI"
  | 'ﬂ' => "FL"
  | 'ﬃ' => "FFI"
  | 'ﬄ' => "FFL"
  | 'ﬅ' => "ST"
  | 'ﬆ' => "ST"
  | c => [c.toUpper]

/-- `str.upper`, for the comparison with an ASCII word. -/
def upper (text : Text) : Text := text.flatMap upperChar

/-- What `int` skips at both ends. -/
def isIntSpace (c : Char) : Bool :=
  isspace c || c.toNat ∈ [0x85, 0xA0, 0x1680, 0x2000, 0x2001, 0x2002, 0x2003, 0x2004, 0x2005, 0x2006, 0x2007,
    0x2008, 0x2009, 0x200A, 0x2028, 0x2029, 0x202F, 0x205F, 0x3000]

/-- The code of the zero of each script that has decimal digits. -/
def decimalZeros : List Nat :=
  [0x30, 0x660, 0x6F0, 0x7C0, 0x966, 0x9E6, 0xA66, 0xAE6, 0xB66, 0xBE6, 0xC66, 0xCE6, 0xD66, 0xDE6, 0xE50, 0xED0,
    0xF20, 0x1040, 0x1090, 0x17E0, 0x1810, 0x1946, 0x19D0, 0x1A80, 0x1A90, 0x1B50, 0x1BB0, 0x1C40, 0x1C50, 0xA620,
    0xA8D0, 0xA900, 0xA9D0, 0xA9F0, 0xAA50, 0xABF0, 0xFF10, 0x104A0, 0x10D30, 0x11066, 0x110F0, 0x11136, 0x111D0,
    0x112F0, 0x11450, 0x114D0, 0x11650, 0x116C0, 0x11730, 0x118E0, 0x11950, 0x11C50, 0x11D50, 0x11DA0, 0x16A60,
    0x16AC0, 0x16B50, 0x1D7CE, 0x1D7D8, 0x1D7E2, 0x1D7EC, 0x1D7F6, 0x1E140, 0x1E2F0, 0x1E950, 0x1FBF0]

def decimal (c : Char) : Option Nat :=
  (decimalZeros.find? fun first => first ≤ c.toNat ∧ c.toNat < first + 10).map (c.toNat - ·)

/-- The digits after the first one. A single underscore may stand before each of them. -/
def readDigits (value : Nat) : Text → Option Nat
  | [] => some value
  | '_' :: c :: rest => (decimal c).bind fun digit => readDigits (10 * value + digit) rest
  | c :: rest => (decimal c).bind fun digit => readDigits (10 * value + digit) rest

def readNumber : Text → Option Nat
  | [] => none
  | c :: rest => (decimal c).bind fun digit => readDigits digit rest

/-- `int` of a string, `none` where it raises `ValueError`. -/
def int (text : Text) : Option Int :=
  match (text.dropWhile isIntSpace).rdropWhile isIntSpace with
  | '-' :: digits => (readNumber digits).map fun (value : Nat) => -(value : Int)
  | '+' :: digits => (readNumber digits).map fun (value : Nat) => (value : Int)
  | digits => (readNumber digits).map fun (value : Nat) => (value : Int)

@[simp] theorem given_nil : given (some []) = none := rfl
@[simp] theorem given_none : given none = none := rfl
@[simp] theorem given_cons (c : Char) (rest : Text) : given (some (c :: rest)) = some (c :: rest) := rfl

@[simp] theorem given_given (value : Option Text) : given (given value) = given value := by
  rcases value with _ | _ | _ <;> rfl

end OpcUaAdapter.Generator
