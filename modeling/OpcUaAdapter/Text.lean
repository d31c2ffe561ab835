import Mathlib.Algebra.Ring.Int.Defs
import Mathlib.Algebra.Ring.Nat
import Mathlib.Data.List.DropRight

/-! Strings of the C++ sources and the standard library functions used on them.
A `char` is modelled by the character with the same code, so a byte string is a
list of characters and its length is the number of bytes. -/

namespace OpcUaAdapter

abbrev Text := List Char

instance : Coe String Text := ⟨String.toList⟩

/-- Checking the characters of a text one by one. -/
theorem forall_of_all {p : Char → Prop} [DecidablePred p] {text : Text} (all : (text.all fun c => p c) = true) :
    ∀ c ∈ text, p c :=
  fun c member => of_decide_eq_true (List.all_eq_true.mp all c member)

def isspace (ch : Char) : Bool :=
  ch = ' ' || ch = '\t' || ch = '\n' || ch = '\x0b' || ch = '\x0c' || ch = '\r'

def trim (value : Text) : Text := (value.dropWhile isspace).rdropWhile isspace

theorem trim_eq_self_iff {value : Text} :
    trim value = value ↔
      (∀ c ∈ value.head?, isspace c = false) ∧ ∀ c ∈ value.getLast?, isspace c = false := by
  have front : value.dropWhile isspace = value ↔ ∀ c ∈ value.head?, isspace c = false := by
    cases value with
    | nil => simp
    | cons c rest => simp [List.dropWhile_eq_self_iff]
  have back : value.rdropWhile isspace = value ↔ ∀ c ∈ value.getLast?, isspace c = false := by
    rw [List.rdropWhile_eq_self_iff]
    constructor
    · intro plain c last
      obtain ⟨before, rfl⟩ := List.getLast?_eq_some_iff.mp last
      simpa using plain (by simp)
    · intro plain nonempty
      simpa using plain _ (List.getLast?_eq_some_getLast nonempty)
  rw [← front, ← back]
  constructor
  · intro same
    have shorter := (List.rdropWhile_prefix isspace (l := value.dropWhile isspace)).length_le
    have start : value.dropWhile isspace = value :=
      (List.dropWhile_suffix isspace).eq_of_length (Nat.le_antisymm (List.dropWhile_suffix _).length_le (by
        change (trim value).length ≤ _ at shorter
        rwa [same] at shorter))
    refine ⟨start, ?_⟩
    rw [trim, start] at same
    exact same
  · rintro ⟨start, finish⟩
    rw [trim, start, finish]

/-- `std::string::find`: the first position of `part`, `none` for `npos`. -/
def find (part : Text) : Text → Option Nat
  | [] => if part.isEmpty then some 0 else none
  | c :: rest => if part.isPrefixOf (c :: rest) then some 0 else (find part rest).map (· + 1)

/-- `std::string::rfind`: the last position of `part`, `none` for `npos`. -/
def rfind (part : Text) : Text → Option Nat
  | [] => if part.isEmpty then some 0 else none
  | c :: rest =>
    match rfind part rest with
    | some position => some (position + 1)
    | none => if part.isPrefixOf (c :: rest) then some 0 else none

theorem rfind_eq_none_iff {part text : Text} :
    rfind part text = none ↔ ∀ later, later <:+ text → ¬ part <+: later := by
  induction text with
  | nil => simp [rfind, List.suffix_nil, List.prefix_nil]
  | cons c rest ih =>
    unfold rfind
    constructor
    · intro absent later suffix
      cases found : rfind part rest with
      | some position => rw [found] at absent; cases absent
      | none =>
        rw [found] at absent
        rcases List.suffix_cons_iff.mp suffix with rfl | inside
        · intro start
          simp [List.isPrefixOf_iff_prefix.mpr start] at absent
        · exact ih.mp found later inside
    · intro absent
      have rest_absent := ih.mpr fun later suffix => absent later (suffix.trans (List.suffix_cons c rest))
      have start := absent _ List.suffix_rfl
      rw [rest_absent]
      exact if_neg (mt List.isPrefixOf_iff_prefix.mp start)

/-- `part` stands at the start of the text and nowhere else. -/
theorem rfind_eq_zero_iff {part text : Text} (filled : part ≠ []) :
    rfind part text = some 0 ↔ part <+: text ∧ ∀ later, later <:+ text → later ≠ text → ¬ part <+: later := by
  cases text with
  | nil => simp [rfind, filled]
  | cons c rest =>
    have inner : (∀ later, later <:+ c :: rest → later ≠ c :: rest → ¬ part <+: later) ↔ rfind part rest = none := by
      rw [rfind_eq_none_iff]
      constructor
      · intro absent later suffix
        refine absent later (suffix.trans (List.suffix_cons c rest)) fun same => ?_
        have := (same ▸ suffix).length_le
        rw [List.length_cons] at this
        omega
      · intro absent later suffix proper
        exact absent later ((List.suffix_cons_iff.mp suffix).resolve_left proper)
    rw [inner, rfind]
    cases found : rfind part rest with
    | some position => simp
    | none => simp [List.isPrefixOf_iff_prefix]

theorem prefix_of_rfind {part text : Text} {position : Nat} (found : rfind part text = some position) :
    part <+: text.drop position := by
  induction text generalizing position with
  | nil =>
    unfold rfind at found
    split at found
    next empty => rw [List.isEmpty_iff.mp empty]; exact List.nil_prefix
    next => cases found
  | cons c rest ih =>
    unfold rfind at found
    cases later : rfind part rest with
    | some before =>
      rw [later] at found
      cases found
      exact ih later
    | none =>
      simp only [later] at found
      split at found
      next start => cases found; exact List.isPrefixOf_iff_prefix.mp start
      next => cases found

theorem rfind_suffix_iff {part text : Text} (shorter : part.length ≤ text.length) :
    rfind part text = some (text.length - part.length) ↔ part <:+ text := by
  constructor
  · intro found
    have start := prefix_of_rfind found
    have same := start.eq_of_length (by rw [List.length_drop]; omega)
    exact same ▸ List.drop_suffix _ _
  · intro suffix
    clear shorter
    induction text with
    | nil => rw [List.suffix_nil.mp suffix]; rfl
    | cons c rest ih =>
      unfold rfind
      rcases List.suffix_cons_iff.mp suffix with whole | inside
      · have absent : rfind part rest = none := by
          refine rfind_eq_none_iff.mpr fun later before start => ?_
          have := start.length_le.trans before.length_le
          rw [whole, List.length_cons] at this
          omega
        rw [absent, whole]
        simp
      · have := inside.length_le
        rw [ih inside]
        simp only [List.length_cons]
        congr 1
        omega

/-- The difference of two sizes as a position, modulo 2^64: `none` for `npos`. -/
def sizeMinus (size count : Nat) : Option Nat :=
  if count ≤ size then some (size - count)
  else if count = size + 1 then none
  else some (2 ^ 64 - (count - size))

def cStr (value : Text) : Text := value.takeWhile (· ≠ '\x00')

theorem cStr_eq_self_iff {value : Text} : cStr value = value ↔ '\x00' ∉ value := by
  rw [cStr, List.takeWhile_eq_self_iff]
  constructor
  · intro plain member
    simpa using plain _ member
  · intro plain c member
    have other : c ≠ '\x00' := by
      rintro rfl
      exact plain member
    simpa using other

/-- `std::to_string` and `<<` of an integer. -/
def intText : Int → Text
  | .ofNat value => Nat.toDigits 10 value
  | .negSucc value => '-' :: Nat.toDigits 10 (value + 1)

/-- The common grammar of `strtol` and `strtoul`, base 10: whether there was a minus
sign, the digits' value, and the text from which `endptr` goes on. `none` when no
conversion is performed. -/
def scanInteger (text : Text) : Option (Bool × Nat × Text) :=
  let signed := text.dropWhile isspace
  let (negative, unsigned) := match signed with
    | '-' :: rest => (true, rest)
    | '+' :: rest => (false, rest)
    | _ => (false, signed)
  let digits := unsigned.takeWhile Char.isDigit
  if digits.isEmpty then none
  else some (negative, Nat.ofDigitChars 10 digits 0, unsigned.dropWhile Char.isDigit)

def longMin : Int := -2 ^ 63
def longMax : Int := 2 ^ 63 - 1
def ulongMax : Nat := 2 ^ 64 - 1

/-- `strtoul`: a value out of range saturates, a minus sign negates in the unsigned type. -/
def strtoul (text : Text) : Option (Nat × Text) :=
  (scanInteger text).map fun (negative, value, rest) =>
    (if ulongMax < value then ulongMax else if negative then (2 ^ 64 - value) % 2 ^ 64 else value, rest)

def strtol (text : Text) : Option (Int × Text) :=
  (scanInteger text).map fun (negative, value, rest) =>
    (max longMin (min longMax (if negative then -(value : Int) else value)), rest)

inductive StdException where
  | invalidArgument
  | outOfRange
deriving DecidableEq

def stoll (text : Text) : Except StdException Int :=
  match scanInteger (cStr text) with
  | none => .error .invalidArgument
  | some (negative, value, _) =>
    let signed : Int := if negative then -(value : Int) else value
    if longMin ≤ signed ∧ signed ≤ longMax then .ok signed else .error .outOfRange

/-- The lines `std::getline` reads until the stream ends. A final line break starts no line. -/
def getlines (text : Text) : List Text :=
  let lines := text.splitOn '\n'
  if lines.getLast? = some [] then lines.dropLast else lines

end OpcUaAdapter
