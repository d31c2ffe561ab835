import Mathlib.Algebra.Ring.Nat
import Mathlib.Data.List.Basic

/-! Delimited text. An escape mark protects delimiters inside a token; pieces
joined with a separator can be split again exactly when none contains it. -/

universe u

namespace Delimited
variable {α : Type u} [DecidableEq α]

section Escape
variable (mark : α) (special : α → Bool)

/-- Put the mark before every delimiter and leave the mark itself alone. -/
def escape : List α → List α
  | [] => []
  | c :: rest => if special c then mark :: c :: escape rest else c :: escape rest

/-- The text up to the first bare delimiter, then each bare delimiter with the text
after it. A mark followed by a delimiter stands for that delimiter. -/
def pieces : List α → List α × List (α × List α)
  | [] => ([], [])
  | [c] => if special c then ([], [(c, [])]) else ([c], [])
  | c :: d :: rest =>
    if special c then ([], (c, (pieces (d :: rest)).1) :: (pieces (d :: rest)).2)
    else if c = mark && special d then (d :: (pieces rest).1, (pieces rest).2)
    else (c :: (pieces (d :: rest)).1, (pieces (d :: rest)).2)

variable {mark special}

theorem pieces_special {c : α} (delimiter : special c = true) (rest : List α) :
    pieces mark special (c :: rest) =
      ([], (c, (pieces mark special rest).1) :: (pieces mark special rest).2) := by
  cases rest with
  | nil => simp [pieces, delimiter]
  | cons d rest => rw [pieces, if_pos delimiter]

theorem pieces_marked {d : α} (plain : special mark = false) (delimiter : special d = true) (rest : List α) :
    pieces mark special (mark :: d :: rest) =
      (d :: (pieces mark special rest).1, (pieces mark special rest).2) := by
  simp [pieces, plain, delimiter]

theorem pieces_plain {c : α} (plain : special c = false) {rest : List α}
    (unprotected : c = mark → ∀ d ∈ rest.head?, special d = false) :
    pieces mark special (c :: rest) = (c :: (pieces mark special rest).1, (pieces mark special rest).2) := by
  cases rest with
  | nil => simp [pieces, plain]
  | cons d rest =>
    rw [pieces, if_neg (by simp [plain])]
    by_cases marked : c = mark
    · simp [unprotected marked d rfl]
    · simp [marked]

omit [DecidableEq α] in
theorem escape_append (first second : List α) :
    escape mark special (first ++ second) = escape mark special first ++ escape mark special second := by
  induction first with
  | nil => rfl
  | cons c rest ih =>
    simp only [List.cons_append, escape, ih]
    split <;> rfl

omit [DecidableEq α] in
theorem escape_head (plain : special mark = false) {c d : α} {text rest : List α}
    (first : d ∈ (escape mark special (c :: text) ++ rest).head?) : special d = false := by
  simp only [escape] at first
  split at first
  next => cases first; exact plain
  next bare => cases first; simpa using bare

/-- Reading back escaped text recovers it, unless its last character is a mark that
the text after it turns into the protection of a delimiter. -/
theorem pieces_escape (plain : special mark = false) {text rest : List α}
    (clear : text.getLast? = some mark → ∀ d ∈ rest.head?, special d = false) :
    pieces mark special (escape mark special text ++ rest) =
      (text ++ (pieces mark special rest).1, (pieces mark special rest).2) := by
  induction text with
  | nil => rfl
  | cons c text ih =>
    have later : text.getLast? = some mark → ∀ d ∈ rest.head?, special d = false := by
      intro last
      apply clear
      cases text with
      | nil => cases last
      | cons => simpa using last
    by_cases delimiter : special c = true
    · rw [escape, if_pos delimiter, List.cons_append, List.cons_append, pieces_marked plain delimiter, ih later]
      rfl
    · have bare : special c = false := by simpa using delimiter
      rw [escape, if_neg delimiter, List.cons_append, pieces_plain bare, ih later]
      · rfl
      · intro marked d first
        cases text with
        | nil => exact clear (by simp [marked]) d first
        | cons e text => exact escape_head plain first

/-- A trailing mark swallows the delimiter that was meant to end the token. -/
theorem pieces_trailing_mark (plain : special mark = false) (front rest : List α) {d : α}
    (delimiter : special d = true) :
    pieces mark special (escape mark special (front ++ [mark]) ++ d :: rest) =
      (front ++ d :: (pieces mark special rest).1, (pieces mark special rest).2) := by
  have tail : escape mark special [mark] = [mark] := by simp [escape, plain]
  rw [escape_append, tail, List.append_assoc, List.cons_append, List.nil_append,
    pieces_escape plain (by simp [plain]), pieces_marked plain delimiter]

/-- A token followed by a delimiter is read back exactly when it does not end with the mark. -/
theorem pieces_escape_iff (plain : special mark = false) (text rest : List α) {d : α}
    (delimiter : special d = true) :
    (pieces mark special (escape mark special text ++ d :: rest)).1 = text ↔ text.getLast? ≠ some mark := by
  constructor
  · intro read last
    obtain ⟨front, rfl⟩ := List.getLast?_eq_some_iff.mp last
    rw [pieces_trailing_mark plain front rest delimiter] at read
    have same := (List.cons.inj (List.append_cancel_left read)).1
    rw [same, plain] at delimiter
    cases delimiter
  · intro last
    rw [pieces_escape plain (fun ends => absurd ends last), pieces_special delimiter]
    simp

theorem pieces_token_and_iff (plain : special mark = false) (text rest : List α) {d : α}
    (delimiter : special d = true) (property : List (α × List α) → Prop) :
    ((pieces mark special (escape mark special text ++ d :: rest)).1 = text ∧
        property (pieces mark special (escape mark special text ++ d :: rest)).2) ↔
      text.getLast? ≠ some mark ∧ property (pieces mark special (d :: rest)).2 := by
  rw [pieces_escape_iff plain text rest delimiter]
  refine and_congr_right fun last => ?_
  rw [pieces_escape plain (fun ends => absurd ends last)]

end Escape

section Join

theorem count_intercalate (separator : α) {parts : List (List α)} (nonempty : parts ≠ []) :
    ([separator].intercalate parts).count separator =
      (parts.map (List.count separator)).sum + (parts.length - 1) := by
  induction parts with
  | nil => exact absurd rfl nonempty
  | cons part rest ih =>
    cases rest with
    | nil => simp
    | cons next rest =>
      rw [List.intercalate_cons_cons, List.append_assoc, List.count_append, List.count_append,
        ih (by simp)]
      simp only [List.count_singleton_self, List.map_cons, List.sum_cons, List.length_cons]
      omega

/-- Joined parts contain only the separators between them exactly when no part contains one. -/
theorem count_intercalate_iff (separator : α) {parts : List (List α)} (nonempty : parts ≠ []) :
    ([separator].intercalate parts).count separator = parts.length - 1 ↔
      ∀ part ∈ parts, separator ∉ part := by
  rw [count_intercalate separator nonempty]
  simp [List.sum_eq_zero_iff_forall_eq_nat, List.count_eq_zero]

omit [DecidableEq α] in
theorem intercalate_append (separator : List α) {first second : List (List α)} (some : first ≠ [])
    (more : second ≠ []) :
    separator.intercalate (first ++ second) =
      separator.intercalate first ++ separator ++ separator.intercalate second := by
  induction first with
  | nil => exact absurd rfl some
  | cons part rest ih =>
    cases rest with
    | nil => rw [List.singleton_append, List.intercalate_cons_of_ne_nil more, List.intercalate_singleton]
    | cons next rest =>
      rw [List.cons_append, List.intercalate_cons_of_ne_nil (by simp), ih (by simp), List.intercalate_cons_cons]
      simp only [List.append_assoc]

omit [DecidableEq α] in
/-- Joining joined groups joins all the parts, when no group is empty. -/
theorem intercalate_flatten (separator : List α) {groups : List (List (List α))}
    (nonempty : ∀ group ∈ groups, group ≠ []) :
    separator.intercalate (groups.map separator.intercalate) = separator.intercalate groups.flatten := by
  induction groups with
  | nil => rfl
  | cons group rest ih =>
    have first := nonempty group List.mem_cons_self
    have later := ih fun other member => nonempty other (List.mem_cons_of_mem _ member)
    cases rest with
    | nil => simp
    | cons next rest =>
      have more : (next :: rest).flatten ≠ [] := by simp [nonempty next (by simp)]
      have whole : (group :: next :: rest).flatten = group ++ (next :: rest).flatten := rfl
      rw [List.map_cons, List.intercalate_cons_of_ne_nil (by simp), later, whole,
        intercalate_append separator first more]

end Join
end Delimited
