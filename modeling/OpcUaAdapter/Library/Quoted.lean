import Mathlib.Data.List.Basic

/-! Texts with string literals. A mark inside a literal takes the next character along,
and a bare quote ends it. Literals that are written with an escape for the quote and for
the mark are read back, and so is the text around them. -/

universe u

/-- How literals are read: what a character after the mark stands for, and which bare
characters are no part of a literal, given the one that follows. -/
structure Quoting (α : Type u) where
  quote : α
  mark : α
  decode : α → Option α
  refuses : α → Option α → Bool

namespace Quoting

variable {α : Type u}

/-- The first text is continued to the left. -/
def extend (text : List α) : List (List α) → List (List α)
  | [] => [text]
  | first :: rest => (text ++ first) :: rest

theorem extend_nil (texts : List (List α)) (filled : texts ≠ []) : extend [] texts = texts := by
  cases texts with
  | nil => exact absurd rfl filled
  | cons first rest => rfl

theorem extend_cons (c : α) (text : List α) (texts : List (List α)) :
    extend [c] (extend text texts) = extend (c :: text) texts := by
  cases texts <;> rfl

variable [DecidableEq α] (quoting : Quoting α)

/-- The texts outside of the literals and the values of the literals, from inside a
literal or from outside on. `none` where a literal does not end or is none. -/
def scan : Bool → List α → Option (List (List α) × List (List α))
  | false, [] => some ([[]], [])
  | false, c :: rest =>
    if c = quoting.quote then (scan true rest).map fun (texts, values) => ([] :: texts, values)
    else (scan false rest).map fun (texts, values) => (extend [c] texts, values)
  | true, [] => none
  | true, [c] => if c = quoting.quote then some ([[]], [[]]) else none
  | true, c :: d :: rest =>
    if c = quoting.quote then (scan false (d :: rest)).map fun (texts, values) => (texts, [] :: values)
    else if c = quoting.mark then
      (quoting.decode d).bind fun e => (scan true rest).map fun (texts, values) => (texts, extend [e] values)
    else if quoting.refuses c (some d) then none
    else (scan true (d :: rest)).map fun (texts, values) => (texts, extend [c] values)

section Writing

variable (code : α → Option α)

/-- A character with a code is written as the mark and the code. -/
def escape (text : List α) : List α :=
  text.flatMap fun c => match code c with
    | some d => [quoting.mark, d]
    | none => [c]

/-- No character is refused where it is written as it is. -/
def fine : List α → Bool
  | [] => true
  | c :: rest =>
    ((code c).isSome || !quoting.refuses c (quoting.escape code rest ++ [quoting.quote]).head?) && fine rest

/-- A text with literals, each with the text behind it. -/
def write (first : List α) (parts : List (List α × List α)) : List α :=
  first ++ parts.flatMap fun (value, behind) =>
    quoting.quote :: (quoting.escape code value ++ quoting.quote :: behind)

/-- The quote and the mark have a code, and codes are read back. -/
structure Codes : Prop where
  different : quoting.mark ≠ quoting.quote
  quote : (code quoting.quote).isSome
  mark : (code quoting.mark).isSome
  decode : ∀ c d, code c = some d → quoting.decode d = some c

end Writing

variable {quoting} {code : α → Option α}

omit [DecidableEq α] in
theorem escape_append (front back : List α) :
    quoting.escape code (front ++ back) = quoting.escape code front ++ quoting.escape code back :=
  List.flatMap_append

omit [DecidableEq α] in
theorem escape_coded {c d : α} (coded : code c = some d) (rest : List α) :
    quoting.escape code (c :: rest) = quoting.mark :: d :: quoting.escape code rest := by
  simp [escape, coded]

omit [DecidableEq α] in
theorem escape_bare {c : α} (coded : code c = none) (rest : List α) :
    quoting.escape code (c :: rest) = c :: quoting.escape code rest := by
  simp [escape, coded]

omit [DecidableEq α] in
/-- What holds of the characters around the literals, of the codes and of all that is
written as it is holds of the whole text. -/
theorem write_forall {p : α → Prop} (quote : p quoting.quote) (mark : p quoting.mark) (coded : ∀ c d, code c = some d → p d)
    {first : List α} {parts : List (List α × List α)} (before : ∀ c ∈ first, p c)
    (values : ∀ part ∈ parts, ∀ c ∈ part.1, code c = none → p c) (behind : ∀ part ∈ parts, ∀ c ∈ part.2, p c) :
    ∀ c ∈ quoting.write code first parts, p c := by
  have literal {value : List α} (plain : ∀ c ∈ value, code c = none → p c) : ∀ c ∈ quoting.escape code value, p c := by
    intro c member
    obtain ⟨d, inside, written⟩ := List.mem_flatMap.mp member
    cases found : code d with
    | some e =>
      rw [found] at written
      rcases List.mem_cons.mp written with rfl | written
      · exact mark
      · exact List.mem_singleton.mp written ▸ coded d e found
    | none =>
      rw [found] at written
      exact List.mem_singleton.mp written ▸ plain d inside found
  intro c member
  rcases List.mem_append.mp member with member | member
  · exact before c member
  · obtain ⟨part, inside, member⟩ := List.mem_flatMap.mp member
    rcases List.mem_cons.mp member with rfl | member
    · exact quote
    rcases List.mem_append.mp member with member | member
    · exact literal (values part inside) c member
    rcases List.mem_cons.mp member with rfl | member
    · exact quote
    · exact behind part inside c member

theorem scan_quote (rest : List α) :
    quoting.scan true (quoting.quote :: rest) =
      (quoting.scan false rest).map fun (texts, values) => (texts, [] :: values) := by
  cases rest with
  | nil => simp [scan]
  | cons d rest => simp only [scan, reduceIte]

theorem scan_coded {c d : α} (different : quoting.mark ≠ quoting.quote) (decoded : quoting.decode d = some c)
    (rest : List α) :
    quoting.scan true (quoting.mark :: d :: rest) =
      (quoting.scan true rest).map fun (texts, values) => (texts, extend [c] values) := by
  rw [scan, if_neg different, if_pos rfl, decoded, Option.bind_some]

/-- A bare character inside a literal. -/
theorem scan_bare {c : α} (unquoted : c ≠ quoting.quote) (unmarked : c ≠ quoting.mark) {rest : List α}
    (filled : rest ≠ []) :
    quoting.scan true (c :: rest) =
      if quoting.refuses c rest.head? then none
      else (quoting.scan true rest).map fun (texts, values) => (texts, extend [c] values) := by
  cases rest with
  | nil => exact absurd rfl filled
  | cons d rest => rw [scan, if_neg unquoted, if_neg unmarked, List.head?_cons]

/-- A literal is read back, or it is refused at one of its characters. -/
theorem scan_literal (codes : quoting.Codes code) (value rest : List α) :
    quoting.scan true (quoting.escape code value ++ quoting.quote :: rest) =
      if quoting.fine code value then (quoting.scan false rest).map fun (texts, values) => (texts, value :: values)
      else none := by
  induction value with
  | nil => exact scan_quote rest
  | cons c value ih =>
    have later : (quoting.scan true (quoting.escape code value ++ quoting.quote :: rest)).map
        (fun (texts, values) => (texts, extend [c] values)) =
          if quoting.fine code value then
            (quoting.scan false rest).map fun (texts, values) => (texts, (c :: value) :: values)
          else none := by
      rw [ih]
      split
      · rw [Option.map_map]
        rfl
      · rfl
    cases coded : code c with
    | some d =>
      rw [escape_coded coded, List.cons_append, List.cons_append, scan_coded codes.different (codes.decode c d coded), later]
      simp [fine, coded]
    | none =>
      have unquoted : c ≠ quoting.quote := by
        rintro rfl
        simpa [coded] using codes.quote
      have unmarked : c ≠ quoting.mark := by
        rintro rfl
        simpa [coded] using codes.mark
      have head : (quoting.escape code value ++ quoting.quote :: rest).head? =
          (quoting.escape code value ++ [quoting.quote]).head? := by
        simp [List.head?_append]
      rw [escape_bare coded, List.cons_append, scan_bare unquoted unmarked (by simp), later, head, fine, coded]
      cases quoting.refuses c (quoting.escape code value ++ [quoting.quote]).head? with
      | true => simp
      | false => simp

theorem scan_outside {text : List α} (unquoted : quoting.quote ∉ text) {rest : List α}
    {texts values : List (List α)} (scanned : quoting.scan false rest = some (texts, values)) (filled : texts ≠ []) :
    quoting.scan false (text ++ rest) = some (extend text texts, values) := by
  induction text with
  | nil => rw [List.nil_append, scanned, extend_nil texts filled]
  | cons c text ih =>
    obtain ⟨other, unquoted⟩ := not_or.mp (List.mem_cons.not.mp unquoted)
    rw [List.cons_append, scan, if_neg (Ne.symm other), ih unquoted, Option.map_some, ← extend_cons c text]

theorem scan_outside_none {text : List α} (unquoted : quoting.quote ∉ text) {rest : List α}
    (scanned : quoting.scan false rest = none) : quoting.scan false (text ++ rest) = none := by
  induction text with
  | nil => exact scanned
  | cons c text ih =>
    obtain ⟨other, unquoted⟩ := not_or.mp (List.mem_cons.not.mp unquoted)
    rw [List.cons_append, scan, if_neg (Ne.symm other), ih unquoted, Option.map_none]

/-- Reading a text with literals gives back what it was written from. -/
theorem scan_write (codes : quoting.Codes code) {first : List α} {parts : List (List α × List α)}
    (unquoted : quoting.quote ∉ first) (behind : ∀ part ∈ parts, quoting.quote ∉ part.2) :
    quoting.scan false (quoting.write code first parts) =
      if parts.all fun part => quoting.fine code part.1 then some (first :: parts.map Prod.snd, parts.map Prod.fst)
      else none := by
  induction parts generalizing first with
  | nil =>
    have scanned := scan_outside unquoted (rfl : quoting.scan false [] = some ([[]], [])) (by simp)
    simpa [write, extend] using scanned
  | cons part parts ih =>
    obtain ⟨value, after⟩ := part
    obtain ⟨here, others⟩ := List.forall_mem_cons.mp behind
    have shape : quoting.write code first ((value, after) :: parts) =
        first ++ quoting.quote :: (quoting.escape code value ++ quoting.quote :: quoting.write code after parts) := by
      simp [write]
    have literal := scan_literal codes value (quoting.write code after parts)
    rw [ih here others] at literal
    have opened : quoting.scan false
        (quoting.quote :: (quoting.escape code value ++ quoting.quote :: quoting.write code after parts)) =
          if quoting.fine code value && parts.all fun part => quoting.fine code part.1 then
            some ([] :: after :: parts.map Prod.snd, value :: parts.map Prod.fst)
          else none := by
      rw [scan, if_pos rfl, literal]
      by_cases one : quoting.fine code value = true
      · by_cases rest : (parts.all fun part => quoting.fine code part.1) = true
        · simp [one, rest]
        · simp [one, rest]
      · simp [one]
    rw [shape, List.all_cons]
    by_cases all : (quoting.fine code value && parts.all fun part => quoting.fine code part.1) = true
    · rw [if_pos all] at opened ⊢
      rw [scan_outside unquoted opened (by simp)]
      simp [extend]
    · rw [if_neg all] at opened ⊢
      exact scan_outside_none unquoted opened

end Quoting
