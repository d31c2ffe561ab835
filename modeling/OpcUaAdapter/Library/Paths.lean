import Mathlib.Data.List.Basic

/-! Paths made of names, each of which stands behind a separator. A path is given by its
names with the innermost one first, so that what lies above it is the tail of the list. -/

universe u

namespace Paths
variable {α : Type u} (separator : α)

def join : List (List α) → List α
  | [] => []
  | name :: above => join above ++ separator :: name

/-- No name contains the separator. -/
def Plain (names : List (List α)) : Prop := ∀ name ∈ names, separator ∉ name

variable {separator}

/-- Behind the last separator, the texts are the same. -/
theorem append_separator_inj {first second left right : List α} (here : separator ∉ left) (there : separator ∉ right)
    (same : first ++ separator :: left = second ++ separator :: right) : first = second ∧ left = right := by
  have inside {text before after : List α} (plain : separator ∉ before)
      (split : separator :: before = text ++ separator :: after) : text = [] := by
    cases text with
    | nil => rfl
    | cons c text =>
      injection split with _ rest
      exact absurd (rest ▸ List.mem_append_right text List.mem_cons_self) plain
  rcases List.append_eq_append_iff.mp same with ⟨text, rfl, split⟩ | ⟨text, rfl, split⟩
  · obtain rfl := inside here split
    exact ⟨by simp, (List.cons.inj split).2⟩
  · obtain rfl := inside there split
    exact ⟨by simp, (List.cons.inj split).2.symm⟩

theorem join_append (names above : List (List α)) :
    join separator (names ++ above) = join separator above ++ join separator names := by
  induction names with
  | nil => exact (List.append_nil _).symm
  | cons name names ih => rw [List.cons_append, join, join, ih, List.append_assoc]

theorem join_inj {first second : List (List α)} (here : Plain separator first) (there : Plain separator second)
    (same : join separator first = join separator second) : first = second := by
  induction first generalizing second with
  | nil =>
    cases second with
    | nil => rfl
    | cons name above => simp [join] at same
  | cons name above ih =>
    cases second with
    | nil => simp [join] at same
    | cons other higher =>
      obtain ⟨rest, rfl⟩ := append_separator_inj (here _ List.mem_cons_self) (there _ List.mem_cons_self) same
      rw [ih (fun name member => here name (List.mem_cons_of_mem _ member))
        (fun name member => there name (List.mem_cons_of_mem _ member)) rest]

/-- A path and a separator start another path exactly when the names are those above it. -/
theorem join_separator_prefix_iff {names other : List (List α)} (here : Plain separator names)
    (there : Plain separator other) :
    join separator names ++ [separator] <+: join separator other ↔ ∃ name below, other = name :: below ++ names := by
  constructor
  · intro start
    induction other with
    | nil => simp [join] at start
    | cons name above ih =>
      obtain ⟨plain, higher⟩ := List.forall_mem_cons.mp there
      by_cases same : join separator names = join separator above
      · rw [join_inj here higher same]
        exact ⟨name, [], rfl⟩
      · have inside : join separator names ++ [separator] <+: join separator above := by
          obtain ⟨rest, whole⟩ := start
          rw [join, List.append_assoc] at whole
          rcases List.append_eq_append_iff.mp whole with ⟨text, split, tail⟩ | ⟨text, split, tail⟩
          · cases text with
            | nil => exact absurd (by simpa using split.symm) same
            | cons c text =>
              rw [List.singleton_append, List.cons_append] at tail
              injection tail with first _
              exact ⟨text, by rw [split, first]; simp⟩
          · cases text with
            | nil => exact absurd (by simpa using split) same
            | cons c text =>
              rw [List.cons_append] at tail
              injection tail with _ later
              exact absurd (later ▸ List.mem_append_right text List.mem_cons_self) plain
        obtain ⟨first, below, rfl⟩ := ih higher inside
        exact ⟨name, first :: below, rfl⟩
  · rintro ⟨name, below, rfl⟩
    have deeper (below : List (List α)) (name : List α) :
        join separator names ++ [separator] <+: join separator (name :: below ++ names) := by
      induction below generalizing name with
      | nil => exact ⟨name, by simp [join]⟩
      | cons next below ih => exact (ih next).trans (List.prefix_append _ _)
    exact deeper below name

end Paths
