import Mathlib.Data.List.Basic

/-! A family of values that a list of updates goes over. Each update changes the value of
one key or none, so the values of different keys do not depend on each other. -/

namespace KeyedUpdates

variable {κ ε α β : Type} [DecidableEq κ]

def update (target : ε → Option κ) (change : ε → α → α) (values : κ → α) (entry : ε) : κ → α :=
  fun key => if target entry = some key then change entry (values key) else values key

def run (target : ε → Option κ) (change : ε → α → α) (entries : List ε) (values : κ → α) : κ → α :=
  entries.foldl (update target change) values

variable {target : ε → Option κ} {change : ε → α → α}

@[simp] theorem run_nil (values : κ → α) : run target change [] values = values := rfl

theorem run_cons (entry : ε) (rest : List ε) (values : κ → α) :
    run target change (entry :: rest) values = run target change rest (update target change values entry) := rfl

/-- A key's value is changed by the updates of that key, in their order. -/
theorem run_apply (entries : List ε) (values : κ → α) (key : κ) :
    run target change entries values key =
      (entries.filter fun entry => target entry = some key).foldl (fun value entry => change entry value) (values key) := by
  induction entries generalizing values with
  | nil => rfl
  | cons entry rest ih =>
    rw [run_cons, ih]
    by_cases here : target entry = some key
    · rw [List.filter_cons_of_pos (by simpa using here), List.foldl_cons]
      simp [update, here]
    · rw [List.filter_cons_of_neg (by simpa using here)]
      simp [update, here]

/-- A part of the value that an update either sets or leaves alone is, in the end, what was
set last, or else what it was before. -/
theorem foldl_last {part : α → Option β} {assigned : ε → Option β}
    (sets : ∀ entry value, part (change entry value) = (assigned entry).or (part value)) (entries : List ε) (value : α) :
    part (entries.foldl (fun value entry => change entry value) value) =
      (entries.reverse.findSome? assigned).or (part value) := by
  induction entries generalizing value with
  | nil => rfl
  | cons entry rest ih =>
    rw [List.foldl_cons, ih, sets, List.reverse_cons, List.findSome?_append, Option.or_assoc, List.findSome?_singleton]

theorem foldl_or (part : α → Option β) (assigned : ε → Option β)
    (sets : ∀ entry value, part (change entry value) = (assigned entry).or (part value)) (entries : List ε) :
    ∃ last : Option β, (∀ value, part (entries.foldl (fun value entry => change entry value) value) = last.or (part value)) ∧
      (last.isSome ↔ ∃ entry ∈ entries, (assigned entry).isSome) ∧
      ∀ b ∈ last, ∃ entry ∈ entries, assigned entry = some b := by
  refine ⟨entries.reverse.findSome? assigned, foldl_last sets entries, ?_, fun b found => ?_⟩
  · rw [List.findSome?_isSome_iff]
    simp only [List.mem_reverse]
  · obtain ⟨entry, member, assigns⟩ := List.exists_of_findSome?_eq_some found
    exact ⟨entry, List.mem_reverse.mp member, assigns⟩

/-- A part of the value that no update changes. -/
theorem foldl_same {part : α → β} (keeps : ∀ entry value, part (change entry value) = part value) (entries : List ε)
    (value : α) : part (entries.foldl (fun value entry => change entry value) value) = part value := by
  induction entries generalizing value with
  | nil => rfl
  | cons entry rest ih => rw [List.foldl_cons, ih, keeps]

/-- A relation between two values that every update keeps is kept by all of them. -/
theorem foldl_related {related : α → α → Prop}
    (keeps : ∀ entry first second, related first second → related (change entry first) (change entry second))
    (entries : List ε) {first second : α} (start : related first second) :
    related (entries.foldl (fun value entry => change entry value) first)
      (entries.foldl (fun value entry => change entry value) second) := by
  induction entries generalizing first second with
  | nil => exact start
  | cons entry rest ih => exact ih (keeps entry first second start)

end KeyedUpdates
