import Mathlib.Data.List.Basic

/-! The first value that is found in a list: where the list is made of others, and when only
some of its elements can give a value. -/

universe u v w

namespace FirstFound
variable {α : Type u} {β : Type v} {γ : Type w}

theorem findSome?_filterMap (select : α → Option β) (found : β → Option γ) (list : List α) :
    (list.filterMap select).findSome? found = list.findSome? fun a => (select a).bind found := by
  rw [← List.head?_filterMap, ← List.head?_filterMap, List.filterMap_filterMap]

theorem findSome?_flatMap (parts : α → List β) (found : β → Option γ) (list : List α) :
    (list.flatMap parts).findSome? found = list.findSome? fun a => (parts a).findSome? found := by
  induction list with
  | nil => rfl
  | cons a rest ih =>
    rw [List.flatMap_cons, List.findSome?_append, ih, List.findSome?_cons]
    cases (parts a).findSome? found <;> rfl

variable {found other : α → Option β} {list : List α}

/-- Elements that give nothing can be left out. -/
theorem findSome?_filter {kept : α → Bool} (inside : ∀ a ∈ list, kept a = true → found a = other a)
    (outside : ∀ a ∈ list, kept a = false → found a = none) :
    list.findSome? found = (list.filter kept).findSome? other := by
  induction list with
  | nil => rfl
  | cons a rest ih =>
    have rest_found := ih (fun b member => inside b (List.mem_cons_of_mem _ member))
      fun b member => outside b (List.mem_cons_of_mem _ member)
    cases here : kept a with
    | true =>
      rw [List.filter_cons_of_pos here, List.findSome?_cons, List.findSome?_cons, rest_found,
        inside a List.mem_cons_self here]
    | false =>
      rw [List.filter_cons_of_neg (by simp [here]), List.findSome?_cons, outside a List.mem_cons_self here, rest_found]

/-- What the only element gives that can give something. -/
theorem findSome?_only {a : α} (member : a ∈ list) (others : ∀ b ∈ list, b ≠ a → found b = none) :
    list.findSome? found = found a := by
  cases given : found a with
  | none =>
    refine List.findSome?_eq_none_iff.mpr fun b there => ?_
    by_cases same : b = a
    · rw [same, given]
    · exact others b there same
  | some value =>
    have present := List.findSome?_isSome_iff.mpr ⟨a, member, Option.isSome_of_eq_some given⟩
    obtain ⟨other, search⟩ := Option.isSome_iff_exists.mp present
    obtain ⟨b, there, gives⟩ := List.exists_of_findSome?_eq_some search
    by_cases same : b = a
    · rw [search, ← gives, same, given]
    · rw [others b there same] at gives
      cases gives

end FirstFound
