import Mathlib.Data.List.Infix

/-! Reading a growing list page by page, with nothing but an offset kept between two
answers. The pages are consecutive cuts of the list, whatever their sizes are. -/

universe u

namespace Paging
variable {α : Type u}

/-- The list at the time of the answer, the page cut from it and the offset to go on from. -/
structure Answer (α : Type u) where
  items : List α
  page : List α
  next : Option Nat

/-- The page starts at the offset, has an element if there is one left, and the answer
names the offset after it exactly when elements remain. -/
structure Answer.Cut (answer : Answer α) (skip : Nat) : Prop where
  page : ∃ size, answer.page = (answer.items.drop skip).take size
  progress : skip < answer.items.length → answer.page ≠ []
  next : answer.next =
    if skip + answer.page.length < answer.items.length then some (skip + answer.page.length) else none

/-- Answers to successive requests: the first from the start, each later one from the
offset of the answer before it, with the list grown at its end in between. -/
inductive Reads : List (Answer α) → Prop where
  | first {answer} (cut : answer.Cut 0) : Reads [answer]
  | next {earlier last answer skip} (reads : Reads (earlier ++ [last])) (given : last.next = some skip)
      (grown : last.items <+: answer.items) (cut : answer.Cut skip) : Reads (earlier ++ [last] ++ [answer])

def delivered (answers : List (Answer α)) : List α := answers.flatMap Answer.page

/-- What has been delivered is the front of the current list, and the last answer names its length. -/
structure Delivered (answers : List (Answer α)) (last : Answer α) : Prop where
  front : delivered answers = last.items.take (delivered answers).length
  within : (delivered answers).length ≤ last.items.length
  next : last.next =
    if (delivered answers).length < last.items.length then some (delivered answers).length else none
  progress : answers.length ≤ (delivered answers).length ∨ answers.length = 1 ∧ last.items = []

theorem Answer.Cut.append {answer : Answer α} {skip : Nat} (cut : answer.Cut skip) {front : List α}
    (start : front = answer.items.take skip) (within : skip ≤ answer.items.length) :
    front ++ answer.page = answer.items.take (skip + answer.page.length) ∧
      skip + answer.page.length ≤ answer.items.length := by
  obtain ⟨size, page⟩ := cut.page
  have short : answer.page.length ≤ answer.items.length - skip := by
    rw [page, List.length_take, List.length_drop]
    exact Nat.min_le_right _ _
  have exact : answer.page = (answer.items.drop skip).take answer.page.length := by
    conv_lhs => rw [page]
    rw [page, List.length_take, List.take_eq_take_iff]
    omega
  refine ⟨?_, by omega⟩
  rw [List.take_add, start]
  congr 1

theorem Reads.delivered {answers : List (Answer α)} (reads : Reads answers) :
    ∃ earlier last, answers = earlier ++ [last] ∧ Delivered answers last := by
  induction reads with
  | @first answer cut =>
    have empty : [] = answer.items.take 0 := rfl
    obtain ⟨front, within⟩ := cut.append empty (Nat.zero_le _)
    refine ⟨[], answer, rfl, ?_, ?_, ?_, ?_⟩
    · simpa [Paging.delivered] using front
    · simpa [Paging.delivered] using within
    · simpa [Paging.delivered] using cut.next
    · by_cases empty : answer.items = []
      · exact .inr ⟨rfl, empty⟩
      · left
        simpa [Paging.delivered, Nat.one_le_iff_ne_zero] using cut.progress (List.length_pos_iff.mpr empty)
  | @next earlier last answer skip reads given grown cut ih =>
    obtain ⟨front, same, split, sound⟩ := ih
    obtain ⟨rfl, single⟩ := List.append_inj' split rfl
    cases single
    have total : (Paging.delivered (earlier ++ [last])).length = skip ∧ skip < last.items.length := by
      have next := sound.next
      rw [given] at next
      split at next
      next inside => cases next; exact ⟨rfl, inside⟩
      next => cases next
    have longer := grown.length_le
    have start : Paging.delivered (earlier ++ [last]) = answer.items.take skip := by
      rw [sound.front, total.1]
      obtain ⟨rest, grown⟩ := grown
      rw [← grown, List.take_append_of_le_length (Nat.le_of_lt total.2)]
    obtain ⟨front, within⟩ := cut.append start (by omega)
    have all : Paging.delivered (earlier ++ [last] ++ [answer]) =
        Paging.delivered (earlier ++ [last]) ++ answer.page := by
      simp [Paging.delivered]
    have size : (Paging.delivered (earlier ++ [last] ++ [answer])).length = skip + answer.page.length := by
      rw [all, List.length_append, total.1]
    have more : 0 < answer.page.length := List.length_pos_iff.mpr (cut.progress (by omega))
    refine ⟨earlier ++ [last], answer, rfl, ?_, ?_, ?_, ?_⟩
    · rw [size, all, front]
    · rw [size]; exact within
    · rw [size]; exact cut.next
    · left
      rw [List.length_append, List.length_singleton, size]
      rcases sound.progress with enough | ⟨_, empty⟩
      · rw [total.1] at enough
        omega
      · exact absurd total.2 (by simp [empty])

/-- There are no more answers than elements, except for a first answer without any. -/
theorem Delivered.length_le {answers : List (Answer α)} {last : Answer α} (sound : Delivered answers last) :
    answers.length ≤ max 1 last.items.length := by
  have within := sound.within
  rcases sound.progress with enough | ⟨one, _⟩
  · omega
  · omega

/-- All the elements have been delivered once no offset is named. -/
theorem Delivered.complete {answers : List (Answer α)} {last : Answer α} (sound : Delivered answers last)
    (ended : last.next = none) : Paging.delivered answers = last.items := by
  have next := sound.next
  rw [ended] at next
  split at next
  next => cases next
  next all =>
    rw [sound.front]
    exact List.take_of_length_le (by omega)

end Paging
