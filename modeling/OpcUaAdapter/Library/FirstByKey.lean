import Mathlib.Data.List.Nodup

/-! The first entries of a list for each key, and that later entries with a key that was
there before do not count. -/

universe u v

variable {α : Type u} {β : Type v} [DecidableEq β]

def firstByKey (key : α → β) (list : List α) : List α := list.eraseDupsBy fun later first => key later = key first

variable {key : α → β}

@[simp] theorem firstByKey_nil : firstByKey key [] = [] := rfl

theorem firstByKey_cons (a : α) (list : List α) :
    firstByKey key (a :: list) = a :: firstByKey key (list.filter fun b => key b ≠ key a) := by
  unfold firstByKey
  rw [List.eraseDupsBy_cons]
  simp

/-- An entry whose key was there before can be left out. -/
theorem firstByKey_skip {before after : List α} {x y : α} (member : y ∈ before) (same : key y = key x) :
    firstByKey key (before ++ x :: after) = firstByKey key (before ++ after) := by
  induction size : before.length using Nat.strongRecOn generalizing before after with
  | ind n ih =>
    cases before with
    | nil => cases member
    | cons a before =>
      rw [List.cons_append, List.cons_append, firstByKey_cons, firstByKey_cons, List.filter_append, List.filter_append]
      congr 1
      by_cases here : key x = key a
      · rw [List.filter_cons_of_neg (by simp [here])]
      · have later : y ∈ before := by
          rcases List.mem_cons.mp member with rfl | later
          · exact absurd same.symm here
          · exact later
        rw [List.filter_cons_of_pos (by simp [here])]
        refine ih _ ?_ (List.mem_filter.mpr ⟨later, by simpa [same] using here⟩) rfl
        have := List.length_filter_le (fun b => decide (key b ≠ key a)) before
        rw [List.length_cons] at size
        omega

theorem firstByKey_of_nodup {list : List α} (distinct : (list.map key).Nodup) : firstByKey key list = list := by
  induction list with
  | nil => rfl
  | cons a list ih =>
    obtain ⟨fresh, rest⟩ := List.nodup_cons.mp distinct
    have kept : list.filter (fun b => key b ≠ key a) = list := by
      apply List.filter_eq_self.mpr
      intro b member
      have other : key b ≠ key a := fun same => fresh (same ▸ List.mem_map_of_mem member)
      simpa using other
    rw [firstByKey_cons, kept, ih rest]

theorem mem_of_mem_firstByKey {list : List α} {a : α} (member : a ∈ firstByKey key list) : a ∈ list := by
  induction size : list.length using Nat.strongRecOn generalizing list with
  | ind n ih =>
    cases list with
    | nil => exact member
    | cons b list =>
      rw [firstByKey_cons] at member
      rcases List.mem_cons.mp member with rfl | later
      · exact List.mem_cons_self
      · have := List.length_filter_le (fun c => decide (key c ≠ key b)) list
        rw [List.length_cons] at size
        exact List.mem_cons_of_mem _ (List.mem_filter.mp (ih _ (by omega) later rfl)).1

/-- An entry is one of the first exactly when a search for its key finds it. -/
theorem mem_firstByKey_iff {list : List α} {a : α} :
    a ∈ firstByKey key list ↔ list.find? (fun b => key b = key a) = some a := by
  induction size : list.length using Nat.strongRecOn generalizing list with
  | ind n ih =>
    cases list with
    | nil => simp
    | cons b list =>
      have := List.length_filter_le (fun c => decide (key c ≠ key b)) list
      rw [List.length_cons] at size
      rw [firstByKey_cons, List.mem_cons, ih _ (by omega) rfl, List.find?_filter]
      by_cases here : key b = key a
      · rw [List.find?_cons_of_pos (by simpa using here), Option.some_inj]
        refine ⟨fun either => ?_, fun same => .inl same.symm⟩
        rcases either with same | found
        · exact same.symm
        · have holds := List.find?_some found
          simp [here] at holds
      · rw [List.find?_cons_of_neg (by simpa using here)]
        have alike : (fun c => decide (decide (key c ≠ key b) = true ∧ decide (key c = key a) = true)) =
            fun c => decide (key c = key a) := by
          funext c
          by_cases there : key c = key a
          · simp [there, Ne.symm here]
          · simp [there]
        rw [alike]
        exact or_iff_right fun same => here (same ▸ rfl)

theorem nodup_firstByKey (list : List α) : ((firstByKey key list).map key).Nodup := by
  induction size : list.length using Nat.strongRecOn generalizing list with
  | ind n ih =>
    cases list with
    | nil => exact List.nodup_nil
    | cons a list =>
      have := List.length_filter_le (fun b => decide (key b ≠ key a)) list
      rw [List.length_cons] at size
      rw [firstByKey_cons, List.map_cons, List.nodup_cons]
      refine ⟨fun member => ?_, ih _ (by omega) _ rfl⟩
      obtain ⟨b, kept, same⟩ := List.mem_map.mp member
      have other := (List.mem_filter.mp (mem_of_mem_firstByKey kept)).2
      simp [same] at other

/-- Leaving out all entries with certain keys makes no difference for the other keys. -/
theorem firstByKey_filter (kept : β → Bool) (list : List α) :
    firstByKey key (list.filter fun a => kept (key a)) = (firstByKey key list).filter fun a => kept (key a) := by
  induction size : list.length using Nat.strongRecOn generalizing list with
  | ind n ih =>
    cases list with
    | nil => rfl
    | cons a list =>
      have := List.length_filter_le (fun b => decide (key b ≠ key a)) list
      rw [List.length_cons] at size
      have rest := ih _ (by omega) (list.filter fun b => key b ≠ key a) rfl
      rw [firstByKey_cons]
      cases here : kept (key a) with
      | true =>
        rw [List.filter_cons_of_pos (by simpa using here), List.filter_cons_of_pos (by simpa using here), firstByKey_cons, ← rest, List.filter_filter,
          List.filter_filter]
        simp only [Bool.and_comm]
      | false =>
        rw [List.filter_cons_of_neg (by simp [here]), List.filter_cons_of_neg (by simp [here]), ← rest,
          List.filter_filter]
        congr 1
        apply List.filter_congr
        intro b _
        have other (keep : kept (key b) = true) : key b ≠ key a := by
          intro same
          rw [same, here] at keep
          cases keep
        cases keep : kept (key b) with
        | true => simp [other keep]
        | false => rfl

/-- An entry is added at the end unless its key is there. -/
def insertNew (key : α → β) (list : List α) (a : α) : List α :=
  if list.any fun b => key b = key a then list else list ++ [a]

theorem foldl_insertNew (kept list : List α) :
    list.foldl (insertNew key) kept =
      kept ++ (firstByKey key list).filter fun a => !kept.any fun b => key b = key a := by
  induction list generalizing kept with
  | nil => simp
  | cons a list ih =>
    rw [List.foldl_cons, ih, firstByKey_cons]
    have others := @firstByKey_filter _ _ _ key (fun k => decide (k ≠ key a)) list
    rw [others]
    cases here : kept.any fun b => decide (key b = key a) with
    | true =>
      rw [insertNew, if_pos here, List.filter_cons_of_neg (by simp [here]), List.filter_filter]
      congr 1
      apply List.filter_congr
      intro b _
      by_cases same : key b = key a
      · simp [same, here]
      · simp [same]
    | false =>
      rw [insertNew, if_neg (by simp [here]), List.filter_cons_of_pos (by simp [here]), List.filter_filter,
        List.append_assoc, List.singleton_append]
      congr 2
      apply List.filter_congr
      intro b _
      simp [List.any_append, eq_comm]

theorem foldl_insertNew_nil (list : List α) : list.foldl (insertNew key) [] = firstByKey key list := by
  rw [foldl_insertNew]
  simp

/-- What is there already makes no difference only if it comes first anyway. -/
theorem foldl_insertNew_eq_iff (kept list : List α) :
    list.foldl (insertNew key) kept = firstByKey key list ↔ kept <+: firstByKey key list := by
  rw [foldl_insertNew]
  constructor
  · exact fun same => ⟨_, same⟩
  · rintro ⟨rest, whole⟩
    have distinct := @nodup_firstByKey _ _ _ key list
    rw [← whole, List.map_append, List.nodup_append] at distinct
    obtain ⟨_, _, apart⟩ := distinct
    have before : kept.filter (fun a => !kept.any fun b => decide (key b = key a)) = [] := by
      apply List.filter_eq_nil_iff.mpr
      intro a member
      simpa using ⟨a, member, rfl⟩
    have behind : rest.filter (fun a => !kept.any fun b => decide (key b = key a)) = rest := by
      apply List.filter_eq_self.mpr
      intro a member
      have other (b : α) (there : b ∈ kept) : key b ≠ key a :=
        apart _ (List.mem_map_of_mem there) _ (List.mem_map_of_mem member)
      simpa using other
    rw [← whole, List.filter_append, before, behind, List.nil_append]

/-- Nothing is added exactly when every key is there. -/
theorem foldl_insertNew_eq_self_iff (kept list : List α) :
    list.foldl (insertNew key) kept = kept ↔ ∀ a ∈ list, ∃ b ∈ kept, key b = key a := by
  induction list generalizing kept with
  | nil => simp
  | cons a list ih =>
    rw [List.foldl_cons, List.forall_mem_cons, ← ih]
    by_cases known : kept.any (fun b => decide (key b = key a)) = true
    · have there : ∃ b ∈ kept, key b = key a := by simpa using known
      rw [insertNew, if_pos known]
      simp [there]
    · have absent : ¬ ∃ b ∈ kept, key b = key a := by simpa using known
      refine iff_of_false (fun same => ?_) fun both => absent both.1
      rw [insertNew, if_neg known, foldl_insertNew] at same
      have size := congrArg List.length same
      simp only [List.length_append, List.length_singleton] at size
      omega
