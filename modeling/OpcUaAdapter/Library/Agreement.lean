import OpcUaAdapter.Library.Effects

/-! Two runs side by side: from related states both computations succeed with one value, or
both fail, and the states they end with are related again. The errors may differ. -/

namespace Effects

variable {σ ε α β : Type}

/-- Two runs that both succeed with one value, or both fail, in related states. -/
def EndAlike (relation : σ → σ → Prop) : Except ε α × σ → Except ε α × σ → Prop
  | (.ok value, after), (.ok again, last) => value = again ∧ relation after last
  | (.error _, after), (.error _, last) => relation after last
  | _, _ => False

def Agrees (relation : σ → σ → Prop) (first second : ExceptT ε (StateM σ) α) : Prop :=
  ∀ before other, relation before other → EndAlike relation (outcome first before) (outcome second other)

section Rules

variable {relation : σ → σ → Prop}

theorem EndAlike.refl [Std.Refl relation] (ending : Except ε α × σ) : EndAlike relation ending ending := by
  rcases ending with ⟨_ | value, after⟩
  · exact Std.Refl.refl (r := relation) after
  · exact ⟨rfl, Std.Refl.refl after⟩

theorem EndAlike.symm [Std.Symm relation] {first second : Except ε α × σ} (ends : EndAlike relation first second) :
    EndAlike relation second first := by
  have turn {here there : σ} (related : relation here there) : relation there here := Std.Symm.symm _ _ related
  rcases first with ⟨_ | value, after⟩
  · rcases second with ⟨_ | again, last⟩
    · exact turn ends
    · exact ends
  · rcases second with ⟨_ | again, last⟩
    · exact ends
    · exact ⟨ends.1.symm, turn ends.2⟩

theorem EndAlike.trans [IsTrans σ relation] {first second third : Except ε α × σ}
    (before : EndAlike relation first second) (after : EndAlike relation second third) :
    EndAlike relation first third := by
  have join {here there last : σ} (first : relation here there) (rest : relation there last) : relation here last :=
    IsTrans.trans _ _ _ first rest
  rcases second with ⟨_ | again, middle⟩
  · rcases first with ⟨_ | value, here⟩
    · rcases third with ⟨_ | other, last⟩
      · exact join before after
      · exact after
    · exact before.elim
  · rcases first with ⟨_ | value, here⟩
    · exact before.elim
    · rcases third with ⟨_ | other, last⟩
      · exact after
      · exact ⟨before.1.trans after.1, join before.2 after.2⟩

theorem EndAlike.states {first second : Except ε α × σ} (ends : EndAlike relation first second) :
    relation first.2 second.2 := by
  rcases first with ⟨_ | value, after⟩
  · rcases second with ⟨_ | again, last⟩
    · exact ends
    · exact ends.elim
  · rcases second with ⟨_ | again, last⟩
    · exact ends.elim
    · exact ends.2

theorem EndAlike.congr [Std.Symm relation] [IsTrans σ relation] {first second here there : Except ε α × σ}
    (left : EndAlike relation first here) (right : EndAlike relation second there) :
    EndAlike relation first second ↔ EndAlike relation here there :=
  ⟨fun ends => (left.symm.trans ends).trans right, fun ends => (left.trans ends).trans right.symm⟩

/-- What follows two computations that end alike. -/
theorem EndAlike.bind {effect another : ExceptT ε (StateM σ) α} {next rest : α → ExceptT ε (StateM σ) β}
    {before other : σ} (ends : EndAlike relation (outcome effect before) (outcome another other))
    (follow : ∀ value, Agrees relation (next value) (rest value)) :
    EndAlike relation (outcome (effect >>= next) before) (outcome (another >>= rest) other) := by
  rw [outcome_bind, outcome_bind]
  revert ends
  rcases outcome effect before with ⟨_ | value, after⟩
  · rcases outcome another other with ⟨_ | again, last⟩
    · exact id
    · exact False.elim
  · rcases outcome another other with ⟨_ | again, last⟩
    · exact False.elim
    · rintro ⟨rfl, related⟩
      exact follow value after last related

theorem Agrees.modify {change again : σ → σ}
    (kept : ∀ before other, relation before other → relation (change before) (again other)) :
    Agrees relation (modify change : ExceptT ε (StateM σ) PUnit) (modify again) :=
  fun before other related => ⟨rfl, kept before other related⟩

theorem Agrees.modifyGet {change again : σ → α × σ}
    (kept : ∀ before other, relation before other →
      (change before).1 = (again other).1 ∧ relation (change before).2 (again other).2) :
    Agrees relation (modifyGet change : ExceptT ε (StateM σ) α) (modifyGet again) := kept

theorem Agrees.throw (error another : ε) :
    Agrees relation (throw error : ExceptT ε (StateM σ) α) (throw another) := fun _ _ related => related

theorem Agrees.ite {condition : Prop} [Decidable condition] {first second here there : ExceptT ε (StateM σ) α}
    (chosen : condition → Agrees relation first here) (other : ¬ condition → Agrees relation second there) :
    Agrees relation (if condition then first else second) (if condition then here else there) := by
  split
  next holds => exact chosen holds
  next fails => exact other fails

theorem Agrees.bind {effect another : ExceptT ε (StateM σ) α} {next rest : α → ExceptT ε (StateM σ) β}
    (first : Agrees relation effect another) (follow : ∀ value, Agrees relation (next value) (rest value)) :
    Agrees relation (effect >>= next) (another >>= rest) :=
  fun before other related => (first before other related).bind follow

theorem Agrees.pure (value : α) : Agrees relation (pure value : ExceptT ε (StateM σ) α) (Pure.pure value) :=
  fun _ _ related => ⟨rfl, related⟩

/-- Both look at their own states, which are related. -/
theorem Agrees.read {next rest : σ → ExceptT ε (StateM σ) β}
    (each : ∀ before other, relation before other → Agrees relation (next before) (rest other)) :
    Agrees relation (get >>= next) (get >>= rest) := by
  intro before other related
  rw [outcome_bind_ok (outcome_get before), outcome_bind_ok (outcome_get other)]
  exact each before other related before other related

theorem Agrees.forM {effect another : α → ExceptT ε (StateM σ) PUnit} {list : List α}
    (each : ∀ value ∈ list, Agrees relation (effect value) (another value)) :
    Agrees relation (list.forM effect) (list.forM another) := by
  induction list with
  | nil => exact Agrees.pure _
  | cons value list ih =>
    refine Agrees.bind (each value List.mem_cons_self) fun _ => ?_
    exact ih fun other member => each other (List.mem_cons_of_mem _ member)

end Rules

/-- Two runs of a loop over lists that differ in one element: they end alike, whatever
follows, when the rounds of that element end alike in the state the loop reaches there. -/
theorem endAlike_forM {relation : σ → σ → Prop} [Std.Refl relation] {effect : α → ExceptT ε (StateM σ) PUnit}
    (each : ∀ value, Agrees relation (effect value) (effect value)) {start : σ} {done : List α} {value other : α}
    (ends : ∀ state, Reaches effect start done state →
      EndAlike relation (outcome (effect value) state) (outcome (effect other) state)) (rest : List α) :
    EndAlike relation (outcome ((done ++ value :: rest).forM effect) start)
      (outcome ((done ++ other :: rest).forM effect) start) := by
  induction done generalizing start with
  | nil => exact (ends start rfl).bind fun _ => Agrees.forM fun next _ => each next
  | cons first done ih =>
    rw [List.cons_append, List.cons_append, outcome_forM_cons, outcome_forM_cons]
    cases reached : outcome (effect first) start with
    | mk result middle =>
      cases result with
      | error error => exact Std.Refl.refl middle
      | ok _ => exact ih fun state later => ends state (reaches_cons.mpr ⟨middle, reached, later⟩)

/-- With nothing behind the element, the loop ends alike only when its rounds do. -/
theorem endAlike_of_forM {relation : σ → σ → Prop} {effect : α → ExceptT ε (StateM σ) PUnit} {start state : σ}
    {done : List α} {value other : α} (reached : Reaches effect start done state)
    (ends : EndAlike relation (outcome ((done ++ [value]).forM effect) start)
      (outcome ((done ++ [other]).forM effect) start)) :
    EndAlike relation (outcome (effect value) state) (outcome (effect other) state) := by
  induction done generalizing start with
  | nil =>
    cases reached
    have single (one : α) : outcome ([one].forM effect) state = outcome (effect one) state := by
      rw [outcome_forM_cons]
      rcases outcome (effect one) state with ⟨_ | _, _⟩ <;> rfl
    rwa [List.nil_append, List.nil_append, single, single] at ends
  | cons first done ih =>
    obtain ⟨middle, here, later⟩ := reaches_cons.mp reached
    rw [List.cons_append, List.cons_append, outcome_forM_cons, outcome_forM_cons, here] at ends
    exact ih later ends

end Effects
