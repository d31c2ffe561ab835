import Mathlib.Order.Defs.Unbundled

/-! Computations on a state that may fail, and then leave the state as it is by then: what
one of them does, relations between the states before and after, and loops that never take
back what they raise. -/

namespace Effects

variable {σ ε α β γ : Type}

/-- The result and the state a computation ends with. -/
def outcome (effect : ExceptT ε (StateM σ) α) (before : σ) : Except ε α × σ := effect.run before

@[simp] theorem outcome_pure (value : α) (before : σ) :
    outcome (pure value : ExceptT ε (StateM σ) α) before = (.ok value, before) := rfl

@[simp] theorem outcome_get (before : σ) :
    outcome (get : ExceptT ε (StateM σ) σ) before = (.ok before, before) := rfl

@[simp] theorem outcome_modifyGet (change : σ → α × σ) (before : σ) :
    outcome (modifyGet change : ExceptT ε (StateM σ) α) before = (.ok (change before).1, (change before).2) := rfl

@[simp] theorem outcome_throw (error : ε) (before : σ) :
    outcome (throw error : ExceptT ε (StateM σ) α) before = (.error error, before) := rfl

@[simp] theorem outcome_modify (change : σ → σ) (before : σ) :
    outcome (modify change : ExceptT ε (StateM σ) PUnit) before = (.ok ⟨⟩, change before) := rfl

/-- A computation that only looks at a result that is there already. -/
@[simp] theorem outcome_result (result : Except ε α) (before : σ) :
    outcome (ExceptT.mk (pure result) : ExceptT ε (StateM σ) α) before = (result, before) := rfl

/-- The second computation starts where the first one succeeds. -/
theorem outcome_bind (effect : ExceptT ε (StateM σ) α) (next : α → ExceptT ε (StateM σ) β) (before : σ) :
    outcome (effect >>= next) before =
      match outcome effect before with
      | (.ok value, after) => outcome (next value) after
      | (.error error, after) => (.error error, after) := by
  change ((ExceptT.bindCont next (effect.run before).1) (effect.run before).2) = _
  unfold outcome
  rcases effect.run before with ⟨result, after⟩
  cases result <;> rfl

/-- Whatever the computation does, the states before and after are related. -/
def Keeps (relation : σ → σ → Prop) (effect : ExceptT ε (StateM σ) α) : Prop :=
  ∀ before, relation before (outcome effect before).2

section Rules

variable {relation : σ → σ → Prop}

theorem Keeps.modify {change : σ → σ} (kept : ∀ before, relation before (change before)) :
    Keeps relation (modify change : ExceptT ε (StateM σ) PUnit) := kept

theorem Keeps.modifyGet {change : σ → α × σ} (kept : ∀ before, relation before (change before).2) :
    Keeps relation (modifyGet change : ExceptT ε (StateM σ) α) := kept

theorem Keeps.ite {condition : Prop} [Decidable condition] {first second : ExceptT ε (StateM σ) α}
    (here : Keeps relation first) (there : Keeps relation second) :
    Keeps relation (if condition then first else second) := by
  split
  · exact here
  · exact there

section

variable [IsTrans σ relation]

theorem Keeps.bind {effect : ExceptT ε (StateM σ) α} {next : α → ExceptT ε (StateM σ) β}
    (first : Keeps relation effect) (second : ∀ value, Keeps relation (next value)) :
    Keeps relation (effect >>= next) := by
  intro before
  have middle := first before
  rw [outcome_bind]
  cases reached : outcome effect before with
  | mk result after =>
    rw [reached] at middle
    cases result with
    | ok value => exact IsTrans.trans _ _ _ middle (second value after)
    | error error => exact middle

end

variable [Std.Refl relation]

theorem Keeps.pure (value : α) : Keeps relation (pure value : ExceptT ε (StateM σ) α) :=
  fun before => Std.Refl.refl before

theorem Keeps.throw (error : ε) : Keeps relation (throw error : ExceptT ε (StateM σ) α) :=
  fun before => Std.Refl.refl before

theorem Keeps.get : Keeps relation (get : ExceptT ε (StateM σ) σ) := fun before => Std.Refl.refl before

variable [IsTrans σ relation]

theorem Keeps.read {next : σ → ExceptT ε (StateM σ) β} (each : ∀ state, Keeps relation (next state)) :
    Keeps relation (MonadState.get >>= next) := Keeps.bind Keeps.get each

theorem Keeps.forM {list : List α} {effect : α → ExceptT ε (StateM σ) PUnit}
    (each : ∀ value ∈ list, Keeps relation (effect value)) : Keeps relation (list.forM effect) := by
  induction list with
  | nil => exact Keeps.pure _
  | cons value list ih =>
    exact Keeps.bind (each value List.mem_cons_self) fun _ => ih fun other member =>
      each other (List.mem_cons_of_mem _ member)

theorem Keeps.mapM {list : List α} {effect : α → ExceptT ε (StateM σ) β}
    (each : ∀ value ∈ list, Keeps relation (effect value)) : Keeps relation (list.mapM effect) := by
  induction list with
  | nil => exact Keeps.pure _
  | cons value list ih =>
    rw [List.mapM_cons]
    apply Keeps.bind (each value List.mem_cons_self)
    intro first
    apply Keeps.bind (ih fun other member => each other (List.mem_cons_of_mem _ member))
    intro rest
    exact Keeps.pure _

end Rules

/-- Two states with the same view. -/
def SameView (view : σ → β) (before after : σ) : Prop := view after = view before

instance (view : σ → β) : Std.Refl (SameView view) := ⟨fun _ => rfl⟩

instance (view : σ → β) : IsTrans σ (SameView view) := ⟨fun _ _ _ first second => Eq.trans second first⟩

theorem outcome_bind_ok {effect : ExceptT ε (StateM σ) α} {before after : σ} {value : α}
    (reached : outcome effect before = (.ok value, after)) (next : α → ExceptT ε (StateM σ) β) :
    outcome (effect >>= next) before = outcome (next value) after := by
  rw [outcome_bind, reached]

theorem outcome_bind_eq_ok {effect : ExceptT ε (StateM σ) α} {next : α → ExceptT ε (StateM σ) β} {before after : σ}
    {value : β} :
    outcome (effect >>= next) before = (.ok value, after) ↔
      ∃ first middle, outcome effect before = (.ok first, middle) ∧
        outcome (next first) middle = (.ok value, after) := by
  rw [outcome_bind]
  rcases outcome effect before with ⟨_ | first, middle⟩
  · simp
  · constructor
    · exact fun rest => ⟨first, middle, rfl, rest⟩
    · rintro ⟨_, _, ⟨⟩, rest⟩
      exact rest

theorem outcome_seq_eq_ok {effect : ExceptT ε (StateM σ) PUnit} {next : PUnit → ExceptT ε (StateM σ) β}
    {before after : σ} {value : β} :
    outcome (effect >>= next) before = (.ok value, after) ↔
      ∃ middle, outcome effect before = (.ok ⟨⟩, middle) ∧ outcome (next ⟨⟩) middle = (.ok value, after) := by
  rw [outcome_bind_eq_ok]
  exact ⟨fun ⟨_, middle, first, rest⟩ => ⟨middle, first, rest⟩, fun ⟨middle, first, rest⟩ => ⟨⟨⟩, middle, first, rest⟩⟩

theorem outcome_bind_error {effect : ExceptT ε (StateM σ) α} {before : σ} {error : ε}
    (fails : (outcome effect before).1 = .error error) (next : α → ExceptT ε (StateM σ) β) :
    (outcome (effect >>= next) before).1 = .error error := by
  rw [outcome_bind]
  revert fails
  rcases outcome effect before with ⟨_ | value, after⟩
  · exact fun fails => congrArg Except.error (Except.error.inj fails)
  · rintro ⟨⟩

theorem outcome_bind_failed {effect : ExceptT ε (StateM σ) α} {before after : σ} {error : ε}
    (failed : outcome effect before = (.error error, after)) (next : α → ExceptT ε (StateM σ) β) :
    outcome (effect >>= next) before = (.error error, after) := by
  rw [outcome_bind, failed]

theorem state_bind_pure (effect : ExceptT ε (StateM σ) α) (result : α → β) (before : σ) :
    (outcome (effect >>= fun value => pure (result value)) before).2 = (outcome effect before).2 := by
  rw [outcome_bind]
  rcases outcome effect before with ⟨_ | value, after⟩ <;> rfl

/-- What follows does not matter for a view it leaves alone. -/
theorem view_bind (view : σ → γ) {effect : ExceptT ε (StateM σ) α} {next : α → ExceptT ε (StateM σ) β}
    (kept : ∀ value, Keeps (SameView view) (next value)) (before : σ) :
    view (outcome (effect >>= next) before).2 = view (outcome effect before).2 := by
  rw [outcome_bind]
  rcases outcome effect before with ⟨_ | value, after⟩
  · rfl
  · exact kept value after

/-- A view that is the same or higher than before. -/
def Raises (order : β → β → Prop) (view : σ → β) (before after : σ) : Prop := order (view before) (view after)

section Loops

variable {order : β → β → Prop} [IsPartialOrder β order] {view : σ → β}

instance : Std.Refl (Raises order view) := ⟨fun state => refl_of order (view state)⟩

instance : IsTrans σ (Raises order view) := ⟨fun _ _ _ first second => trans_of order first second⟩

theorem Keeps.raises {effect : ExceptT ε (StateM σ) α} (same : Keeps (SameView view) effect) :
    Keeps (Raises order view) effect := by
  intro before
  have equal : view (outcome effect before).2 = view before := same before
  rw [Raises, equal]
  exact refl_of order (view before)

/-- A view that has been raised is not taken back by what follows. -/
theorem raised_bind {effect : ExceptT ε (StateM σ) α} {next : α → ExceptT ε (StateM σ) γ}
    (first : Keeps (Raises order view) effect) (rest : ∀ value, Keeps (Raises order view) (next value)) {before : σ}
    (raised : ¬ SameView view before (outcome effect before).2) :
    ¬ SameView view before (outcome (effect >>= next) before).2 := by
  have higher := first before
  revert higher raised
  rw [outcome_bind]
  rcases outcome effect before with ⟨_ | value, middle⟩
  · exact fun raised _ => raised
  · intro raised higher same
    have behind : order (view middle) (view (outcome (next value) middle).2) := rest value middle
    exact raised (antisymm_of order (Eq.subst same behind) higher)

/-- The state in which a loop reaches the element behind `done`. -/
def Reaches (effect : α → ExceptT ε (StateM σ) PUnit) (start : σ) (done : List α) (state : σ) : Prop :=
  outcome (done.forM effect) start = (.ok ⟨⟩, state)

theorem outcome_forM_cons (effect : α → ExceptT ε (StateM σ) PUnit) (value : α) (list : List α) (start : σ) :
    outcome ((value :: list).forM effect) start =
      match outcome (effect value) start with
      | (.ok _, after) => outcome (list.forM effect) after
      | (.error error, after) => (.error error, after) := by
  refine (outcome_bind (effect value) (fun _ => list.forM effect) start).trans ?_
  rcases outcome (effect value) start with ⟨_ | _, middle⟩ <;> rfl

theorem reaches_cons {effect : α → ExceptT ε (StateM σ) PUnit} {start state : σ} {value : α} {done : List α} :
    Reaches effect start (value :: done) state ↔
      ∃ middle, outcome (effect value) start = (.ok ⟨⟩, middle) ∧ Reaches effect middle done state := by
  unfold Reaches
  rw [outcome_forM_cons]
  rcases outcome (effect value) start with ⟨_ | _, middle⟩
  · simp
  · simp

theorem Reaches.snoc {effect : α → ExceptT ε (StateM σ) PUnit} {start state last : σ} {done : List α} {value : α}
    (reached : Reaches effect start done state) (round : outcome (effect value) state = (.ok ⟨⟩, last)) :
    Reaches effect start (done ++ [value]) last := by
  induction done generalizing start with
  | nil =>
    cases reached
    exact reaches_cons.mpr ⟨last, round, rfl⟩
  | cons first done ih =>
    obtain ⟨middle, begins, later⟩ := reaches_cons.mp reached
    exact reaches_cons.mpr ⟨middle, begins, ih later⟩

/-- What a round keeps while its condition holds is there in every state the loop reaches. -/
theorem Reaches.invariant {effect : α → ExceptT ε (StateM σ) PUnit} {invariant : σ → Prop} {condition : α → σ → Prop}
    (step : ∀ value state, invariant state → condition value state → invariant (outcome (effect value) state).2)
    {start : σ} (begins : invariant start) {list : List α}
    (met : ∀ done value rest state, list = done ++ value :: rest → Reaches effect start done state → condition value state)
    {done rest : List α} {state : σ} (split : list = done ++ rest) (reached : Reaches effect start done state) :
    invariant state := by
  induction done generalizing start list with
  | nil =>
    cases reached
    exact begins
  | cons value done ih =>
    obtain ⟨middle, first, later⟩ := reaches_cons.mp reached
    have next := step value start begins (met [] value (done ++ rest) start split rfl)
    rw [first] at next
    refine ih next (fun before other behind state within reached => ?_) rfl later
    exact met (value :: before) other behind state (by rw [split, List.cons_append, within]; rfl)
      (reaches_cons.mpr ⟨middle, first, reached⟩)

/-- A condition that is met by each round that is reached. -/
def Rounds (effect : α → ExceptT ε (StateM σ) PUnit) (condition : α → σ → Prop) (start : σ) (list : List α) : Prop :=
  ∀ done value rest state, list = done ++ value :: rest → Reaches effect start done state → condition value state

/-- What a round keeps while its condition holds is there when the loop ends. -/
theorem Rounds.invariant {effect : α → ExceptT ε (StateM σ) PUnit} {invariant : σ → Prop} {condition : α → σ → Prop}
    (step : ∀ value state, invariant state → condition value state → invariant (outcome (effect value) state).2)
    {start : σ} (begins : invariant start) {list : List α} (met : Rounds effect condition start list) :
    invariant (outcome (list.forM effect) start).2 := by
  induction list generalizing start with
  | nil => exact begins
  | cons value list ih =>
    have next := step value start begins (met [] value list start rfl rfl)
    rw [outcome_forM_cons]
    cases reached : outcome (effect value) start with
    | mk result middle =>
      rw [reached] at next
      cases result with
      | error error => exact next
      | ok _ =>
        refine ih next fun done other rest state split later => ?_
        exact met (value :: done) other rest state (by rw [split]; rfl) (reaches_cons.mpr ⟨middle, reached, later⟩)

/-- No round that is reached changes the view. -/
def Undisturbed (view : σ → β) (effect : α → ExceptT ε (StateM σ) PUnit) (start : σ) (list : List α) : Prop :=
  ∀ done value rest state, list = done ++ value :: rest → Reaches effect start done state →
    SameView view state (outcome (effect value) state).2

theorem undisturbed_cons {effect : α → ExceptT ε (StateM σ) PUnit} {start : σ} {value : α} {list : List α} :
    Undisturbed view effect start (value :: list) ↔
      SameView view start (outcome (effect value) start).2 ∧
        ∀ middle, outcome (effect value) start = (.ok ⟨⟩, middle) → Undisturbed view effect middle list := by
  constructor
  · intro same
    refine ⟨same [] value list start rfl rfl, fun middle first done other rest state split reached => ?_⟩
    exact same (value :: done) other rest state (by rw [split]; rfl) (reaches_cons.mpr ⟨middle, first, reached⟩)
  · rintro ⟨here, later⟩ done other rest state split reached
    cases done with
    | nil =>
      obtain ⟨rfl, rfl⟩ := List.cons.inj split
      cases reached
      exact here
    | cons first done =>
      obtain ⟨rfl, behind⟩ := List.cons.inj split
      obtain ⟨middle, reached, next⟩ := reaches_cons.mp reached
      exact later middle reached done other rest state behind next

/-- A view that can only be raised is the same after a loop just when no round that is
reached raises it. -/
theorem forM_sameView_iff {effect : α → ExceptT ε (StateM σ) PUnit}
    (raises : ∀ value, Keeps (Raises order view) (effect value)) (list : List α) (start : σ) :
    SameView view start (outcome (list.forM effect) start).2 ↔ Undisturbed view effect start list := by
  induction list generalizing start with
  | nil => exact iff_of_true rfl fun done value rest state split => by simp at split
  | cons value list ih =>
    have first := raises value start
    have rest : Keeps (Raises order view) (list.forM effect) := Keeps.forM fun other _ => raises other
    rw [undisturbed_cons, outcome_forM_cons]
    cases reached : outcome (effect value) start with
    | mk result middle =>
      rw [reached] at first
      cases result with
      | error error => simp
      | ok value =>
        have behind : order (view middle) (view (outcome (list.forM effect) middle).2) := rest middle
        simp only [Prod.mk.injEq, true_and, forall_eq', ← ih]
        constructor
        · intro same
          have equal : view middle = view start := antisymm_of order (Eq.subst same behind) first
          exact ⟨equal, Eq.trans same equal.symm⟩
        · rintro ⟨here, later⟩
          exact Eq.trans later here

end Loops

/-- From states with a property the computation ends with a result and a state, or stops with
an error and a state, as described. -/
def Yields (before : σ → Prop) (effect : ExceptT ε (StateM σ) α) (after : α → σ → Prop) (stopped : ε → σ → Prop) :
    Prop :=
  ∀ state, before state →
    match outcome effect state with
    | (.ok value, last) => after value last
    | (.error error, last) => stopped error last

section Yielding

variable {before : σ → Prop} {stopped : ε → σ → Prop}

theorem Yields.pure {after : α → σ → Prop} {value : α} (holds : ∀ state, before state → after value state) :
    Yields before (pure value : ExceptT ε (StateM σ) α) after stopped := holds

theorem Yields.throw {after : α → σ → Prop} {error : ε} (holds : ∀ state, before state → stopped error state) :
    Yields before (throw error : ExceptT ε (StateM σ) α) after stopped := holds

theorem Yields.modifyGet {change : σ → α × σ} {after : α → σ → Prop}
    (holds : ∀ state, before state → after (change state).1 (change state).2) :
    Yields before (modifyGet change : ExceptT ε (StateM σ) α) after stopped := holds

theorem Yields.modify {change : σ → σ} {after : PUnit → σ → Prop}
    (holds : ∀ state, before state → after ⟨⟩ (change state)) :
    Yields before (modify change : ExceptT ε (StateM σ) PUnit) after stopped := holds

theorem Yields.bind {effect : ExceptT ε (StateM σ) α} {next : α → ExceptT ε (StateM σ) β} {middle : α → σ → Prop}
    {after : β → σ → Prop} (first : Yields before effect middle stopped)
    (second : ∀ value, Yields (middle value) (next value) after stopped) :
    Yields before (effect >>= next) after stopped := by
  intro state holds
  have reached := first state holds
  rw [outcome_bind]
  revert reached
  rcases outcome effect state with ⟨_ | value, last⟩
  · exact id
  · exact second value last

theorem Yields.read {next : σ → ExceptT ε (StateM σ) β} {after : β → σ → Prop}
    (each : ∀ current, before current → Yields (fun state => state = current) (next current) after stopped) :
    Yields before (MonadState.get >>= next) after stopped := by
  intro state holds
  rw [outcome_bind_ok (outcome_get state)]
  exact each state holds state rfl

theorem Yields.ite {condition : Prop} [Decidable condition] {first second : ExceptT ε (StateM σ) α}
    {after : α → σ → Prop} (here : Yields before first after stopped) (there : Yields before second after stopped) :
    Yields before (if condition then first else second) after stopped := by
  split
  · exact here
  · exact there

theorem Yields.weaken {effect : ExceptT ε (StateM σ) α} {stronger : σ → Prop} {after : α → σ → Prop}
    (yields : Yields before effect after stopped) (implies : ∀ state, stronger state → before state) :
    Yields stronger effect after stopped := fun state holds => yields state (implies state holds)

theorem Yields.mono {effect : ExceptT ε (StateM σ) α} {after weaker : α → σ → Prop} {ended : ε → σ → Prop}
    (yields : Yields before effect after stopped) (result : ∀ value state, after value state → weaker value state)
    (failure : ∀ error state, stopped error state → ended error state) : Yields before effect weaker ended := by
  intro state holds
  have reached := yields state holds
  revert reached
  rcases outcome effect state with ⟨error | value, last⟩
  · exact failure error last
  · exact result value last

/-- A loop whose rounds keep a property. -/
theorem Yields.forM {list : List α} {effect : α → ExceptT ε (StateM σ) PUnit}
    (each : ∀ value ∈ list, Yields before (effect value) (fun _ => before) stopped) :
    Yields before (list.forM effect) (fun _ => before) stopped := by
  induction list with
  | nil => exact Yields.pure fun _ => id
  | cons value list ih =>
    exact Yields.bind (each value List.mem_cons_self) fun _ => ih fun other member =>
      each other (List.mem_cons_of_mem _ member)

theorem Yields.mapM {list : List α} {effect : α → ExceptT ε (StateM σ) β}
    (each : ∀ value ∈ list, Yields before (effect value) (fun _ => before) stopped) :
    Yields before (list.mapM effect) (fun _ => before) stopped := by
  induction list with
  | nil => exact Yields.pure fun _ => id
  | cons value list ih =>
    rw [List.mapM_cons]
    refine Yields.bind (each value List.mem_cons_self) fun first => ?_
    refine Yields.bind (ih fun other member => each other (List.mem_cons_of_mem _ member)) fun _ => ?_
    exact Yields.pure fun _ => id

end Yielding

/-- From states with a property the computation does not end with one of the errors, and
its result and the state it ends with are as described. -/
def Ends (bad : ε → Prop) (before : σ → Prop) (effect : ExceptT ε (StateM σ) α) (after : α → σ → Prop) : Prop :=
  ∀ state, before state →
    match outcome effect state with
    | (.ok value, last) => after value last
    | (.error error, _) => ¬ bad error

section Endings

variable {bad : ε → Prop} {before : σ → Prop}

theorem ends_iff {effect : ExceptT ε (StateM σ) α} {after : α → σ → Prop} :
    Ends bad before effect after ↔ Yields before effect after fun error _ => ¬ bad error := Iff.rfl

theorem Ends.pure {after : α → σ → Prop} {value : α} (holds : ∀ state, before state → after value state) :
    Ends bad before (pure value : ExceptT ε (StateM σ) α) after := holds

theorem Ends.throw {after : α → σ → Prop} {error : ε} (other : ¬ bad error) :
    Ends bad before (throw error : ExceptT ε (StateM σ) α) after := fun _ _ => other

theorem Ends.modifyGet {change : σ → α × σ} {after : α → σ → Prop}
    (holds : ∀ state, before state → after (change state).1 (change state).2) :
    Ends bad before (modifyGet change : ExceptT ε (StateM σ) α) after := holds

theorem Ends.modify {change : σ → σ} {after : PUnit → σ → Prop}
    (holds : ∀ state, before state → after ⟨⟩ (change state)) :
    Ends bad before (modify change : ExceptT ε (StateM σ) PUnit) after := holds

theorem Ends.bind {effect : ExceptT ε (StateM σ) α} {next : α → ExceptT ε (StateM σ) β} {middle : α → σ → Prop}
    {after : β → σ → Prop} (first : Ends bad before effect middle)
    (second : ∀ value, Ends bad (middle value) (next value) after) : Ends bad before (effect >>= next) after :=
  ends_iff.mpr (Yields.bind first second)

theorem Ends.read {next : σ → ExceptT ε (StateM σ) β} {after : β → σ → Prop}
    (each : ∀ current, before current → Ends bad (fun state => state = current) (next current) after) :
    Ends bad before (MonadState.get >>= next) after := ends_iff.mpr (Yields.read each)

theorem Ends.ite {condition : Prop} [Decidable condition] {first second : ExceptT ε (StateM σ) α}
    {after : α → σ → Prop} (here : Ends bad before first after) (there : Ends bad before second after) :
    Ends bad before (if condition then first else second) after := ends_iff.mpr (Yields.ite here there)

theorem Ends.weaken {effect : ExceptT ε (StateM σ) α} {stronger : σ → Prop} {after : α → σ → Prop}
    (ends : Ends bad before effect after) (implies : ∀ state, stronger state → before state) :
    Ends bad stronger effect after := ends_iff.mpr (Yields.weaken ends implies)

theorem Ends.forM {list : List α} {effect : α → ExceptT ε (StateM σ) PUnit}
    (each : ∀ value ∈ list, Ends bad before (effect value) fun _ => before) :
    Ends bad before (list.forM effect) fun _ => before := ends_iff.mpr (Yields.forM each)

theorem Ends.mapM {list : List α} {effect : α → ExceptT ε (StateM σ) β}
    (each : ∀ value ∈ list, Ends bad before (effect value) fun _ => before) :
    Ends bad before (list.mapM effect) fun _ => before := ends_iff.mpr (Yields.mapM each)

end Endings

section Acting

/-- The computation either fails, from every state, or gives this value and takes this step. -/
def Acts (fine : Prop) (value : α) (step : σ → σ) (effect : ExceptT ε (StateM σ) α) : Prop :=
  ∀ before result after, outcome effect before = (.ok result, after) ↔ fine ∧ value = result ∧ step before = after

theorem Acts.pure (value : α) : Acts True value id (pure value : ExceptT ε (StateM σ) α) :=
  fun before result after => by simp

theorem Acts.modify (change : σ → σ) : Acts True ⟨⟩ change (modify change : ExceptT ε (StateM σ) PUnit) :=
  fun before result after => by simp

theorem Acts.throw (error : ε) (value : α) (step : σ → σ) :
    Acts False value step (throw error : ExceptT ε (StateM σ) α) := fun before result after => by simp

variable {fine also : Prop} {value : α} {step : σ → σ} {effect : ExceptT ε (StateM σ) α}

theorem Acts.bind {next : α → ExceptT ε (StateM σ) β} {last : β} {second : σ → σ} (first : Acts fine value step effect)
    (rest : Acts also last second (next value)) :
    Acts (fine ∧ also) last (fun state => second (step state)) (effect >>= next) := by
  intro before result after
  rw [outcome_bind_eq_ok]
  constructor
  · rintro ⟨found, middle, acted, later⟩
    obtain ⟨holds, rfl, rfl⟩ := (first _ _ _).mp acted
    obtain ⟨others, same, reached⟩ := (rest _ _ _).mp later
    exact ⟨⟨holds, others⟩, same, reached⟩
  · rintro ⟨⟨holds, others⟩, same, reached⟩
    exact ⟨value, _, (first _ _ _).mpr ⟨holds, rfl, rfl⟩, (rest _ _ _).mpr ⟨others, same, reached⟩⟩

theorem Acts.seq {effect : ExceptT ε (StateM σ) PUnit} {next : ExceptT ε (StateM σ) β} {last : β} {second : σ → σ}
    (first : Acts fine ⟨⟩ step effect) (rest : Acts also last second next) :
    Acts (fine ∧ also) last (fun state => second (step state)) (effect >>= fun _ => next) := Acts.bind first rest

theorem Acts.congr {other : Prop} {again : σ → σ} (acts : Acts fine value step effect) (same : fine ↔ other)
    (steps : ∀ state, fine → step state = again state) : Acts other value again effect := by
  intro before result after
  rw [acts, same]
  exact and_congr_right fun holds => by rw [steps before (same.mpr holds)]

theorem Acts.ok (acts : Acts fine value step effect) (holds : fine) (before : σ) :
    outcome effect before = (.ok value, step before) := (acts _ _ _).mpr ⟨holds, rfl, rfl⟩

theorem Acts.result (acts : Acts fine value step effect) (holds : fine) (before : σ) :
    outcome effect before = (.ok value, (outcome effect before).2) := by
  rw [acts.ok holds]

/-- A loop takes the steps of its rounds one after the other, as long as none of them fails. -/
theorem Acts.mapM {list : List α} {body : α → ExceptT ε (StateM σ) β} {fine : α → Prop} {value : α → β}
    {step : α → σ → σ} (each : ∀ entry, Acts (fine entry) (value entry) (step entry) (body entry)) :
    Acts (∀ entry ∈ list, fine entry) (list.map value) (fun state => list.foldl (fun state entry => step entry state) state)
      (list.mapM body) := by
  induction list with
  | nil => exact (Acts.pure []).congr (by simp) fun _ _ => rfl
  | cons entry rest ih =>
    rw [List.mapM_cons]
    have others : Acts ((∀ other ∈ rest, fine other) ∧ True) (value entry :: rest.map value)
        (fun state => id (rest.foldl (fun state other => step other state) state))
        (rest.mapM body >>= fun values => Pure.pure (value entry :: values)) := Acts.bind ih (Acts.pure _)
    refine (Acts.bind (each entry) others).congr ?_ fun state _ => ?_
    · rw [List.forall_mem_cons, and_true]
    · rfl

end Acting

end Effects
