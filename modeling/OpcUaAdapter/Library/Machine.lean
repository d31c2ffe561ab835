import Mathlib.Algebra.Ring.Nat
import Mathlib.Data.List.Infix

/-! Machines whose steps are chosen by a list of actions. A run remembers every
move it made, so a property of the whole history is a property of its moves.
Nothing here depends on what the states, actions and events stand for. -/

universe u v w

/-- A machine either refuses an action in a state, or reports an event and moves on. -/
structure Machine (σ : Type u) (α : Type v) (ε : Type w) where
  step : α → σ → Option (ε × σ)

namespace Machine

structure Move (σ : Type u) (α : Type v) (ε : Type w) where
  before : σ
  action : α
  event : ε
deriving DecidableEq

variable {σ : Type u} {α : Type v} {ε : Type w} {machine : Machine σ α ε}

inductive Run (machine : Machine σ α ε) (first : σ) : List (Move σ α ε) → σ → Prop where
  | start : Run machine first [] first
  | next {moves before action event after} (run : Run machine first moves before)
      (moved : machine.step action before = some (event, after)) :
      Run machine first (moves ++ [⟨before, action, event⟩]) after

/-- Induction over a run: what holds at the start and survives each move holds at the end. -/
theorem Run.invariant {first last : σ} {moves : List (Move σ α ε)} (run : machine.Run first moves last)
    (property : List (Move σ α ε) → σ → Prop) (initial : property [] first)
    (preserved : ∀ moves before action event after, property moves before →
      machine.step action before = some (event, after) →
      property (moves ++ [⟨before, action, event⟩]) after) : property moves last := by
  induction run with
  | start => exact initial
  | next _ moved ih => exact preserved _ _ _ _ _ ih moved

theorem Run.trans {first middle last : σ} {earlier later : List (Move σ α ε)}
    (run : machine.Run first earlier middle) (rest : machine.Run middle later last) :
    machine.Run first (earlier ++ later) last := by
  induction rest with
  | start => simpa using run
  | next _ moved ih =>
    rw [← List.append_assoc]
    exact ih.next moved

theorem Run.single {before after : σ} {action : α} {event : ε}
    (moved : machine.step action before = some (event, after)) :
    machine.Run before [⟨before, action, event⟩] after :=
  Run.start.next moved

/-- A move of a run was possible in a state that the moves before it reach. -/
theorem Run.split {first last : σ} {moves : List (Move σ α ε)} (run : machine.Run first moves last)
    {move : Move σ α ε} (member : move ∈ moves) :
    ∃ earlier after, earlier ++ [move] <+: moves ∧ machine.Run first earlier move.before ∧
      machine.step move.action move.before = some (move.event, after) := by
  induction run with
  | start => cases member
  | @next moves before action event after run moved ih =>
    rcases List.mem_append.mp member with old | new
    · obtain ⟨earlier, state, inside, reached, possible⟩ := ih old
      exact ⟨earlier, state, inside.trans (List.prefix_append _ _), reached, possible⟩
    · cases List.mem_singleton.mp new
      exact ⟨moves, after, List.prefix_rfl, run, moved⟩

/-- Moves of which each one lowers a measure that no other move raises are no more than
the measure at the start. -/
theorem Run.spends {first last : σ} {moves : List (Move σ α ε)} (run : machine.Run first moves last)
    (counted : Move σ α ε → Bool) (measure : σ → Nat) (allowed : α → Prop) (property : σ → Prop)
    (initial : property first) (fair : ∀ move ∈ moves, allowed move.action)
    (step : ∀ before action event after, property before → allowed action →
      machine.step action before = some (event, after) →
      property after ∧ measure after + (if counted ⟨before, action, event⟩ then 1 else 0) ≤ measure before) :
    property last ∧ measure last + moves.countP counted ≤ measure first := by
  induction run with
  | start => exact ⟨initial, by simp⟩
  | @next moves before action event after run moved ih =>
    obtain ⟨held, bounded⟩ := ih fun move member => fair move (List.mem_append_left _ member)
    obtain ⟨kept, lower⟩ := step before action event after held (fair ⟨before, action, event⟩ (by simp)) moved
    refine ⟨kept, ?_⟩
    rw [List.countP_append, List.countP_singleton]
    omega

/-- Moves that lower a measure are no more than the measure at the start and what the
other moves of the run have granted on top of it. -/
theorem Run.spendsGrants {first last : σ} {moves : List (Move σ α ε)} (run : machine.Run first moves last)
    (counted : Move σ α ε → Bool) (granted : Move σ α ε → Nat) (measure : σ → Nat) (allowed : α → Prop)
    (property : σ → Prop) (initial : property first) (fair : ∀ move ∈ moves, allowed move.action)
    (step : ∀ before action event after, property before → allowed action →
      machine.step action before = some (event, after) → property after ∧
        measure after + (if counted ⟨before, action, event⟩ then 1 else 0) ≤
          measure before + granted ⟨before, action, event⟩) :
    property last ∧ measure last + moves.countP counted ≤ measure first + (moves.map granted).sum := by
  induction run with
  | start => exact ⟨initial, by simp⟩
  | @next moves before action event after run moved ih =>
    obtain ⟨held, bounded⟩ := ih fun move member => fair move (List.mem_append_left _ member)
    obtain ⟨kept, lower⟩ := step before action event after held (fair ⟨before, action, event⟩ (by simp)) moved
    refine ⟨kept, ?_⟩
    rw [List.countP_append, List.countP_singleton, List.map_append, List.sum_append, List.map_singleton,
      List.sum_singleton]
    omega

def exec (machine : Machine σ α ε) : List α → σ → Option (List (Move σ α ε) × σ)
  | [], state => some ([], state)
  | action :: rest, state =>
    match machine.step action state with
    | none => none
    | some (event, after) =>
      (machine.exec rest after).map fun (moves, last) => (⟨state, action, event⟩ :: moves, last)

theorem exec_run {actions : List α} {first last : σ} {moves : List (Move σ α ε)}
    (executed : machine.exec actions first = some (moves, last)) : machine.Run first moves last := by
  induction actions generalizing first moves with
  | nil => cases executed; exact .start
  | cons action rest ih =>
    simp only [exec] at executed
    split at executed
    next => cases executed
    next event after moved =>
      obtain ⟨⟨later, final⟩, remaining, same⟩ := Option.map_eq_some_iff.mp executed
      cases same
      exact (Run.single moved).trans (ih remaining)

/-- What can be computed from an executed run holds of some run. -/
theorem exec_reaches {β : Type*} {actions : List α} {first : σ} {view : List (Move σ α ε) × σ → β} {value : β}
    (computed : (machine.exec actions first).map view = some value) :
    ∃ moves last, machine.Run first moves last ∧ view (moves, last) = value := by
  obtain ⟨⟨moves, last⟩, executed, same⟩ := Option.map_eq_some_iff.mp computed
  exact ⟨moves, last, exec_run executed, same⟩

end Machine
