import Mathlib.Logic.Relation
import Mathlib.Data.List.Basic

/-! An abstract write-behind queue. Items are accepted at the back, taken off the
front as one batch, and the batch is then settled as a whole or put back at the
front. What the queue is for is that no item is lost, doubled or overtaken. -/

universe u

inductive Fate where
  | delivered
  | discarded
deriving DecidableEq

inductive Place where
  | settled (fate : Fate)
  | inFlight
  | queued
deriving DecidableEq

structure Conveyor (α : Type u) where
  accepted : List α
  settled : List (α × Fate)
  inFlight : List α
  queued : List α

namespace Conveyor
variable {α : Type u}

def empty : Conveyor α := ⟨[], [], [], []⟩

inductive Step : Conveyor α → Conveyor α → Prop where
  | accept (belt : Conveyor α) (item : α) :
      Step belt { belt with accepted := belt.accepted ++ [item], queued := belt.queued ++ [item] }
  | take (belt : Conveyor α) (count : Nat) (idle : belt.inFlight = []) :
      Step belt { belt with inFlight := belt.queued.take count, queued := belt.queued.drop count }
  | settle (belt : Conveyor α) (fate : Fate) :
      Step belt { belt with settled := belt.settled ++ belt.inFlight.map (·, fate), inFlight := [] }
  | putBack (belt : Conveyor α) :
      Step belt { belt with inFlight := [], queued := belt.inFlight ++ belt.queued }

abbrev Reachable (belt : Conveyor α) : Prop := Relation.ReflTransGen Step empty belt

/-- The settled items, the batch in flight and the queue are, in this order, the
accepted items. Settlement never overtakes: a batch is always the oldest unsettled one. -/
def Conserved (belt : Conveyor α) : Prop :=
  belt.accepted = belt.settled.map Prod.fst ++ belt.inFlight ++ belt.queued

theorem Step.conserved {before after : Conveyor α} (step : Step before after)
    (kept : before.Conserved) : after.Conserved := by
  unfold Conserved at kept ⊢
  cases step with
  | accept item => simp [kept]
  | take count idle => simp [kept, idle]
  | settle fate => simp [kept, Function.comp_def]
  | putBack => simp [kept]

theorem Reachable.conserved {belt : Conveyor α} (reached : belt.Reachable) : belt.Conserved := by
  induction reached with
  | refl => rfl
  | tail _ step ih => exact step.conserved ih

def ofFate (belt : Conveyor α) (fate : Fate) : List α :=
  (belt.settled.filter fun item => item.2 = fate).map Prod.fst

/-- Where each accepted item is, in the order of acceptance. -/
def places (belt : Conveyor α) : List Place :=
  belt.settled.map (fun item => .settled item.2) ++
    (List.replicate belt.inFlight.length .inFlight ++ List.replicate belt.queued.length .queued)

def select (wanted : Place → Bool) (items : List α) (places : List Place) : List α :=
  ((items.zip places).filter fun item => wanted item.2).map Prod.fst

private theorem select_append (wanted : Place → Bool) {first second : List α} {before after : List Place}
    (size : first.length = before.length) :
    select wanted (first ++ second) (before ++ after) =
      select wanted first before ++ select wanted second after := by
  simp [select, List.zip_append size]

private theorem select_replicate (wanted : Place → Bool) (items : List α) (place : Place) :
    select wanted items (List.replicate items.length place) = if wanted place then items else [] := by
  induction items with
  | nil => simp [select]
  | cons item items ih =>
    simp only [select, List.length_cons, List.replicate_succ, List.zip_cons_cons] at ih ⊢
    by_cases keep : wanted place = true
    · simpa [keep] using ih
    · simpa [keep] using ih

private theorem select_settled (wanted : Place → Bool) (settled : List (α × Fate)) :
    select wanted (settled.map Prod.fst) (settled.map fun item => .settled item.2) =
      (settled.filter fun item => wanted (.settled item.2)).map Prod.fst := by
  induction settled with
  | nil => rfl
  | cons item rest ih =>
    simp only [select, List.map_cons, List.zip_cons_cons] at ih ⊢
    by_cases keep : wanted (.settled item.2) = true
    · simpa [keep] using ih
    · simpa [keep] using ih

theorem Conserved.select {belt : Conveyor α} (kept : belt.Conserved) (wanted : Place → Bool) :
    Conveyor.select wanted belt.accepted belt.places =
      (belt.settled.filter fun item => wanted (.settled item.2)).map Prod.fst ++
        ((if wanted .inFlight then belt.inFlight else []) ++ if wanted .queued then belt.queued else []) := by
  unfold Conserved at kept
  rw [kept, places, List.append_assoc, select_append _ (by simp), select_append _ (by simp),
    select_settled, select_replicate, select_replicate]

/-- Each accepted item has exactly one place, every collection holds exactly the
items placed there in acceptance order, and only discarded items are missing from
the sequence of all others. -/
structure Placement (places : List Place) (accepted delivered inFlight queued discarded : List α) : Prop where
  size : places.length = accepted.length
  remaining : select (· ≠ .settled .discarded) accepted places = delivered ++ inFlight ++ queued
  delivered : select (· = .settled .delivered) accepted places = delivered
  inFlight : select (· = .inFlight) accepted places = inFlight
  queued : select (· = .queued) accepted places = queued
  discarded : select (· = .settled .discarded) accepted places = discarded

theorem Conserved.placement {belt : Conveyor α} (kept : belt.Conserved) :
    Placement belt.places belt.accepted (belt.ofFate .delivered) belt.inFlight belt.queued
      (belt.ofFate .discarded) := by
  have others (fate : Fate) : decide (Place.settled fate ≠ .settled .discarded) = decide (fate = .delivered) := by
    cases fate <;> decide
  refine ⟨?_, ?_, ?_, ?_, ?_, ?_⟩
  · unfold Conserved at kept
    simp [kept, places]
  · rw [kept.select]
    simp only [others]
    simp [ofFate]
  all_goals simp [kept.select, ofFate]

end Conveyor
