import Mathlib.Data.Fintype.Card
import Mathlib.Data.Set.Finite.Basic
import Mathlib.Logic.Relation

/-! Relations without cycles: when a further pair closes one, and that a walk along a
relation with finitely many targets ends. -/

universe u v

variable {α : Type u} {relation other : α → α → Prop}

/-- No walk comes back to where it began. -/
def Acyclic (relation : α → α → Prop) : Prop := ∀ a, ¬ Relation.TransGen relation a a

theorem Acyclic.mono (acyclic : Acyclic relation) (fewer : ∀ a b, other a b → relation a b) : Acyclic other :=
  fun a cycle => acyclic a (Relation.TransGen.mono fewer a a cycle)

/-- Each pair climbs in an order. -/
theorem Acyclic.of_rank {β : Type v} [Preorder β] (rank : α → β) (climbs : ∀ a b, relation a b → rank a < rank b) :
    Acyclic relation := by
  intro a cycle
  have higher : ∀ b, Relation.TransGen relation a b → rank a < rank b := by
    intro b walk
    induction walk with
    | single step => exact climbs _ _ step
    | tail _ step ih => exact ih.trans (climbs _ _ step)
  exact (higher a cycle).false

/-- A walk with a further pair is a walk without it, or goes through it. -/
theorem transGen_insert {first last a b : α}
    (walk : Relation.TransGen (fun x y => relation x y ∨ x = first ∧ y = last) a b) :
    Relation.TransGen relation a b ∨
      Relation.ReflTransGen relation a first ∧ Relation.ReflTransGen relation last b := by
  induction walk with
  | single step =>
    rcases step with old | ⟨rfl, rfl⟩
    · exact .inl (.single old)
    · exact .inr ⟨.refl, .refl⟩
  | tail _ step ih =>
    rcases step with old | ⟨rfl, rfl⟩
    · rcases ih with walk | ⟨before, after⟩
      · exact .inl (walk.tail old)
      · exact .inr ⟨before, after.tail old⟩
    · rcases ih with walk | ⟨before, -⟩
      · exact .inr ⟨walk.to_reflTransGen, .refl⟩
      · exact .inr ⟨before, .refl⟩

theorem Acyclic.insert {first last : α} (acyclic : Acyclic relation)
    (apart : ¬ Relation.ReflTransGen relation last first) :
    Acyclic fun x y => relation x y ∨ x = first ∧ y = last := by
  intro a cycle
  rcases transGen_insert cycle with old | ⟨before, after⟩
  · exact acyclic a old
  · exact apart (after.trans before)

/-- Following an acyclic relation with finitely many targets comes to an end. -/
theorem Acyclic.wellFounded (acyclic : Acyclic relation) (finite : {b | ∃ a, relation a b}.Finite) :
    WellFounded (flip relation) := by
  have : Finite {b | ∃ a, relation a b} := finite
  let below (a b : {b | ∃ a, relation a b}) : Prop := Relation.TransGen relation b.1 a.1
  have : IsTrans _ below := ⟨fun _ _ _ first second => second.trans first⟩
  have : Std.Irrefl below := ⟨fun a => acyclic a.1⟩
  have ends : WellFounded below := Finite.wellFounded_of_trans_of_irrefl below
  have target (b : {b | ∃ a, relation a b}) : Acc (flip relation) b.1 := by
    induction b using ends.induction with
    | _ b ih => exact Acc.intro _ fun c step => ih ⟨c, b.1, step⟩ (.single step)
  exact ⟨fun a => Acc.intro _ fun b step => target ⟨b, a, step⟩⟩
