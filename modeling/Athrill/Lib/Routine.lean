import Mathlib.Order.Defs.Unbundled
import Mathlib.Tactic.SplitIfs

/-!
# Stateful computations that can stop early

`Routine σ ε α` is a computation on a state `σ` that ends with a value or stops
with an error.  The state it has reached is kept when it stops, as in a C
function that returns an error code half way.

* `run`, with the equations `run_pure` to `run_modify`.
* `Keeps R x`: whatever the outcome, the state `x` leaves is related by `R` to
  the state it started from.  It is a class: for a reflexive and transitive `R`
  the instances follow the shape of the computation.
-/

/-- A computation on a state that can stop early and keeps the state. -/
def Routine (σ ε α : Type) : Type :=
  σ → Except ε α × σ

namespace Routine

variable {σ ε α β : Type}

/-! ## Operations -/

def run (x : Routine σ ε α) (s : σ) : Except ε α × σ :=
  x s

/-- The continuation of `bind`. -/
def andThen (f : α → Routine σ ε β) : Except ε α × σ → Except ε β × σ
  | (.ok a, s) => f a s
  | (.error e, s) => (.error e, s)

instance : Monad (Routine σ ε) where
  pure a := fun s => (.ok a, s)
  bind x f := fun s => andThen f (x s)

/-- Stop with an error. -/
def stop (e : ε) : Routine σ ε α :=
  fun s => (.error e, s)

def get : Routine σ ε σ :=
  fun s => (.ok s, s)

def gets (f : σ → α) : Routine σ ε α :=
  fun s => (.ok (f s), s)

def modify (f : σ → σ) : Routine σ ε Unit :=
  fun s => (.ok (), f s)

/-- A step given by its outcome and the state it leaves. -/
def lift (f : σ → Except ε α × σ) : Routine σ ε α :=
  f

@[simp] theorem run_pure (a : α) (s : σ) : (pure a : Routine σ ε α).run s = (.ok a, s) :=
  rfl

@[simp] theorem run_bind (x : Routine σ ε α) (f : α → Routine σ ε β) (s : σ) :
    (x >>= f).run s = andThen f (x.run s) :=
  rfl

@[simp] theorem run_stop (e : ε) (s : σ) : (stop e : Routine σ ε α).run s = (.error e, s) :=
  rfl

@[simp] theorem run_get (s : σ) : (get : Routine σ ε σ).run s = (.ok s, s) :=
  rfl

@[simp] theorem run_gets (f : σ → α) (s : σ) :
    (gets f : Routine σ ε α).run s = (.ok (f s), s) :=
  rfl

@[simp] theorem run_modify (f : σ → σ) (s : σ) :
    (modify f : Routine σ ε Unit).run s = (.ok (), f s) :=
  rfl

@[simp] theorem run_lift (f : σ → Except ε α × σ) (s : σ) : (lift f).run s = f s :=
  rfl

@[simp] theorem andThen_ok (f : α → Routine σ ε β) (a : α) (s : σ) :
    andThen f (.ok a, s) = (f a).run s :=
  rfl

@[simp] theorem andThen_error (f : α → Routine σ ε β) (e : ε) (s : σ) :
    andThen f (.error e, s) = (.error e, s) :=
  rfl

@[simp] theorem run_ite (c : Prop) [Decidable c] (x y : Routine σ ε α) (s : σ) :
    (if c then x else y).run s = if c then x.run s else y.run s := by
  split_ifs <;> rfl

/-- A computation that ends with a value went through its first half. -/
theorem bind_eq_ok {x : Routine σ ε α} {f : α → Routine σ ε β} {s s' : σ} {b : β}
    (h : (x >>= f).run s = (.ok b, s')) :
    ∃ a s₁, x.run s = (.ok a, s₁) ∧ (f a).run s₁ = (.ok b, s') := by
  rw [run_bind] at h
  rcases hx : x.run s with ⟨_ | a, s₁⟩
  · rw [hx, andThen_error] at h
    exact absurd (congrArg Prod.fst h) (by simp)
  · rw [hx, andThen_ok] at h
    exact ⟨a, s₁, rfl, h⟩

/-- A loop whose body skips some elements is the loop over the others. -/
theorem forM_filter {γ : Type} (p : γ → Bool) (body : γ → Routine σ ε PUnit) (l : List γ) :
    (l.forM fun a => if p a then body a else pure ⟨⟩) = (l.filter p).forM body := by
  induction l with
  | nil => rfl
  | cons a l ih =>
    have hcons (f : γ → Routine σ ε PUnit) (l : List γ) :
        (a :: l).forM f = f a >>= fun _ => l.forM f := rfl
    rw [hcons, ih, List.filter_cons]
    cases hp : p a with
    | true => rfl
    | false => rfl

/-! ## Relations kept by a computation -/

/-- The state left by `x` is related to the state it started from. -/
class Keeps (R : σ → σ → Prop) (x : Routine σ ε α) : Prop where
  keeps : ∀ s, R s (x.run s).2

section Keeps

variable {R : σ → σ → Prop}

instance keeps_pure [Std.Refl R] (a : α) : Keeps R (pure a : Routine σ ε α) :=
  ⟨fun s => refl_of R s⟩

instance keeps_stop [Std.Refl R] (e : ε) : Keeps R (stop e : Routine σ ε α) :=
  ⟨fun s => refl_of R s⟩

instance keeps_get [Std.Refl R] : Keeps R (get : Routine σ ε σ) :=
  ⟨fun s => refl_of R s⟩

instance keeps_gets [Std.Refl R] (f : σ → α) : Keeps R (gets f : Routine σ ε α) :=
  ⟨fun s => refl_of R s⟩

theorem keeps_modify {f : σ → σ} (h : ∀ s, R s (f s)) :
    Keeps R (modify f : Routine σ ε Unit) :=
  ⟨h⟩

theorem keeps_lift {f : σ → Except ε α × σ} (h : ∀ s, R s (f s).2) : Keeps R (lift f) :=
  ⟨h⟩

instance keeps_bind [IsTrans σ R] (x : Routine σ ε α) (f : α → Routine σ ε β)
    [hx : Keeps R x] [hf : ∀ a, Keeps R (f a)] : Keeps R (x >>= f) := by
  constructor
  intro s
  have hs := hx.keeps s
  rw [run_bind]
  rcases hrun : x.run s with ⟨_ | a, s₁⟩
  · rw [hrun] at hs
    exact hs
  · rw [hrun] at hs
    exact trans_of R hs ((hf a).keeps s₁)

instance keeps_ite (c : Prop) [Decidable c] (x y : Routine σ ε α)
    [hx : Keeps R x] [hy : Keeps R y] : Keeps R (if c then x else y) := by
  split_ifs
  · exact hx
  · exact hy

instance keeps_dite (c : Prop) [Decidable c] (x : c → Routine σ ε α) (y : ¬ c → Routine σ ε α)
    [hx : ∀ h, Keeps R (x h)] [hy : ∀ h, Keeps R (y h)] :
    Keeps R (if h : c then x h else y h) := by
  split_ifs with h
  · exact hx h
  · exact hy h

/-- A loop over a list keeps what each of its passes keeps. -/
instance keeps_forM [Std.Refl R] [IsTrans σ R] {γ : Type} (l : List γ)
    (body : γ → Routine σ ε PUnit) [hbody : ∀ a, Keeps R (body a)] :
    Keeps R (l.forM body) := by
  induction l with
  | nil => exact keeps_pure _
  | cons a l ih =>
    have hcons : (a :: l).forM body = body a >>= fun _ => l.forM body := rfl
    rw [hcons]
    infer_instance

theorem Keeps.mono {S : σ → σ → Prop} {x : Routine σ ε α} (hx : Keeps R x)
    (hRS : ∀ s s', R s s' → S s s') : Keeps S x :=
  ⟨fun s => hRS _ _ (hx.keeps s)⟩

end Keeps

end Routine
