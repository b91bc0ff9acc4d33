import Athrill.Lib.Routine

/-!
# Two runs of a computation

What a computation depends on shows when it is run twice: if the two states
agree on that part, the runs end in the same way.

* `Paired V R`: two outcomes with results related by `V`, or with the same
  error, in states related by `R`.
* `Paired.andThen`: the second halves, after outcomes that are paired.
* `Parallel R x`: from related states, `x` ends with the same result in related
  states.  Like `Keeps`, the class follows the shape of the computation.
* `Parallel.restrict`: a relation together with a property of both states.
-/

namespace Routine

variable {σ ε α β γ δ : Type}

/-! ## Outcomes -/

/-- Two outcomes of the same kind. -/
inductive Paired (V : α → β → Prop) (R : σ → σ → Prop) :
    Except ε α × σ → Except ε β × σ → Prop
  | ok {a : α} {b : β} {s t : σ} (hV : V a b) (hR : R s t) : Paired V R (.ok a, s) (.ok b, t)
  | error {e : ε} {s t : σ} (hR : R s t) : Paired V R (.error e, s) (.error e, t)

namespace Paired

variable {V : α → β → Prop} {W : γ → δ → Prop} {R M : σ → σ → Prop}

/-- The second halves start from related results in related states. -/
theorem andThen {p : Except ε α × σ} {q : Except ε β × σ} (h : Paired V M p q)
    {f : α → Routine σ ε γ} {g : β → Routine σ ε δ} (hM : ∀ s t, M s t → R s t)
    (hf : ∀ a b s t, V a b → M s t → Paired W R ((f a).run s) ((g b).run t)) :
    Paired W R (Routine.andThen f p) (Routine.andThen g q) := by
  cases h with
  | ok hV hR => exact hf _ _ _ _ hV hR
  | error hR => exact .error (hM _ _ hR)

theorem mono {V' : α → β → Prop} {p : Except ε α × σ} {q : Except ε β × σ} (h : Paired V M p q)
    (hV : ∀ a b, V a b → V' a b) (hM : ∀ s t, M s t → R s t) : Paired V' R p q := by
  cases h with
  | ok hab hst => exact .ok (hV _ _ hab) (hM _ _ hst)
  | error hst => exact .error (hM _ _ hst)

/-- The states may be known to be related in another way too. -/
theorem and {S : σ → σ → Prop} {p : Except ε α × σ} {q : Except ε β × σ} (h : Paired V R p q)
    (hS : S p.2 q.2) : Paired V (fun s t => R s t ∧ S s t) p q := by
  cases h with
  | ok hV hR => exact .ok hV ⟨hR, hS⟩
  | error hR => exact .error ⟨hR, hS⟩

/-- The states of paired outcomes. -/
theorem state {p : Except ε α × σ} {q : Except ε β × σ} (h : Paired V R p q) : R p.2 q.2 := by
  cases h with
  | ok _ hR => exact hR
  | error hR => exact hR

/-- Outcomes with equal results are the same but for the state. -/
theorem result {p q : Except ε α × σ} (h : Paired Eq R p q) : p.1 = q.1 := by
  cases h with
  | ok hV _ => rw [hV]
  | error _ => rfl

end Paired

/-! ## Computations -/

/-- From related states, `x` ends with the same result in related states. -/
class Parallel (R : σ → σ → Prop) (x : Routine σ ε α) : Prop where
  paired : ∀ s t, R s t → Paired Eq R (x.run s) (x.run t)

section Parallel

variable {R : σ → σ → Prop}

instance parallel_pure (a : α) : Parallel R (pure a : Routine σ ε α) :=
  ⟨fun _ _ h => .ok rfl h⟩

instance parallel_stop (e : ε) : Parallel R (stop e : Routine σ ε α) :=
  ⟨fun _ _ h => .error h⟩

theorem parallel_gets {f : σ → α} (h : ∀ s t, R s t → f s = f t) :
    Parallel R (gets f : Routine σ ε α) :=
  ⟨fun s t hst => .ok (h s t hst) hst⟩

instance parallel_bind (x : Routine σ ε α) (f : α → Routine σ ε β) [hx : Parallel R x]
    [hf : ∀ a, Parallel R (f a)] : Parallel R (x >>= f) := by
  constructor
  intro s t hst
  rw [run_bind, run_bind]
  refine (hx.paired s t hst).andThen (fun _ _ h => h) ?_
  rintro a _ s' t' rfl hst'
  exact (hf a).paired s' t' hst'

instance parallel_ite (c : Prop) [Decidable c] (x y : Routine σ ε α) [hx : Parallel R x]
    [hy : Parallel R y] : Parallel R (if c then x else y) := by
  split_ifs
  · exact hx
  · exact hy

instance parallel_dite (c : Prop) [Decidable c] (x : c → Routine σ ε α) (y : ¬ c → Routine σ ε α)
    [hx : ∀ h, Parallel R (x h)] [hy : ∀ h, Parallel R (y h)] :
    Parallel R (if h : c then x h else y h) := by
  split_ifs with h
  · exact hx h
  · exact hy h

instance parallel_forM {κ : Type} (l : List κ) (body : κ → Routine σ ε PUnit)
    [hbody : ∀ a, Parallel R (body a)] : Parallel R (l.forM body) := by
  induction l with
  | nil => exact parallel_pure _
  | cons a l ih =>
    have hcons : (a :: l).forM body = body a >>= fun _ => l.forM body := rfl
    rw [hcons]
    infer_instance

/-- Both states may be known to have a property that `x` keeps. -/
theorem Parallel.restrict {K : σ → σ → Prop} {P : σ → Prop} {x : Routine σ ε α} (hx : Parallel R x)
    (hkeeps : Keeps K x) (hP : ∀ s s', K s s' → P s → P s') :
    Parallel (fun s t => R s t ∧ P s ∧ P t) x := by
  constructor
  intro s t ⟨hst, hs, ht⟩
  exact (hx.paired s t hst).and ⟨hP _ _ (hkeeps.keeps s) hs, hP _ _ (hkeeps.keeps t) ht⟩

end Parallel

end Routine
