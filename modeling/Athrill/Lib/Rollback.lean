import Athrill.Lib.Routine

/-!
# Computations that undo nothing because they change nothing

A computation faults when it stops with the error `e` or ends with a flag
raised that was not raised before.  It rolls back when a fault leaves the
state related by `R` to the one before.  Without an undo log this comes from
the order of the steps: those that can fault come first and keep `R`, those
that break `R` come last and cannot fault.

* `Faulted`: the faults.
* `Calm`: with a value the flag is as before.
* `Unfailing`: no fault at all.
* `RollsBack`: a fault keeps `R`; the instances follow the shape of the
  computation.
* `OkThen`, `RollsBackIff`: when a fault keeps `R`, for a computation that does
  not always roll back.
-/

namespace Routine

variable {σ ε α β : Type}

/-- The error, or an end with a newly raised flag. -/
def Faulted (e : ε) (flag : σ → Bool) (x : Routine σ ε α) (s : σ) : Prop :=
  (x.run s).1 = .error e ∨
    (∃ a, (x.run s).1 = .ok a) ∧ flag s = false ∧ flag (x.run s).2 = true

/-- A computation that ends with a value leaves the flag as it was. -/
class Calm (flag : σ → Bool) (x : Routine σ ε α) : Prop where
  calm : ∀ s a s', x.run s = (.ok a, s') → flag s' = flag s

/-- A computation that does not stop with the error. -/
class Unfailing (e : ε) (x : Routine σ ε α) : Prop where
  result : ∀ s, (x.run s).1 ≠ .error e

/-- A fault leaves a state that is related to the one before. -/
class RollsBack (R : σ → σ → Prop) (e : ε) (flag : σ → Bool) (x : Routine σ ε α) : Prop where
  back : ∀ s, Faulted e flag x s → R s (x.run s).2

section Instances

variable {R : σ → σ → Prop} {e : ε} {flag : σ → Bool}

/-! ## Calm computations -/

instance calm_pure (a : α) : Calm flag (pure a : Routine σ ε α) where
  calm s a' s' h := by
    rw [run_pure] at h
    cases h
    rfl

instance calm_gets (f : σ → α) : Calm flag (gets f : Routine σ ε α) where
  calm s a s' h := by
    rw [run_gets] at h
    cases h
    rfl

theorem calm_modify {f : σ → σ} (h : ∀ s, flag (f s) = flag s) :
    Calm flag (modify f : Routine σ ε Unit) where
  calm s a s' hrun := by
    rw [run_modify] at hrun
    cases hrun
    exact h s

instance calm_stop (e' : ε) : Calm flag (stop e' : Routine σ ε α) where
  calm s a s' h := absurd (congrArg Prod.fst h) (by simp)

instance calm_bind (x : Routine σ ε α) (f : α → Routine σ ε β) [hx : Calm flag x]
    [hf : ∀ a, Calm flag (f a)] : Calm flag (x >>= f) where
  calm s b s' h := by
    obtain ⟨a, s₁, hfirst, hlast⟩ := bind_eq_ok h
    rw [(hf a).calm s₁ b s' hlast, hx.calm s a s₁ hfirst]

instance calm_ite (c : Prop) [Decidable c] (x y : Routine σ ε α) [hx : Calm flag x]
    [hy : Calm flag y] : Calm flag (if c then x else y) := by
  split_ifs
  · exact hx
  · exact hy

instance calm_dite (c : Prop) [Decidable c] (x : c → Routine σ ε α) (y : ¬ c → Routine σ ε α)
    [hx : ∀ h, Calm flag (x h)] [hy : ∀ h, Calm flag (y h)] :
    Calm flag (if h : c then x h else y h) := by
  split_ifs with h
  · exact hx h
  · exact hy h

instance calm_forM {γ : Type} (l : List γ) (body : γ → Routine σ ε PUnit)
    [hbody : ∀ a, Calm flag (body a)] : Calm flag (l.forM body) := by
  induction l with
  | nil => exact calm_pure _
  | cons a l ih =>
    have hcons : (a :: l).forM body = body a >>= fun _ => l.forM body := rfl
    rw [hcons]
    infer_instance

/-! ## Computations without the error -/

instance unfailing_pure (a : α) : Unfailing e (pure a : Routine σ ε α) where
  result s := by simp

instance unfailing_gets (f : σ → α) : Unfailing e (gets f : Routine σ ε α) where
  result s := by simp

instance unfailing_modify (f : σ → σ) : Unfailing e (modify f : Routine σ ε Unit) where
  result s := by simp

theorem unfailing_stop {e' : ε} (h : e' ≠ e) : Unfailing e (stop e' : Routine σ ε α) where
  result s := by simpa using h

instance unfailing_bind (x : Routine σ ε α) (f : α → Routine σ ε β) [hx : Unfailing e x]
    [hf : ∀ a, Unfailing e (f a)] : Unfailing e (x >>= f) where
  result s := by
    have hs := hx.result s
    rw [run_bind]
    rcases hrun : x.run s with ⟨e' | a, s₁⟩
    · rw [hrun] at hs
      rw [andThen_error]
      exact fun h => hs (congrArg Except.error (Except.error.inj h))
    · exact (hf a).result s₁

instance unfailing_ite (c : Prop) [Decidable c] (x y : Routine σ ε α) [hx : Unfailing e x]
    [hy : Unfailing e y] : Unfailing e (if c then x else y) := by
  split_ifs
  · exact hx
  · exact hy

instance unfailing_dite (c : Prop) [Decidable c] (x : c → Routine σ ε α)
    (y : ¬ c → Routine σ ε α) [hx : ∀ h, Unfailing e (x h)] [hy : ∀ h, Unfailing e (y h)] :
    Unfailing e (if h : c then x h else y h) := by
  split_ifs with h
  · exact hx h
  · exact hy h

/-! ## Computations that roll back -/

instance (priority := low) rollsBack_of_keeps (x : Routine σ ε α) [h : Keeps R x] :
    RollsBack R e flag x where
  back s _ := h.keeps s

/-- Without the error and a raised flag there is no fault. -/
theorem not_faulted (x : Routine σ ε α) [hresult : Unfailing e x] [hcalm : Calm flag x] (s : σ) :
    ¬ Faulted e flag x s := by
  rintro (herror | ⟨⟨a, hok⟩, hbefore, hafter⟩)
  · exact hresult.result s herror
  · have hflag := hcalm.calm s a (x.run s).2 (by rw [← hok])
    rw [hflag, hbefore] at hafter
    cases hafter

instance (priority := low) rollsBack_of_unfailing (x : Routine σ ε α) [Unfailing e x]
    [Calm flag x] : RollsBack R e flag x where
  back s hfault := absurd hfault (not_faulted x s)

/-- A fault of a sequence whose first half is calm is a fault of one half. -/
theorem faulted_bind {x : Routine σ ε α} {f : α → Routine σ ε β} [hcalm : Calm flag x] {s : σ}
    (h : Faulted e flag (x >>= f) s) :
    (∃ s', x.run s = (.error e, s') ∧ (x >>= f).run s = (.error e, s')) ∨
      ∃ a s', x.run s = (.ok a, s') ∧ Faulted e flag (f a) s' ∧
        (x >>= f).run s = (f a).run s' := by
  unfold Faulted at h
  rw [run_bind] at h
  rcases hrun : x.run s with ⟨e' | a, s'⟩
  · rw [hrun, andThen_error] at h
    rcases h with herror | ⟨⟨b, hok⟩, _⟩
    · obtain rfl : e' = e := by injection herror
      exact Or.inl ⟨s', rfl, by rw [run_bind, hrun, andThen_error]⟩
    · cases hok
  · rw [hrun, andThen_ok, ← hcalm.calm s a s' hrun] at h
    exact Or.inr ⟨a, s', rfl, h, by rw [run_bind, hrun, andThen_ok]⟩

/-- Before the last fault nothing is changed. -/
instance rollsBack_bind_keeps [IsTrans σ R] (x : Routine σ ε α) (f : α → Routine σ ε β)
    [hkeeps : Keeps R x] [hcalm : Calm flag x] [hf : ∀ a, RollsBack R e flag (f a)] :
    RollsBack R e flag (x >>= f) where
  back s hfault := by
    have hs := hkeeps.keeps s
    rcases faulted_bind hfault with ⟨s', hrun, hall⟩ | ⟨a, s', hrun, hfault', hall⟩
    · rw [hrun] at hs
      rw [hall]
      exact hs
    · rw [hrun] at hs
      rw [hall]
      exact trans_of R hs ((hf a).back s' hfault')

/-- After the last fault anything may be changed. -/
instance rollsBack_bind_unfailing (x : Routine σ ε α) (f : α → Routine σ ε β)
    [hback : RollsBack R e flag x] [hcalm : Calm flag x] [hf : ∀ a, Unfailing e (f a)]
    [hfcalm : ∀ a, Calm flag (f a)] : RollsBack R e flag (x >>= f) where
  back s hfault := by
    rcases faulted_bind hfault with ⟨s', hrun, hall⟩ | ⟨a, s', _, hfault', _⟩
    · have hs := hback.back s (Or.inl (by rw [hrun]))
      rw [hrun] at hs
      rw [hall]
      exact hs
    · exact absurd hfault' (not_faulted (f a) s')

instance rollsBack_ite (c : Prop) [Decidable c] (x y : Routine σ ε α) [hx : RollsBack R e flag x]
    [hy : RollsBack R e flag y] : RollsBack R e flag (if c then x else y) := by
  split_ifs
  · exact hx
  · exact hy

end Instances

/-! ## Conditions -/

/-- What holds after `x` if it ends with a value. -/
def OkThen (x : Routine σ ε α) (Q : α → σ → Prop) (s : σ) : Prop :=
  ∀ a s', x.run s = (.ok a, s') → Q a s'

theorem okThen_of_ok {x : Routine σ ε α} {Q : α → σ → Prop} {s s' : σ} {a : α}
    (h : x.run s = (.ok a, s')) : OkThen x Q s ↔ Q a s' := by
  constructor
  · intro hall
    exact hall a s' h
  · intro hq b s'' hrun
    rw [h] at hrun
    cases hrun
    exact hq

theorem okThen_of_error {x : Routine σ ε α} {Q : α → σ → Prop} {s s' : σ} {e : ε}
    (h : x.run s = (.error e, s')) : OkThen x Q s := by
  intro a s'' hrun
  rw [h] at hrun
  cases hrun

theorem okThen_pure {Q : α → σ → Prop} {a : α} {s : σ} :
    OkThen (pure a : Routine σ ε α) Q s ↔ Q a s :=
  okThen_of_ok rfl

theorem okThen_gets {f : σ → α} {Q : α → σ → Prop} {s : σ} :
    OkThen (gets f : Routine σ ε α) Q s ↔ Q (f s) s :=
  okThen_of_ok rfl

theorem okThen_bind {x : Routine σ ε α} {f : α → Routine σ ε β} {Q : β → σ → Prop} {s : σ} :
    OkThen (x >>= f) Q s ↔ OkThen x (fun a => OkThen (f a) Q) s := by
  rcases hrun : x.run s with ⟨e | a, s'⟩
  · have hall : (x >>= f).run s = (.error e, s') := by
      rw [run_bind, hrun, andThen_error]
    exact iff_of_true (okThen_of_error hall) (okThen_of_error hrun)
  · rw [okThen_of_ok hrun]
    have hall : (x >>= f).run s = (f a).run s' := by
      rw [run_bind, hrun, andThen_ok]
    unfold OkThen
    rw [hall]

/-- A fault of `x` keeps `R` exactly when the condition holds. -/
def RollsBackIff (R : σ → σ → Prop) (e : ε) (flag : σ → Bool) (x : Routine σ ε α)
    (P : σ → Prop) : Prop :=
  ∀ s, Faulted e flag x s → (R s (x.run s).2 ↔ P s)

section Conditions

variable {R : σ → σ → Prop} {e : ε} {flag : σ → Bool}

/-- Without a fault any condition will do. -/
theorem rollsBackIff_of_unfailing (x : Routine σ ε α) [Unfailing e x] [Calm flag x]
    (P : σ → Prop) : RollsBackIff R e flag x P :=
  fun s hfault => absurd hfault (not_faulted x s)

/-- Steps that change nothing move the condition to the state after them. -/
theorem rollsBackIff_bind [Std.Symm R] [IsTrans σ R] (x : Routine σ ε α) {f : α → Routine σ ε β}
    [hkeeps : Keeps R x] [hcalm : Calm flag x] {P : α → σ → Prop}
    (hf : ∀ a, RollsBackIff R e flag (f a) (P a)) :
    RollsBackIff R e flag (x >>= f) (OkThen x P) := by
  intro s hfault
  have hs := hkeeps.keeps s
  rcases faulted_bind hfault with ⟨s', hrun, hall⟩ | ⟨a, s', hrun, hfault', hall⟩
  · rw [hrun] at hs
    rw [hall]
    exact iff_of_true hs (okThen_of_error hrun)
  · rw [hrun] at hs
    rw [hall, okThen_of_ok hrun, ← hf a s' hfault']
    exact ⟨fun h => trans_of R (Std.Symm.symm _ _ hs) h, fun h => trans_of R hs h⟩

/-- A step that may change the state, before steps that roll back: what counts
is whether it has. -/
theorem rollsBackIff_change [Std.Symm R] [IsTrans σ R] (x : Routine σ ε α)
    {f : α → Routine σ ε β} [hback : RollsBack R e flag x] [hcalm : Calm flag x]
    [hf : ∀ a, RollsBack R e flag (f a)] :
    RollsBackIff R e flag (x >>= f) fun s => OkThen x (fun _ s' => R s s') s := by
  intro s hfault
  rcases faulted_bind hfault with ⟨s', hrun, hall⟩ | ⟨a, s', hrun, hfault', hall⟩
  · have hs := hback.back s (Or.inl (by rw [hrun]))
    rw [hrun] at hs
    rw [hall]
    exact iff_of_true hs (okThen_of_error hrun)
  · have hs := (hf a).back s' hfault'
    rw [hall]
    refine Iff.trans ?_ (okThen_of_ok hrun).symm
    exact ⟨fun h => trans_of R h (Std.Symm.symm _ _ hs), fun h => trans_of R h hs⟩

/-- Steps that cannot fault come after the condition is settled. -/
theorem RollsBackIff.bind {x : Routine σ ε α} {f : α → Routine σ ε β} {P : σ → Prop}
    (hx : RollsBackIff R e flag x P) [hcalm : Calm flag x] [hf : ∀ a, Unfailing e (f a)]
    [hfcalm : ∀ a, Calm flag (f a)] : RollsBackIff R e flag (x >>= f) P := by
  intro s hfault
  rcases faulted_bind hfault with ⟨s', hrun, hall⟩ | ⟨a, s', _, hfault', _⟩
  · have hs := hx s (Or.inl (by rw [hrun]))
    rw [hrun] at hs
    rw [hall]
    exact hs
  · exact absurd hfault' (not_faulted (f a) s')

theorem RollsBackIff.congr {x : Routine σ ε α} {P Q : σ → Prop} (h : RollsBackIff R e flag x P)
    (hPQ : ∀ s, P s ↔ Q s) : RollsBackIff R e flag x Q :=
  fun s hfault => (h s hfault).trans (hPQ s)

end Conditions

end Routine
