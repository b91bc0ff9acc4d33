import Athrill.Lib.Run

/-!
# Who has written a value

Along a run, a value that some steps may write and all others leave alone is
the one that the last of these steps has left.

* `startedAt`: the runs from one state.
* `Trace.last_writer`: the step that a changed value comes from.
-/

namespace TransitionSystem

variable {σ ℓ α : Type} {T : TransitionSystem σ ℓ} {s₀ s : σ}

/-- The system started in one state. -/
def startedAt (T : TransitionSystem σ ℓ) (s₀ : σ) : TransitionSystem σ ℓ where
  init s := s = s₀
  step := T.step

theorem Reachable.of_startedAt (h₀ : T.Reachable s₀) {past : List (ℓ × σ)}
    (h : (T.startedAt s₀).Trace past s) : T.Reachable s := by
  induction h with
  | init hinit =>
    cases hinit
    exact h₀
  | step _ hstep ih => exact .step ih hstep

/-- A step of the run may write the value and has left it as it is now; the
later steps do not write it. -/
def LeftBy (T : TransitionSystem σ ℓ) (writes : ℓ → σ → Prop) (f : σ → α)
    (past : List (ℓ × σ)) (s : σ) : Prop :=
  ∃ later l s₁ s₂ earlier, past = later ++ (l, s₁) :: earlier ∧ writes l s₁ ∧ T.step l s₁ s₂ ∧
    f s = f s₂ ∧ ∀ e ∈ later, ¬ writes e.1 e.2

/-- A value that differs from the one at the start has been left by the last
step that may write it. -/
theorem Trace.last_writer {writes : ℓ → σ → Prop} {f : σ → α} (h₀ : T.Reachable s₀)
    (hkept : ∀ l s s', T.Reachable s → T.step l s s' → ¬ writes l s → f s' = f s)
    {past : List (ℓ × σ)} (h : (T.startedAt s₀).Trace past s) (hne : f s ≠ f s₀) :
    T.LeftBy writes f past s := by
  induction h with
  | init hinit =>
    cases hinit
    exact absurd rfl hne
  | @step l s s' past hpast hstep ih =>
    by_cases hwrites : writes l s
    · exact ⟨[], l, s, s', past, rfl, hwrites, hstep, rfl, nofun⟩
    · have hsame : f s' = f s := hkept l s s' (h₀.of_startedAt hpast) hstep hwrites
      have hbefore : f s ≠ f s₀ := fun h => hne (hsame.trans h)
      obtain ⟨later, l₁, s₁, s₂, earlier, rfl, hwrites₁, hstep₁, hvalue, hlater⟩ := ih hbefore
      refine ⟨(l, s) :: later, l₁, s₁, s₂, earlier, rfl, hwrites₁, hstep₁, hsame.trans hvalue, ?_⟩
      intro e he
      rcases List.mem_cons.mp he with rfl | he
      · exact hwrites
      · exact hlater e he

end TransitionSystem
