/-!
# Runs of a labelled transition system

A system has initial states and a step relation with labels.  A property of
every reachable state is proved once for the initial states and once for a
step; a condition on the steps restricts the runs without changing the system.

* `Reachable`: the states of the runs.
* `Invariant`, `Invariant.of_reachable`: the induction over a run.
* `guarded`: the runs whose steps all meet a condition.
* `Reachable.of_record`, `Reachable.exists_record`: a record that is kept beside
  the states of a run.
* `Meets`, `Reachable.foldl`: the same for a run given by its labels.
* `Trace`, `Trace.always_iff`: the condition on the steps under which a property
  holds all along a run.
* `lockstep`: two deterministic systems that agree step by step agree over
  every sequence of labels.
* `Unwinding`: two runs that differ in hidden labels.
-/

/-- A labelled transition system. -/
structure TransitionSystem (σ ℓ : Type) where
  init : σ → Prop
  step : ℓ → σ → σ → Prop

namespace TransitionSystem

variable {σ ℓ : Type} {T : TransitionSystem σ ℓ}

/-- The states that a run from an initial state reaches. -/
inductive Reachable (T : TransitionSystem σ ℓ) : σ → Prop
  | init {s : σ} (h : T.init s) : Reachable T s
  | step {l : ℓ} {s s' : σ} (h : Reachable T s) (hstep : T.step l s s') : Reachable T s'

/-- The property holds initially and every step preserves it. -/
structure Invariant (T : TransitionSystem σ ℓ) (I : σ → Prop) : Prop where
  init : ∀ s, T.init s → I s
  step : ∀ l s s', I s → T.step l s s' → I s'

theorem Invariant.of_reachable {I : σ → Prop} (hinv : T.Invariant I) {s : σ}
    (h : T.Reachable s) : I s := by
  induction h with
  | init hinit => exact hinv.init _ hinit
  | step _ hstep ih => exact hinv.step _ _ _ ih hstep

/-- A step may assume an invariant that is already known. -/
theorem Invariant.strengthen {I J : σ → Prop} (hI : T.Invariant I) (hinit : ∀ s, T.init s → J s)
    (hstep : ∀ l s s', I s → J s → T.step l s s' → J s') :
    T.Invariant fun s => I s ∧ J s where
  init s hs := ⟨hI.init s hs, hinit s hs⟩
  step l s s' h hs := ⟨hI.step l s s' h.1 hs, hstep l s s' h.1 h.2 hs⟩

/-! ## Conditions on the steps -/

/-- The system restricted to the steps that meet a condition. -/
def guarded (T : TransitionSystem σ ℓ) (guard : ℓ → σ → Prop) : TransitionSystem σ ℓ where
  init := T.init
  step l s s' := guard l s ∧ T.step l s s'

/-- A restricted run is a run. -/
theorem Reachable.of_guarded {guard : ℓ → σ → Prop} {s : σ} (h : (T.guarded guard).Reachable s) :
    T.Reachable s := by
  induction h with
  | init hinit => exact .init hinit
  | step _ hstep ih => exact .step ih hstep.2

/-- An invariant of the system is one of its restriction. -/
theorem Invariant.guarded {I : σ → Prop} (hI : T.Invariant I) (guard : ℓ → σ → Prop) :
    (T.guarded guard).Invariant I where
  init := hI.init
  step l s s' h hs := hI.step l s s' h hs.2

/-! ## A record beside the states -/

section Record

variable {τ : Type} {W : TransitionSystem (σ × τ) ℓ}

/-- A run with a record is a run. -/
theorem Reachable.of_record (hinit : ∀ w, W.init w → T.init w.1)
    (hstep : ∀ l w w', W.step l w w' → T.step l w.1 w'.1) {w : σ × τ} (h : W.Reachable w) :
    T.Reachable w.1 := by
  induction h with
  | init h => exact .init (hinit _ h)
  | step _ hlast ih => exact .step ih (hstep _ _ _ hlast)

/-- If the record can follow every step, every run has one. -/
theorem Reachable.exists_record (hinit : ∀ s, T.init s → ∃ r, W.init (s, r))
    (hstep : ∀ l s s' r, T.step l s s' → ∃ r', W.step l (s, r) (s', r')) {s : σ}
    (h : T.Reachable s) : ∃ r, W.Reachable (s, r) := by
  induction h with
  | init h =>
    obtain ⟨r, hr⟩ := hinit _ h
    exact ⟨r, .init hr⟩
  | step _ hlast ih =>
    obtain ⟨r, hr⟩ := ih
    obtain ⟨r', hr'⟩ := hstep _ _ _ r hlast
    exact ⟨r', .step hr hr'⟩

end Record

/-! ## Properties all along a run -/

/-- A run with its steps and the states before them, the last one first. -/
inductive Trace (T : TransitionSystem σ ℓ) : List (ℓ × σ) → σ → Prop
  | init {s : σ} (h : T.init s) : Trace T [] s
  | step {l : ℓ} {s s' : σ} {past : List (ℓ × σ)} (h : Trace T past s) (hstep : T.step l s s') :
    Trace T ((l, s) :: past) s'

theorem Trace.reachable {past : List (ℓ × σ)} {s : σ} (h : T.Trace past s) : T.Reachable s := by
  induction h with
  | init h => exact .init h
  | step _ hstep ih => exact .step ih hstep

/-- The steps of a restricted run. -/
theorem Reachable.exists_trace {guard : ℓ → σ → Prop} {s : σ} (h : (T.guarded guard).Reachable s) :
    ∃ past, T.Trace past s ∧ ∀ e ∈ past, guard e.1 e.2 := by
  induction h with
  | init h => exact ⟨[], .init h, nofun⟩
  | @step l s s' _ hlast ih =>
    obtain ⟨past, htrace, hpast⟩ := ih
    exact ⟨(l, s) :: past, .step htrace hlast.2, List.forall_mem_cons.mpr ⟨hlast.1, hpast⟩⟩

/-- If a condition decides whether a step keeps the property, in the states that
an invariant allows, the property holds all along a run if and only if all steps
meet the condition. -/
theorem Trace.always_iff_of_invariant {I P : σ → Prop} {guard : ℓ → σ → Prop}
    (hI : T.Invariant I) (hinit : ∀ s, T.init s → P s)
    (hstep : ∀ l s s', I s → P s → T.step l s s' → (P s' ↔ guard l s)) {past : List (ℓ × σ)}
    {s : σ} (h : T.Trace past s) :
    (∀ e ∈ past, P e.2) ∧ P s ↔ ∀ e ∈ past, guard e.1 e.2 := by
  have hall : I s ∧ ((∀ e ∈ past, P e.2) ∧ P s ↔ ∀ e ∈ past, guard e.1 e.2) := by
    induction h with
    | init h => exact ⟨hI.init _ h, iff_of_true ⟨nofun, hinit _ h⟩ nofun⟩
    | @step l s s' past _ hlast ih =>
      obtain ⟨hs, ih⟩ := ih
      refine ⟨hI.step l s s' hs hlast, ?_⟩
      rw [List.forall_mem_cons, List.forall_mem_cons]
      constructor
      · rintro ⟨⟨hkept, hpast⟩, hkept'⟩
        exact ⟨(hstep l s s' hs hkept hlast).mp hkept', ih.mp ⟨hpast, hkept⟩⟩
      · rintro ⟨hguard, hpast⟩
        obtain ⟨hbefore, hkept⟩ := ih.mpr hpast
        exact ⟨⟨hkept, hbefore⟩, (hstep l s s' hs hkept hlast).mpr hguard⟩
  exact hall.2

/-- The same when the condition decides it in every state. -/
theorem Trace.always_iff {P : σ → Prop} {guard : ℓ → σ → Prop} (hinit : ∀ s, T.init s → P s)
    (hstep : ∀ l s s', P s → T.step l s s' → (P s' ↔ guard l s)) {past : List (ℓ × σ)} {s : σ}
    (h : T.Trace past s) :
    (∀ e ∈ past, P e.2) ∧ P s ↔ ∀ e ∈ past, guard e.1 e.2 :=
  have htrue : T.Invariant fun _ => True := ⟨fun _ _ => trivial, fun _ _ _ _ _ => trivial⟩
  Trace.always_iff_of_invariant htrue hinit (fun l s s' _ hs hlast => hstep l s s' hs hlast) h

/-! ## Deterministic systems -/

/-- Every step of a deterministic run meets a condition on its label and the
state before it. -/
def Meets (f : ℓ → σ → σ) (guard : ℓ → σ → Prop) : List ℓ → σ → Prop
  | [], _ => True
  | l :: ls, s => guard l s ∧ Meets f guard ls (f l s)

/-- A deterministic run whose steps meet the condition is a restricted run. -/
theorem Reachable.foldl {guard : ℓ → σ → Prop} {f : ℓ → σ → σ}
    (hf : ∀ l s, T.step l s (f l s)) {s : σ} (h : (T.guarded guard).Reachable s)
    (ls : List ℓ) (hls : Meets f guard ls s) :
    (T.guarded guard).Reachable (ls.foldl (fun s l => f l s) s) := by
  induction ls generalizing s with
  | nil => exact h
  | cons l ls ih => exact ih (.step h ⟨hls.1, hf l s⟩) hls.2

/-! ## Two systems side by side -/

section Lockstep

variable {σ₁ σ₂ ω : Type}

/-- The outputs and the final state of a deterministic system over a sequence
of labels. -/
def outputs (f : ℓ → σ → ω × σ) : List ℓ → σ → List ω × σ
  | [], s => ([], s)
  | l :: ls, s =>
    let result := f l s
    let rest := outputs f ls result.2
    (result.1 :: rest.1, rest.2)

/-- Every step of the run meets a condition on its label and its two states. -/
def Along (f : ℓ → σ → ω × σ) (ok : ℓ → σ → σ → Prop) : List ℓ → σ → Prop
  | [], _ => True
  | l :: ls, s => ok l s (f l s).2 ∧ Along f ok ls (f l s).2

/-- Systems whose steps give the same output and keep a relation between their
states do so over a whole run, as long as its steps meet the conditions. -/
theorem lockstep {f : ℓ → σ₁ → ω × σ₁} {g : ℓ → σ₂ → ω × σ₂} {R : σ₁ → σ₂ → Prop}
    {okf : ℓ → σ₁ → σ₁ → Prop} {okg : ℓ → σ₂ → σ₂ → Prop}
    (hstep : ∀ l s t, R s t → okf l s (f l s).2 → okg l t (g l t).2 →
      (f l s).1 = (g l t).1 ∧ R (f l s).2 (g l t).2)
    (ls : List ℓ) {s : σ₁} {t : σ₂} (h : R s t) (hf : Along f okf ls s)
    (hg : Along g okg ls t) :
    (outputs f ls s).1 = (outputs g ls t).1 ∧ R (outputs f ls s).2 (outputs g ls t).2 := by
  induction ls generalizing s t with
  | nil => exact ⟨rfl, h⟩
  | cons l ls ih =>
    obtain ⟨hout, hnext⟩ := hstep l s t h hf.1 hg.1
    obtain ⟨houts, hlast⟩ := ih hnext hf.2 hg.2
    refine ⟨?_, hlast⟩
    show (f l s).1 :: (outputs f ls (f l s).2).1 = (g l t).1 :: (outputs g ls (g l t).2).1
    rw [hout, houts]

end Lockstep

/-! ## Runs that differ in hidden steps -/

section Unwinding

variable {ν : Type}

/-- What one step must do so that an observer who sees only a view of the
labels learns nothing about the hidden ones. -/
structure Unwinding (f : ℓ → σ → σ) (guard : ℓ → σ → Prop) (view : ℓ → Option ν)
    (R : σ → σ → Prop) : Prop where
  symm : ∀ s t, R s t → R t s
  hidden : ∀ l s t, view l = none → R s t → R (f l s) t
  visible : ∀ l l' v s t, view l = some v → view l' = some v → guard l s → guard l' t →
    R s t → R (f l s) (f l' t)

variable {f : ℓ → σ → σ} {guard : ℓ → σ → Prop} {view : ℓ → Option ν} {R : σ → σ → Prop}

/-- Hidden steps of the second run alone. -/
theorem Unwinding.hidden_run (h : Unwinding f guard view R) {s t : σ} (hR : R s t)
    (ls : List ℓ) (hls : ls.filterMap view = []) :
    R s (ls.foldl (fun t l => f l t) t) := by
  induction ls generalizing t with
  | nil => exact hR
  | cons l ls ih =>
    have hl : view l = none := List.filterMap_eq_nil_iff.mp hls l List.mem_cons_self
    rw [List.filterMap_cons_none hl] at hls
    exact ih (h.symm _ _ (h.hidden l t s hl (h.symm _ _ hR))) hls

/-- Runs with the same view keep the relation. -/
theorem Unwinding.run (h : Unwinding f guard view R) (ls ls' : List ℓ) {s t : σ} (hR : R s t)
    (hguard : Meets f guard ls s) (hguard' : Meets f guard ls' t)
    (hview : ls.filterMap view = ls'.filterMap view) :
    R (ls.foldl (fun s l => f l s) s) (ls'.foldl (fun t l => f l t) t) := by
  induction ls generalizing s t ls' with
  | nil => exact h.hidden_run hR ls' hview.symm
  | cons l ls ih =>
    cases hl : view l with
    | none =>
      rw [List.filterMap_cons_none hl] at hview
      exact ih ls' (h.hidden l s t hl hR) hguard.2 hguard' hview
    | some v =>
      rw [List.filterMap_cons_some hl] at hview
      -- the second run reaches the same label after some hidden ones
      induction ls' generalizing t with
      | nil => exact absurd hview (List.cons_ne_nil _ _)
      | cons l' ls' ih' =>
        cases hl' : view l' with
        | none =>
          rw [List.filterMap_cons_none hl'] at hview
          have hnext := h.symm _ _ (h.hidden l' t s hl' (h.symm _ _ hR))
          exact ih' hnext hguard'.2 hview
        | some v' =>
          rw [List.filterMap_cons_some hl', List.cons.injEq] at hview
          obtain ⟨hv, hrest⟩ := hview
          have hnext := h.visible l l' v s t hl (by rw [hl', hv]) hguard.1 hguard'.1 hR
          exact ih ls' hnext hguard.2 hguard'.2 hrest

end Unwinding

end TransitionSystem
