import Athrill.Lib.Routine
import Mathlib.Data.List.Induction

/-!
# Runs that keep a journal

A device is driven by a list of events.  Each step gives what can be observed
of it, and a run that goes through gives the journal of these observations.

* `Succeeds`: a computation that ends with a value.
* `journal_induction`: a property of the events, the journal and the state is
  proved for one more step.
* `journal_ok_iff`: the runs that go through, when every state of the run
  decides alike which events do.
* `watched`, `watched_induction`: the same with a journal of the events and the
  states around them.
-/

namespace Routine

variable {σ ε α β ℓ ω : Type}

instance : LawfulMonad (Routine σ ε) :=
  .mk' _
    (fun x => by
      funext s
      show andThen _ (x s) = x s
      rcases x s with ⟨_ | _, _⟩ <;> rfl)
    (fun _ _ => rfl)
    (fun x f g => by
      funext s
      show andThen g (andThen f (x s)) = andThen _ (x s)
      rcases x s with ⟨_ | _, _⟩ <;> rfl)

/-- The computation ends with a value. -/
def Succeeds (x : Routine σ ε α) (s : σ) : Prop :=
  ∃ a s', x.run s = (.ok a, s')

theorem succeeds_pure (a : α) (s : σ) : Succeeds (pure a : Routine σ ε α) s :=
  ⟨a, s, rfl⟩

theorem succeeds_of_run {x : Routine σ ε α} {s s' : σ} {a : α} (h : x.run s = (.ok a, s')) :
    Succeeds x s :=
  ⟨a, s', h⟩

/-- After a first half that ends with a value, the second one decides. -/
theorem succeeds_bind_iff {x : Routine σ ε α} {f : α → Routine σ ε β} {s t : σ} {a : α}
    (h : x.run s = (.ok a, t)) : Succeeds (x >>= f) s ↔ Succeeds (f a) t := by
  unfold Succeeds
  simp only [run_bind, h, andThen_ok]

theorem Succeeds.bind {x : Routine σ ε α} {f : α → Routine σ ε β} {s : σ}
    (h : Succeeds (x >>= f) s) : Succeeds x s := by
  obtain ⟨b, s', h⟩ := h
  obtain ⟨a, t, hx, -⟩ := bind_eq_ok h
  exact ⟨a, t, hx⟩

/-- A second half that always ends with a value decides nothing. -/
theorem succeeds_bind_of_forall {x : Routine σ ε α} {f : α → Routine σ ε β} {s : σ}
    (hf : ∀ a t, Succeeds (f a) t) : Succeeds (x >>= f) s ↔ Succeeds x s := by
  refine ⟨Succeeds.bind, ?_⟩
  rintro ⟨a, t, h⟩
  exact (succeeds_bind_iff h).mpr (hf a t)

/-- The run over one more event. -/
theorem mapM_snoc_eq_ok {step : ℓ → Routine σ ε ω} {es : List ℓ} {e : ℓ} {os : List ω} {s s' : σ}
    (h : ((es ++ [e]).mapM step).run s = (.ok os, s')) :
    ∃ past o t, (es.mapM step).run s = (.ok past, t) ∧ (step e).run t = (.ok o, s') ∧
      os = past ++ [o] := by
  rw [List.mapM_append, List.mapM_cons, List.mapM_nil] at h
  obtain ⟨past, t, hpast, h⟩ := bind_eq_ok h
  obtain ⟨last, t', hlast, h⟩ := bind_eq_ok h
  obtain ⟨o, t'', ho, hlast⟩ := bind_eq_ok hlast
  obtain ⟨none, t''', hnone, hlast⟩ := bind_eq_ok hlast
  simp only [run_pure, Prod.mk.injEq, Except.ok.injEq] at h hlast hnone
  obtain ⟨rfl, rfl⟩ := h
  obtain ⟨rfl, rfl⟩ := hlast
  obtain ⟨rfl, rfl⟩ := hnone
  exact ⟨past, o, t, hpast, ho, rfl⟩

/-- A property of the events, the journal and the state holds after every run
if one more step keeps it. -/
theorem journal_induction {step : ℓ → Routine σ ε ω} {I : List ℓ → List ω → σ → Prop} {s : σ}
    (hinit : I [] [] s)
    (hstep : ∀ es os t e o t', I es os t → (step e).run t = (.ok o, t') →
      I (es ++ [e]) (os ++ [o]) t')
    {es : List ℓ} {os : List ω} {s' : σ} (h : (es.mapM step).run s = (.ok os, s')) :
    I es os s' := by
  induction es using List.reverseRecOn generalizing os s' with
  | nil =>
    rw [List.mapM_nil, run_pure, Prod.mk.injEq, Except.ok.injEq] at h
    obtain ⟨rfl, rfl⟩ := h
    exact hinit
  | append_singleton es e ih =>
    obtain ⟨past, o, t, hpast, ho, rfl⟩ := mapM_snoc_eq_ok h
    exact hstep es past t e o s' (ih hpast) ho

/-- A run goes through if and only if each of its events is one of those that
every state of the run lets through. -/
theorem journal_ok_iff {step : ℓ → Routine σ ε ω} {I : σ → Prop} {safe : ℓ → Prop}
    (hsafe : ∀ t e, I t → (Succeeds (step e) t ↔ safe e))
    (hstep : ∀ t e o t', I t → (step e).run t = (.ok o, t') → I t') {s : σ} (hs : I s)
    (es : List ℓ) :
    Succeeds (es.mapM step) s ↔ ∀ e ∈ es, safe e := by
  induction es generalizing s with
  | nil => exact iff_of_true ⟨[], s, by rw [List.mapM_nil, run_pure]⟩ nofun
  | cons e es ih =>
    rw [List.mapM_cons, List.forall_mem_cons]
    constructor
    · rintro ⟨os, s', h⟩
      obtain ⟨o, t, ho, h⟩ := bind_eq_ok h
      obtain ⟨rest, t', hrest, -⟩ := bind_eq_ok h
      exact ⟨(hsafe s e hs).mp ⟨o, t, ho⟩, (ih (hstep s e o t hs ho)).mp ⟨rest, t', hrest⟩⟩
    · rintro ⟨he, hes⟩
      obtain ⟨o, t, ho⟩ := (hsafe s e hs).mpr he
      obtain ⟨rest, t', hrest⟩ := (ih (hstep s e o t hs ho)).mpr hes
      refine ⟨o :: rest, t', ?_⟩
      rw [run_bind, ho, andThen_ok, run_bind, hrest, andThen_ok, run_pure]

/-! ## Steps with their states -/

/-- A step with the states around it. -/
structure LogEntry (ℓ σ ω : Type) where
  label : ℓ
  before : σ
  result : ω
  after : σ

/-- A step that also gives the states around it. -/
def watched (step : ℓ → Routine σ ε ω) (e : ℓ) : Routine σ ε (LogEntry ℓ σ ω) := do
  let before ← get
  let result ← step e
  let after ← get
  pure { label := e, before, result, after }

theorem watched_eq_ok {step : ℓ → Routine σ ε ω} {e : ℓ} {entry : LogEntry ℓ σ ω} {s s' : σ} :
    (watched step e).run s = (.ok entry, s') ↔
      (step e).run s = (.ok entry.result, s') ∧ entry = ⟨e, s, entry.result, s'⟩ := by
  unfold watched
  simp only [run_bind, run_get, andThen_ok]
  rcases hrun : (step e).run s with ⟨_ | result, t⟩
  · simp
  · simp only [andThen_ok, run_bind, run_get, run_pure, Prod.mk.injEq, Except.ok.injEq]
    constructor
    · rintro ⟨rfl, rfl⟩
      exact ⟨⟨rfl, rfl⟩, rfl⟩
    · rintro ⟨⟨hresult, rfl⟩, hentry⟩
      rw [hentry, hresult]
      exact ⟨rfl, rfl⟩

/-- A property of the watched steps and the state is proved for one more step. -/
theorem watched_induction {step : ℓ → Routine σ ε ω} {I : List (LogEntry ℓ σ ω) → σ → Prop}
    {s : σ}
    (hinit : I [] s)
    (hstep : ∀ log t e o t', I log t → (step e).run t = (.ok o, t') → I (log ++ [⟨e, t, o, t'⟩]) t')
    {es : List ℓ} {log : List (LogEntry ℓ σ ω)} {s' : σ}
    (h : (es.mapM (watched step)).run s = (.ok log, s')) : I log s' := by
  refine journal_induction (I := fun _ log t => I log t) hinit ?_ h
  intro _ log t e entry t' hlog hrun
  obtain ⟨hrun, hentry⟩ := watched_eq_ok.mp hrun
  rw [hentry]
  exact hstep log t e entry.result t' hlog hrun

/-- The journal has the events in order. -/
theorem labels_of_watched {step : ℓ → Routine σ ε ω} {es : List ℓ} {log : List (LogEntry ℓ σ ω)}
    {s s' : σ} (h : (es.mapM (watched step)).run s = (.ok log, s')) :
    log.map LogEntry.label = es := by
  refine journal_induction (I := fun es log _ => log.map LogEntry.label = es) rfl ?_ h
  intro es log t e entry t' hlog hrun
  rw [List.map_append, hlog, (watched_eq_ok.mp hrun).2]
  rfl

theorem succeeds_watched {step : ℓ → Routine σ ε ω} {e : ℓ} {s : σ} :
    Succeeds (watched step e) s ↔ Succeeds (step e) s := by
  constructor
  · rintro ⟨entry, s', h⟩
    exact succeeds_of_run (watched_eq_ok.mp h).1
  · rintro ⟨o, s', h⟩
    have hwatched : (watched step e).run s = (.ok ⟨e, s, o, s'⟩, s') :=
      watched_eq_ok.mpr ⟨h, rfl⟩
    exact succeeds_of_run hwatched

end Routine
