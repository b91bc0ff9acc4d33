import Athrill.Can.Steps
import Athrill.Device.Clock

/-!
# The clock of the CAN controller

The controller works at the multiples of its divider and, between them, lowers
the interval of a halted machine to the next one.  At a multiple it leaves the
interval as it is, so the next step may pass any number of them.

* `DeviceClock.deviceSupplyClockCan`: one clock.
* `HaltStep`, `HaltedRun`: a halted machine, with a step of its own choice after
  each clock.
* `Overshoots`: the steps that pass a multiple.
* `ticks_exact`: a run visits every multiple if and only if no step overshoots.
-/

namespace Athrill

/-! ## One clock -/

/-- `device_supply_clock_can`; the sum in front of the division wraps. -/
def DeviceClock.deviceSupplyClockCan (devClock : DeviceClock) (canClockFd : BitVec 32) (bus : CanBus)
    (s : CanController) : Option (DeviceClock × CanController × List CanOutput) :=
  if devClock.clock % canClockFd.toNat = 0 then
    (s.deviceSupplyClockCan bus).map fun (s, outputs) => (devClock, s, outputs)
  else
    let nextClock :=
      add64 devClock.clock (canClockFd.toNat - 1) / canClockFd.toNat * canClockFd.toNat
    some (devClock.lowerInterval (sub64 nextClock devClock.clock), s, [])

section Supply

variable {fd : BitVec 32} {devClock devClock' : DeviceClock} {bus : CanBus} {s s' : CanController}
  {outputs : List CanOutput}

/-- At a multiple the controller works and the interval stays. -/
theorem supply_tick (htick : devClock.clock % fd.toNat = 0)
    (h : devClock.deviceSupplyClockCan fd bus s = some (devClock', s', outputs)) :
    devClock' = devClock ∧ s.deviceSupplyClockCan bus = some (s', outputs) := by
  unfold DeviceClock.deviceSupplyClockCan at h
  rw [if_pos htick] at h
  obtain ⟨⟨after, sent⟩, hsupply, heq⟩ := Option.map_eq_some_iff.mp h
  cases heq
  exact ⟨rfl, hsupply⟩

/-- Between the multiples the interval ends at the next one, unless the sum
wraps. -/
theorem supply_between (hfd : 0 < fd.toNat) (hne : devClock.clock % fd.toNat ≠ 0)
    (hclock : devClock.clock + (fd.toNat - 1) < 2 ^ 64)
    (h : devClock.deviceSupplyClockCan fd bus s = some (devClock', s', outputs)) :
    devClock'.minIntrInterval ≤ fd.toNat - devClock.clock % fd.toNat := by
  unfold DeviceClock.deviceSupplyClockCan at h
  rw [if_neg hne] at h
  cases h
  have hmod : devClock.clock % fd.toNat < fd.toNat := Nat.mod_lt _ hfd
  have hdiv := Nat.div_add_mod devClock.clock fd.toNat
  have hquot : (devClock.clock + (fd.toNat - 1)) / fd.toNat = devClock.clock / fd.toNat + 1 := by
    have hsplit : devClock.clock + (fd.toNat - 1) =
        (devClock.clock % fd.toNat - 1) + fd.toNat * (devClock.clock / fd.toNat + 1) := by
      rw [Nat.mul_add, Nat.mul_one]
      omega
    rw [hsplit, Nat.add_mul_div_left _ _ hfd, Nat.div_eq_of_lt (by omega), Nat.zero_add]
  have hnext : (devClock.clock / fd.toNat + 1) * fd.toNat =
      devClock.clock + (fd.toNat - devClock.clock % fd.toNat) := by
    rw [Nat.add_mul, Nat.one_mul, Nat.mul_comm]
    omega
  refine Nat.le_trans (DeviceClock.lowerInterval_le _ _) ?_
  rw [add64_of_lt hclock, hquot, hnext, sub64_of_le (by omega) (by omega)]
  omega

end Supply

/-! ## Halted runs -/

/-- One step of a halted machine: the clock is supplied, with the interval that
the device loop has set, and then advanced. -/
structure HaltStep where
  clock : Nat
  preset : Nat
  bus : CanBus
  advance : Nat
  before : CanController
  after : CanController
  outputs : List CanOutput

/-- The step is one of the machine: it advances by at most the interval that
the controller leaves. -/
def HaltStep.Valid (fd : BitVec 32) (step : HaltStep) : Prop :=
  ∃ devClock',
    (DeviceClock.mk step.clock true step.preset).deviceSupplyClockCan fd step.bus step.before =
        some (devClock', step.after, step.outputs) ∧
      1 ≤ step.advance ∧ step.advance ≤ devClock'.minIntrInterval ∧
      step.clock + step.advance < 2 ^ 64

/-- The halted steps from one clock and state to another. -/
inductive HaltedRun (fd : BitVec 32) : Nat → CanController → List HaltStep → Nat → CanController → Prop
  | nil (clock : Nat) (s : CanController) : HaltedRun fd clock s [] clock s
  | cons {step : HaltStep} {steps : List HaltStep} {stop : Nat} {s : CanController}
      (hstep : step.Valid fd)
      (hrest : HaltedRun fd (step.clock + step.advance) step.after steps stop s) :
      HaltedRun fd step.clock step.before (step :: steps) stop s

/-- The four parts of the controller ran at a clock. -/
def RunsAt (steps : List HaltStep) (clock : Nat) : Prop :=
  ∃ step ∈ steps, step.clock = clock ∧
    step.before.deviceSupplyClockCan step.bus = some (step.after, step.outputs)

/-- A step that starts at a multiple, or so late that the sum wraps, and passes
the next multiple. -/
def Overshoots (fd : BitVec 32) (step : HaltStep) : Prop :=
  (step.clock % fd.toNat = 0 ∨ 2 ^ 64 ≤ step.clock + (fd.toNat - 1)) ∧
    fd.toNat - step.clock % fd.toNat < step.advance

section Step

variable {fd : BitVec 32} {step : HaltStep}

theorem HaltStep.Valid.advance_pos (h : step.Valid fd) : 1 ≤ step.advance := by
  obtain ⟨_, _, hpos, _, _⟩ := h
  exact hpos

/-- A step visits its own clock. -/
theorem HaltStep.Valid.runs (h : step.Valid fd) (htick : step.clock % fd.toNat = 0) :
    step.before.deviceSupplyClockCan step.bus = some (step.after, step.outputs) := by
  obtain ⟨_, hsupply, _⟩ := h
  exact (supply_tick htick hsupply).2

/-- The multiples that a step passes. -/
theorem HaltStep.Valid.passes_iff (h : step.Valid fd) (hfd : 0 < fd.toNat) :
    (∃ m, fd.toNat ∣ m ∧ step.clock < m ∧ m < step.clock + step.advance) ↔
      Overshoots fd step := by
  rw [Ticks.exists_between_iff hfd]
  unfold Overshoots
  constructor
  · intro hlt
    refine ⟨?_, hlt⟩
    by_contra hnot
    obtain ⟨hne, hclock⟩ := not_or.mp hnot
    obtain ⟨devClock', hsupply, -, hle, -⟩ := h
    -- between the multiples, the interval ends at the next one
    have hbound := supply_between hfd hne (Nat.lt_of_not_le hclock) hsupply
    have hlt' : fd.toNat - step.clock % fd.toNat < step.advance := hlt
    have hbound' : devClock'.minIntrInterval ≤ fd.toNat - step.clock % fd.toNat := hbound
    omega
  · exact fun hover => hover.2

end Step

section Run

variable {fd : BitVec 32} {start stop : Nat} {s s' : CanController} {steps : List HaltStep}

theorem HaltedRun.le (h : HaltedRun fd start s steps stop s') : start ≤ stop := by
  induction h with
  | nil => exact Nat.le_refl _
  | cons _ _ ih => omega

/-- No step lies before the start. -/
theorem HaltedRun.le_clock (h : HaltedRun fd start s steps stop s') :
    ∀ step ∈ steps, start ≤ step.clock := by
  induction h with
  | nil => exact fun step hmem => absurd hmem List.not_mem_nil
  | cons hstep hrest ih =>
    intro later hmem
    rcases List.mem_cons.mp hmem with rfl | hmem
    · exact Nat.le_refl _
    · have hle := ih later hmem
      omega

/-- A halted run visits every multiple of the divider if and only if none of
its steps overshoots. -/
theorem ticks_exact (hfd : 0 < fd.toNat) (hrun : HaltedRun fd start s steps stop s') :
    (∀ m, fd.toNat ∣ m → start ≤ m → m < stop → RunsAt steps m) ↔
      ∀ step ∈ steps, ¬ Overshoots fd step := by
  induction hrun with
  | nil clock s =>
    constructor
    · exact fun _ step hmem => absurd hmem List.not_mem_nil
    · intro _ m _ hle hlt
      omega
  | @cons step steps stop s hstep hrest ih =>
    have hpos := hstep.advance_pos
    have hlater := hrest.le_clock
    have hstop := hrest.le
    constructor
    · intro hall later hmem hover
      rcases List.mem_cons.mp hmem with rfl | hmem
      · -- the multiple that is passed is not visited later
        obtain ⟨m, hdvd, hlt, hlt'⟩ := (hstep.passes_iff hfd).mpr hover
        obtain ⟨visitor, hvisitor, hclock, -⟩ := hall m hdvd (by omega) (by omega)
        rcases List.mem_cons.mp hvisitor with rfl | hvisitor
        · omega
        · have hle := hlater visitor hvisitor
          omega
      · refine ih.mp (fun m hdvd hle hlt => ?_) later hmem hover
        obtain ⟨visitor, hvisitor, hclock, hruns⟩ := hall m hdvd (by omega) hlt
        rcases List.mem_cons.mp hvisitor with rfl | hvisitor
        · omega
        · exact ⟨visitor, hvisitor, hclock, hruns⟩
    · intro hnone m hdvd hle hlt
      rcases Nat.lt_or_ge m (step.clock + step.advance) with hnear | hfar
      · rcases Nat.eq_or_lt_of_le hle with heq | hgt
        · have htick : step.clock % fd.toNat = 0 := by
            rw [heq]
            exact Nat.mod_eq_zero_of_dvd hdvd
          exact ⟨step, List.mem_cons_self .., heq, hstep.runs htick⟩
        · exact absurd ((hstep.passes_iff hfd).mp ⟨m, hdvd, hgt, hnear⟩)
            (hnone step (List.mem_cons_self ..))
      · obtain ⟨visitor, hvisitor, hclock, hruns⟩ :=
          ih.mpr (fun later hmem => hnone later (List.mem_cons_of_mem _ hmem)) m hdvd hfar hlt
        exact ⟨visitor, List.mem_cons_of_mem _ hvisitor, hclock, hruns⟩

end Run

/-! ## The controller after its initialisation -/

/-- A step of the controller after its initialisation, from clock 0. -/
def firstHaltStep (advance : Nat) : HaltStep where
  clock := 0
  preset := 100
  bus := promptBus
  advance := advance
  before := initialCan
  after := initialCan
  outputs := initialCan.canIntrRun

theorem valid_firstHaltStep {advance : Nat} (hpos : 1 ≤ advance) (hle : advance ≤ 100)
    (fd : BitVec 32) : (firstHaltStep advance).Valid fd := by
  have hclock : 0 + advance < 2 ^ 64 := by omega
  refine ⟨⟨0, true, 100⟩, ?_, hpos, hle, hclock⟩
  show (DeviceClock.mk 0 true 100).deviceSupplyClockCan fd promptBus initialCan = _
  unfold DeviceClock.deviceSupplyClockCan
  rw [if_pos (Nat.zero_mod _)]
  rfl

/-- A step to the next multiple. -/
theorem ticks_exact_first :
    (∀ m, (10 : BitVec 32).toNat ∣ m → 0 ≤ m → m < 10 → RunsAt [firstHaltStep 10] m) ↔
      ∀ step ∈ [firstHaltStep 10], ¬ Overshoots 10 step :=
  ticks_exact (by decide)
    (.cons (valid_firstHaltStep (by decide) (by decide) 10) (.nil 10 initialCan))

/-- With the divider 10, one step from clock 0 passes the multiple 10. -/
theorem tick_missed :
    HaltedRun 10 0 initialCan [firstHaltStep 25] 25 initialCan ∧
      (10 : BitVec 32).toNat ∣ 10 ∧ ¬ RunsAt [firstHaltStep 25] 10 := by
  refine ⟨.cons (valid_firstHaltStep (by decide) (by decide) 10) (.nil 25 initialCan),
    Nat.dvd_refl 10, ?_⟩
  rintro ⟨step, hmem, hclock, -⟩
  rw [List.mem_singleton.mp hmem] at hclock
  exact absurd hclock (by decide)

end Athrill
