import Athrill.Cpu.Reset
import Athrill.Lib.Run
import Athrill.Mpu.Frame

/-!
# Runs of the machine

The emulator core drives the processor from outside this repository: it clocks
the cores and the interrupt controller, lets the devices raise interrupts and
reports exceptions back.  A run is any interleaving of these steps from reset.
The second core loop of `device_supply_clock_intc` counts clocks of the device
and is left out.

* `Machine`: the cores, the interrupt controller, the devices and the cache.
* `machine`: the transition system.
* `WellFormed`, `wellFormed_of_reachable`: what holds in every reachable state.
* `Machine.clocks`: several clocks of one core in a row.
-/

namespace Athrill

open TargetCore

variable {D : Type}

/-! ## The machine -/

/-- `virtual_cpu` with the interrupt controller and the state behind the bus. -/
structure Machine (D : Type) where
  cores : CoreId → TargetCore
  elaps : CoreId → DoubleWord
  intc : Intc
  dev : D
  cache : CodeCache D
  decodedCode : OpDecodedCode

namespace Machine

/-- What a clock of core `c` works on. -/
def clockState (m : Machine D) (c : CoreId) : ClockState D where
  cpu := m.cores c
  intc := m.intc
  dev := m.dev
  elaps := m.elaps c
  cache := m.cache
  decodedCode := m.decodedCode

/-- The state after a clock of core `c`. -/
def putClockState (m : Machine D) (c : CoreId) (s : ClockState D) : Machine D where
  cores := Function.update m.cores c s.cpu
  elaps := Function.update m.elaps c s.elaps
  intc := s.intc
  dev := s.dev
  cache := s.cache
  decodedCode := s.decodedCode

/-- The state after a step that does not touch the instruction cache. -/
def putCpuState (m : Machine D) (c : CoreId) (s : CpuState D) : Machine D :=
  { m with cores := Function.update m.cores c s.cpu, intc := s.intc, dev := s.dev }

/-- Reset: `cpu_init` and `device_init_intc` on zeroed storage. -/
def reset (dev : D) : Machine D where
  cores := cpuInit
  elaps := fun _ => 0
  intc := deviceInitIntc
  dev := dev
  cache := CodeCache.empty D
  decodedCode := OpDecodedCode.bss

end Machine

/-! ## Steps -/

/-- What the emulator core can do next. -/
inductive MachineEvent where
  /-- `cpu_supply_clock`, with the addresses that have a container. -/
  | clock (c : CoreId) (cached : Word → Bool)
  | illegalAccess (c : CoreId)
  | illegalOpcodeTrap (c : CoreId)
  /-- One core's pass of `device_supply_clock_intc`. -/
  | intc (c : CoreId)
  /-- `intc_raise_intr`. -/
  | raiseIntr (intno : Nat)
  /-- The devices work. -/
  | device

/-- One step of the machine; none follows an undefined clock or a failed
assertion. -/
inductive MachineStep (p : Platform D) : MachineEvent → Machine D → Machine D → Prop
  | clock (m : Machine D) (c : CoreId) (cached : Word → Bool)
      (h : (cpuSupplyClock p cached (m.clockState c)).1 ≠ .undefined) :
      MachineStep p (.clock c cached) m
        (m.putClockState c (cpuSupplyClock p cached (m.clockState c)).2)
  | illegalAccess (m : Machine D) (c : CoreId) {b : Bool} {s : CpuIntc}
      (h : cpuIllegalAccess ⟨m.cores c, m.intc⟩ = some (b, s)) :
      MachineStep p (.illegalAccess c) m (m.putCpuState c ⟨s, m.dev⟩)
  | illegalOpcodeTrap (m : Machine D) (c : CoreId) :
      MachineStep p (.illegalOpcodeTrap c) m
        { m with cores := Function.update m.cores c (cpuIllegalOpcodeTrap (m.cores c)) }
  | intc (m : Machine D) (c : CoreId)
      (h : supplyClockReturns p.bus c (m.clockState c).toCpuState = true) :
      MachineStep p (.intc c) m
        (m.putCpuState c (supplyClockIntc p.bus c (m.clockState c).toCpuState))
  | raiseIntr (m : Machine D) (intno : Nat) :
      MachineStep p (.raiseIntr intno) m { m with intc := intcRaiseIntr intno m.intc }
  | device (m : Machine D) (dev : D) : MachineStep p .device m { m with dev := dev }

/-- The machine as a transition system. -/
def machine (p : Platform D) : TransitionSystem (Machine D) MachineEvent where
  init m := ∃ dev, m = Machine.reset dev
  step := MachineStep p

/-! ## What a step does to a core -/

/-- A step changes one core at most. -/
theorem cores_putCpuState (m : Machine D) (c i : CoreId) (s : CpuState D) :
    (m.putCpuState c s).cores i = if i = c then s.cpu else m.cores i := by
  show Function.update m.cores c s.cpu i = _
  rw [Function.update_apply]

theorem cores_putClockState (m : Machine D) (c i : CoreId) (s : ClockState D) :
    (m.putClockState c s).cores i = if i = c then s.cpu else m.cores i := by
  show Function.update m.cores c s.cpu i = _
  rw [Function.update_apply]

theorem sameUnits_setErrorInfo (cpu : TargetCore) (info : TargetMpuErrorInfo) :
    SameUnits cpu (setErrorInfo cpu info) :=
  ⟨⟨fun _ _ => rfl, ⟨info, rfl⟩, rfl⟩, fun _ _ => rfl⟩

theorem sameUnits_mpuSetError {cpu cpu' : TargetCore} (h : mpuSetError cpu = some cpu') :
    SameUnits cpu cpu' := by
  have hmea (data : Word) : SameUnits cpu (cpu.setSysreg2 .mea data) :=
    sameUnits_setSysreg2 (by decide) _ _
  have hmei (cpu : TargetCore) (data : Word) : SameUnits cpu (cpu.setSysreg2 .mei data) :=
    sameUnits_setSysreg2 (by decide) _ _
  unfold mpuSetError at h
  dsimp only at h
  split_ifs at h
  · cases h
    exact hmea _
  · rw [Option.map_eq_some_iff] at h
    obtain ⟨codeId, _, rfl⟩ := h
    exact (hmea _).trans (hmei _ _)

theorem sameUnits_targetMpuSetError {cpu cpu' : TargetCore} (h : targetMpuSetError cpu = some cpu') :
    SameUnits cpu cpu' := by
  unfold targetMpuSetError at h
  exact (sameUnits_setErrorInfo cpu _).trans (sameUnits_mpuSetError h)

theorem sameUnits_clearViolation (cpu : TargetCore) : SameUnits cpu (clearViolation cpu) :=
  ⟨⟨fun _ _ => rfl, ⟨_, rfl⟩, rfl⟩, fun _ _ => rfl⟩

/-- The report of a violation keeps the registers of the units. -/
theorem sameUnits_cpuIllegalAccess {s s' : CpuIntc} {b : Bool}
    (h : cpuIllegalAccess s = some (b, s')) : SameUnits s.cpu s'.cpu := by
  have hraise (exno : ExceptionId) {cpu : TargetCore}
      (hset : targetMpuSetError (intcRaiseException s.cpu.coreId exno s).cpu = some cpu) :
      SameUnits s.cpu cpu :=
    (sameUnits_intcRaiseException _ exno s).trans (sameUnits_targetMpuSetError hset)
  unfold cpuIllegalAccess at h
  dsimp only at h
  split_ifs at h
  · cases h
    exact SameUnits.refl _
  · simp only [Option.map_some, Option.some.injEq, Prod.mk.injEq] at h
    rw [← h.2]
    exact (sameUnits_intcRaiseException _ _ s).trans (sameUnits_clearViolation _)
  · simp only [Option.map_map, Option.map_eq_some_iff, Function.comp, Prod.mk.injEq] at h
    obtain ⟨cpu, hset, _, rfl⟩ := h
    exact (hraise _ hset).trans (sameUnits_clearViolation _)
  · simp only [Option.map_map, Option.map_eq_some_iff, Function.comp, Prod.mk.injEq] at h
    obtain ⟨cpu, hset, _, rfl⟩ := h
    exact (hraise _ hset).trans (sameUnits_clearViolation _)
  · simp only [Option.map_some, Option.some.injEq, Prod.mk.injEq] at h
    rw [← h.2]
    exact sameUnits_clearViolation _

theorem sameUnits_cpuIllegalOpcodeTrap (cpu : TargetCore) :
    SameUnits cpu (cpuIllegalOpcodeTrap cpu) := by
  unfold cpuIllegalOpcodeTrap
  extract_lets cpu₁ cpu₂ cpu₃ cpu₄
  have h₁ : SameUnits cpu cpu₁ := sameUnits_setSysreg2 (by decide) _ _
  have h₂ : SameUnits cpu₁ cpu₂ := sameUnits_setSysreg2 (by decide) _ _
  have h₃ : SameUnits cpu₂ cpu₃ := sameUnits_setSysreg2 (by decide) _ _
  have h₄ : SameUnits cpu₃ cpu₄ :=
    ((sameUnits_setPsw _ _).trans (sameUnits_setPsw _ _)).trans (sameUnits_setPsw _ _)
  exact (((h₁.trans h₂).trans h₃).trans h₄).trans (.of_eq rfl rfl rfl)

/-- Only a clock writes the registers of the units: every other step keeps those
of every core. -/
theorem sameUnits_machineStep {p : Platform D} {e : MachineEvent} {m m' : Machine D}
    (hstep : MachineStep p e m m') (he : ∀ c cached, e ≠ .clock c cached) (i : CoreId) :
    SameUnits (m.cores i) (m'.cores i) := by
  cases hstep with
  | clock _ c cached h => exact absurd rfl (he c cached)
  | illegalAccess _ c h =>
    rw [cores_putCpuState]
    split_ifs with hi
    · subst hi
      exact sameUnits_cpuIllegalAccess h
    · exact SameUnits.refl _
  | illegalOpcodeTrap _ c =>
    show SameUnits _ (Function.update m.cores c _ i)
    rw [Function.update_apply]
    split_ifs with hi
    · subst hi
      exact sameUnits_cpuIllegalOpcodeTrap _
    · exact SameUnits.refl _
  | intc _ c =>
    rw [cores_putCpuState]
    split_ifs with hi
    · subst hi
      exact sameUnits_supplyClockIntc p.bus i (m.clockState i).toCpuState
    · exact SameUnits.refl _
  | raiseIntr _ intno => exact SameUnits.refl _
  | device _ dev => exact SameUnits.refl _

/-! ## What holds in every reachable state -/

/-- Each core knows its number and has an up-to-date copy of its MPU registers,
and the instruction cache is in order. -/
structure WellFormed (p : Platform D) (m : Machine D) : Prop where
  coreId : ∀ c, (m.cores c).coreId = c
  synced : ∀ c, ConfigSynced (m.cores c)
  cache : ∀ c, CacheFormed p (m.clockState c)

theorem cacheFormed_reset (p : Platform D) (dev : D) (c : CoreId) :
    CacheFormed p ((Machine.reset dev).clockState c) :=
  ⟨fun _ _ h => absurd h (by simp [Machine.reset, Machine.clockState, CodeCache.empty]),
    fun _ => recordFormed_bss, recordFormed_bss⟩

theorem configSynced_targetMpuInit (cpu : TargetCore) : ConfigSynced (targetMpuInit cpu) := by
  unfold targetMpuInit
  generalize mpuInit cpu = cpu'
  exact (sameUnits_setErrorInfo (mpuSetConfig cpu') _).configSynced
    (configSynced_mpuSetConfig cpu')

theorem configSynced_cpuReset (cpu : TargetCore) : ConfigSynced (cpuReset cpu) := by
  have h := configSynced_targetMpuInit (privateCpuReset cpu)
  unfold cpuReset
  generalize targetMpuInit (privateCpuReset cpu) = cpu' at h ⊢
  have hsame : SameMpu cpu' { cpu' with
      fatalError := false
      currentCodeException := { isCodeException := false, exceptionType := none } } :=
    .of_eq rfl rfl rfl
  exact hsame.configSynced h

theorem coreId_mpuInit (cpu : TargetCore) : (mpuInit cpu).coreId = cpu.coreId := by
  have hfold (l : List (Fin 16)) (cpu : TargetCore) :
      (l.foldl (fun cpu index => cpu.setSysreg2 (mpat index) 0) cpu).coreId = cpu.coreId := by
    induction l generalizing cpu with
    | nil => rfl
    | cons index l ih => exact ih _
  unfold mpuInit
  extract_lets cpu₁ cpu₂ cpu₃ cpu₄ cpu₅
  rw [coreId_setSysreg2, hfold]
  rfl

theorem coreId_cpuReset (cpu : TargetCore) : (cpuReset cpu).coreId = cpu.coreId := by
  unfold cpuReset targetMpuInit
  have h : (mpuInit (privateCpuReset cpu)).coreId = cpu.coreId := coreId_mpuInit _
  generalize mpuInit (privateCpuReset cpu) = cpu' at h ⊢
  exact h

/-- A clock leaves its core in order. -/
theorem clock_synced {p : Platform D} (cached : Word → Bool) {s : ClockState D}
    (hform : CacheFormed p s) :
    SyncStep s.toCpuState (cpuSupplyClock p cached s).2.toCpuState := by
  have hout := cpuSupplyClock_outcome cached hform
  have haside {t t' : CpuState D} (h : Aside t t') : SyncStep t t' :=
    h.ordinaryStep.mpuStep.syncStep
  cases hcall : called p cached s with
  | none => exact haside (hout.idle hcall)
  | some c =>
    have hexec := (keeps_syncStep (hout.table c hcall) c.decodedCode).keeps c.state
    exact trans_of SyncStep (trans_of SyncStep (haside (hout.before c hcall)) hexec)
      (haside (hout.after c hcall))

theorem wellFormed_clock {p : Platform D} {m : Machine D} (h : WellFormed p m) (c : CoreId)
    (cached : Word → Bool) :
    WellFormed p (m.putClockState c (cpuSupplyClock p cached (m.clockState c)).2) := by
  obtain ⟨hsync, hcore⟩ := clock_synced cached (h.cache c)
  refine ⟨fun i => ?_, fun i => ?_, fun i => ?_⟩
  · rw [cores_putClockState]
    split_ifs with hi
    · subst hi
      exact hcore.trans (h.coreId i)
    · exact h.coreId i
  · rw [cores_putClockState]
    split_ifs with hi
    · subst hi
      exact hsync (h.synced i)
    · exact h.synced i
  · exact (cpuSupplyClock_outcome cached (h.cache c)).formed.of_eq rfl rfl

theorem wellFormed_of_sameMpu {p : Platform D} {m m' : Machine D} (h : WellFormed p m)
    (hmpu : ∀ i, SameMpu (m.cores i) (m'.cores i)) (hcache : m'.cache = m.cache)
    (hcode : m'.decodedCode = m.decodedCode) : WellFormed p m' := by
  refine ⟨fun i => (hmpu i).coreId.trans (h.coreId i), fun i => (hmpu i).configSynced (h.synced i),
    fun i => (h.cache i).of_eq hcache hcode⟩

theorem wellFormed_invariant (p : Platform D) : (machine p).Invariant (WellFormed p) where
  init m hm := by
    obtain ⟨dev, rfl⟩ := hm
    exact ⟨fun c => coreId_cpuReset _, fun c => configSynced_cpuReset _, cacheFormed_reset p dev⟩
  step e m m' h hstep := by
    cases hstep with
    | clock _ c cached _ => exact wellFormed_clock h c cached
    | illegalAccess _ c hacc =>
      exact wellFormed_of_sameMpu h
        (fun i => (sameUnits_machineStep (p := p) (.illegalAccess m c hacc) (fun _ _ => nofun)
          i).toSameMpu) rfl rfl
    | illegalOpcodeTrap _ c =>
      exact wellFormed_of_sameMpu h
        (fun i => (sameUnits_machineStep (p := p) (.illegalOpcodeTrap m c) (fun _ _ => nofun)
          i).toSameMpu) rfl rfl
    | intc _ c hret =>
      exact wellFormed_of_sameMpu h
        (fun i => (sameUnits_machineStep (p := p) (.intc m c hret) (fun _ _ => nofun)
          i).toSameMpu) rfl rfl
    | raiseIntr _ intno =>
      exact wellFormed_of_sameMpu h (fun _ => SameMpu.refl _) rfl rfl
    | device _ dev =>
      exact wellFormed_of_sameMpu h (fun _ => SameMpu.refl _) rfl rfl

/-- Every reachable state is well formed. -/
theorem wellFormed_of_reachable {p : Platform D} {m : Machine D}
    (h : (machine p).Reachable m) : WellFormed p m :=
  (wellFormed_invariant p).of_reachable h

/-! ## Clocks in a row -/

namespace Machine

/-- One clock of core `c`. -/
def clock (p : Platform D) (c : CoreId) (cached : Word → Bool) (m : Machine D) :
    StdReturn × Machine D :=
  let result := cpuSupplyClock p cached (m.clockState c)
  (result.1, m.putClockState c result.2)

/-- `n` clocks of core `c`. -/
def clocks (p : Platform D) (c : CoreId) (cached : Word → Bool) : Nat → Machine D → Machine D
  | 0, m => m
  | n + 1, m => clocks p c cached n (m.clock p c cached).2

/-- None of `n` clocks runs into undefined behaviour. -/
def clocksDefined (p : Platform D) (c : CoreId) (cached : Word → Bool) :
    Nat → Machine D → Bool
  | 0, _ => true
  | n + 1, m =>
    decide ((m.clock p c cached).1 ≠ .undefined) &&
      clocksDefined p c cached n (m.clock p c cached).2

end Machine

/-- Clocks that are defined lead to a reachable state. -/
theorem reachable_clocks {p : Platform D} {c : CoreId} {cached : Word → Bool} {n : Nat}
    {m : Machine D} (h : (machine p).Reachable m)
    (hdef : m.clocksDefined p c cached n = true) :
    (machine p).Reachable (m.clocks p c cached n) := by
  induction n generalizing m with
  | zero => exact h
  | succ n ih =>
    rw [Machine.clocksDefined, Bool.and_eq_true, decide_eq_true_eq] at hdef
    exact ih (h.step (.clock m c cached hdef.1)) hdef.2

/-- The same for a restricted run, when every clock meets the condition. -/
theorem reachable_guardedClocks {p : Platform D} {guard : MachineEvent → Machine D → Prop}
    {c : CoreId} {cached : Word → Bool} {n : Nat} {m : Machine D}
    (h : ((machine p).guarded guard).Reachable m) (hdef : m.clocksDefined p c cached n = true)
    (hguard : ∀ k < n, guard (.clock c cached) (m.clocks p c cached k)) :
    ((machine p).guarded guard).Reachable (m.clocks p c cached n) := by
  induction n generalizing m with
  | zero => exact h
  | succ n ih =>
    rw [Machine.clocksDefined, Bool.and_eq_true, decide_eq_true_eq] at hdef
    have hfirst : guard (.clock c cached) m := hguard 0 (Nat.succ_pos n)
    exact ih (h.step ⟨hfirst, .clock m c cached hdef.1⟩) hdef.2
      fun k hk => hguard (k + 1) (Nat.succ_lt_succ hk)

/-! ## A machine with nothing but a ROM -/

/-- The byte at an address of a ROM given by its halfwords. -/
def romByte (rom : Nat → HalfWord) (addr : Nat) : Byte :=
  let half := rom (addr / 2)
  if addr % 2 = 0 then half.truncate 8 else (half >>> 8).truncate 8

/-- A bus with a ROM that can be read and not written. -/
def romBus (rom : Nat → HalfWord) : Bus Unit where
  getData8 s addr := (some (romByte rom addr.toNat), s.view)
  getData16 s addr := (some (romByte rom (addr.toNat + 1) ++ romByte rom addr.toNat), s.view)
  getData32 s addr :=
    (some (romByte rom (addr.toNat + 3) ++ romByte rom (addr.toNat + 2) ++
      romByte rom (addr.toNat + 1) ++ romByte rom addr.toNat), s.view)
  putData8 s _ _ := (none, s.view)
  putData16 s _ _ := (none, s.view)
  putData32 s _ _ := (none, s.view)
  getPointer _ addr := some fun n => romByte rom (addr.toNat + n)
  storePointer _ _ _ := none

/-- A host whose operations all give zero. -/
def zeroHost : HostFloat Unit where
  fesetround _ d := d
  feclearexcept d := d
  fetestexcept _ := ⟨false, false, false, false, false⟩
  float _ _ _ _ d := (0, d)
  double _ _ _ d := (0, d)
  floatLess _ _ d := (false, d)
  floatEqual _ _ d := (false, d)
  doubleLess _ _ d := (false, d)
  doubleEqual _ _ d := (false, d)
  toFloat _ _ d := (0, d)
  toDouble _ _ d := (0, d)
  floatToInt _ _ _ d := (0, d)
  doubleToInt _ _ _ d := (0, d)

/-- A program from address 0 on; unused addresses hold `NOP`. -/
def romPlatform (program : List HalfWord) : Platform Unit where
  bus := romBus fun n => program.getD n 0
  mayStoreOnStackOverflow _ _ _ := true
  host := zeroHost

/-- The state of core 0 after reset. -/
def resetState : CpuState Unit := ((Machine.reset ()).clockState 0).toCpuState

/-- The same with values in `r1` and `r2`. -/
def operandState (r1 r2 : Word) : CpuState Unit :=
  { resetState with cpu :=
    { resetState.cpu with
      r := Function.update (Function.update resetState.cpu.r 1 r1) 2 r2 } }

theorem reachable_reset (p : Platform D) (dev : D) : (machine p).Reachable (Machine.reset dev) :=
  .init ⟨dev, rfl⟩

end Athrill
