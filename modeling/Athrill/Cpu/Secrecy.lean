import Athrill.Cpu.Cached
import Athrill.Cpu.Isolation
import Athrill.Exec.Blind

/-!
# Memory that user mode cannot see

Two machines that differ in one byte of the memory go through the same events.
As long as every instruction is executed in user mode, and no region opens the
byte to loads there, the cores, the interrupt controller and the instruction
cache stay the same: nothing the program does depends on the byte.

The parser reads the instruction before the check, and the check is made for its
first halfword only.  A clock whose instruction could hold the byte is therefore
left out, as are interrupts and system calls whose tables hold it.

* `clock_sameClock`: one clock from states that differ in a byte out of reach.
* `intc_sameBut`: one pass of the interrupt controller.
* `twinRuns`: two machines under the same events.
* `hidden_byte_unseen`: the twins stay the same but for the byte.
-/

namespace Athrill

open TargetCore Routine ByteMemory

variable {D : Type}

/-! ## One clock -/

namespace ClockState

/-- The state with something else behind the bus. -/
abbrev withDev (s : ClockState D) (dev : D) : ClockState D :=
  { s with dev := dev }

theorem withDev_putDecodedCode (s : ClockState D) (dev : D) (cached : Bool) (pc : Word)
    (code : OpDecodedCode) :
    (s.withDev dev).putDecodedCode cached pc code = (s.putDecodedCode cached pc code).withDev dev := by
  cases cached <;> rfl

theorem withDev_fillSlot (s : ClockState D) (dev : D) (cached : Bool) (pc : Word)
    (codeId : OpCodeId) (executor : OpDecodedCode → Exec D Unit) :
    (s.withDev dev).fillSlot cached pc codeId executor =
      (s.fillSlot cached pc codeId executor).withDev dev := by
  cases cached <;> rfl

end ClockState

variable {low : D → D → Prop} {a : Word}

/-- Two clocks end with the same return value, in states that are the same but
for what lies behind the bus. -/
def SameClock (low : D → D → Prop) (p q : StdReturn × ClockState D) : Prop :=
  ∃ dev, low p.2.dev dev ∧ q = (p.1, p.2.withDev dev)

/-- What a clock writes itself leaves the byte out of reach. -/
theorem OutOfReach.of_aside {s s' : CpuState D} (h : OutOfReach s.cpu a) (haside : Aside s s') :
    OutOfReach s'.cpu a := by
  refine ⟨haside.ordinaryStep.not_granted h.load, ?_, fun vector => ?_⟩
  · rw [haside.pc]
    exact h.code
  · unfold syscallTableAddr getSysreg2
    rw [haside.sys]
    exact h.table vector

theorem sameClock_endClock {p q : StdReturn × ClockState D} (h : SameClock low p q) :
    SameClock low (endClock p) (endClock q) := by
  obtain ⟨dev, hlow, rfl⟩ := h
  unfold endClock
  dsimp only
  split_ifs
  · exact ⟨dev, hlow, rfl⟩
  · exact ⟨dev, hlow, rfl⟩

/-- The slot is filled after an execution that succeeds. -/
theorem sameClock_fillSlot {q r : StdReturn × ClockState D} (h : SameClock low q r)
    (cached : Bool) (pc : Word) (codeId : OpCodeId) (executor : OpDecodedCode → Exec D Unit) :
    SameClock low
      (if q.1 = .ok then (.ok, q.2.fillSlot cached pc codeId executor) else q)
      (if r.1 = .ok then (.ok, r.2.fillSlot cached pc codeId executor) else r) := by
  obtain ⟨dev, hlow, rfl⟩ := h
  dsimp only
  split_ifs
  · refine ⟨dev, ?_, ?_⟩
    · cases cached <;> exact hlow
    · rw [ClockState.withDev_fillSlot q.2 dev]
  · exact ⟨dev, hlow, rfl⟩

section Clock

variable {p : Platform D} (hp : BlindPlatform p low a)
include hp

/-- The call of an executor and the tests after it. -/
theorem sameClock_execCode {codeId : OpCodeId} {executor : OpDecodedCode → Exec D Unit}
    (hexec : opExecTable p codeId = some executor) (d : OpDecodedCode) {s : ClockState D} {dev : D}
    (hlow : low s.dev dev) (hout : OutOfReach s.cpu a) :
    SameClock low (execCode codeId (executor d) s)
      (execCode codeId (executor d) (s.withDev dev)) := by
  have haside : Aside s.toCpuState (s.modifyCpu fun cpu =>
      { cpu with realElaps := opExecClocks codeId }).toCpuState :=
    ⟨opExecClocks codeId, s.cpu.r, s.cpu.mpu.exceptionErrorInfo, s.cpu.currentCodeException, rfl⟩
  have hpair := paired_executor hp hexec d
    (s := (s.modifyCpu fun cpu => { cpu with realElaps := opExecClocks codeId }).toCpuState)
    (t := ((s.withDev dev).modifyCpu fun cpu =>
      { cpu with realElaps := opExecClocks codeId }).toCpuState)
    ⟨dev, hlow, rfl⟩ (hout.of_aside haside)
  unfold execCode
  dsimp only
  generalize (executor d).run _ = result at hpair ⊢
  generalize (executor d).run _ = result' at hpair ⊢
  cases hpair with
  | ok heq hsame =>
    subst heq
    obtain ⟨dev', hlow', rfl⟩ := hsame
    dsimp only
    split_ifs
    all_goals exact ⟨dev', hlow', rfl⟩
  | error hsame =>
    obtain ⟨dev', hlow', rfl⟩ := hsame
    dsimp only
    split_ifs
    all_goals exact ⟨dev', hlow', rfl⟩

/-- From the result of the parser on. -/
theorem sameClock_execParsed (cached : Bool) (pc : Word) (optype : OperationCode)
    (d : OpDecodedCode) {s : ClockState D} {dev : D} (hlow : low s.dev dev)
    (hout : OutOfReach s.cpu a) :
    SameClock low (execParsed p cached pc optype d s)
      (execParsed p cached pc optype d (s.withDev dev)) := by
  have haside := aside_permission s.toCpuState pc (opFormatSize d.typeId)
  unfold execParsed
  rw [ClockState.withDev_putDecodedCode s dev cached pc d]
  have hdev : (s.putDecodedCode cached pc d).dev = s.dev := by
    cases cached <;> rfl
  have hcpu : (s.putDecodedCode cached pc d).cpu = s.cpu := by
    cases cached <;> rfl
  generalize s.putDecodedCode cached pc d = s₁ at hdev hcpu ⊢
  have hout₁ : OutOfReach (cpuHasPermission s₁.cpu .exec pc (opFormatSize d.typeId)).2 a := by
    rw [hcpu]
    exact hout.of_aside haside
  rw [← hdev] at hlow
  dsimp only [ClockState.modifyCpu]
  split_ifs
  · exact ⟨dev, hlow, rfl⟩
  · exact ⟨dev, hlow, rfl⟩
  · cases hexec : opExecTable p optype.codeId with
    | none => exact ⟨dev, hlow, rfl⟩
    | some executor =>
      have hcall := sameClock_execCode hp hexec d (s := s₁.modifyCpu fun _ =>
        (cpuHasPermission s₁.cpu .exec pc (opFormatSize d.typeId)).2) hlow hout₁
      exact sameClock_fillSlot hcall cached pc optype.codeId executor

/-- The branch that is not cached. -/
theorem sameClock_cpuSupplyClockNotCached (cached : Bool) {s : ClockState D} {dev : D}
    (hlow : low s.dev dev) (hout : OutOfReach s.cpu a) :
    SameClock low (cpuSupplyClockNotCached p cached s)
      (cpuSupplyClockNotCached p cached (s.withDev dev)) := by
  have hpointer := hp.bus.pointer s.toCpuState dev s.cpu.pc hlow
  unfold cpuSupplyClockNotCached
  dsimp only
  generalize p.bus.getPointer s.toCpuState s.cpu.pc = bytes at hpointer ⊢
  generalize p.bus.getPointer _ s.cpu.pc = bytes' at hpointer ⊢
  cases hpointer with
  | none => exact ⟨dev, hlow, rfl⟩
  | @some bytes bytes' hbytes =>
    have hcode : SameDecode (currentCode bytes) (currentCode bytes') :=
      sameDecode_of_bytes fun n hn => (hbytes n (hout.code n (by omega))).symm
    have hrecord : (s.withDev dev).pDecodedCode cached s.cpu.pc = s.pDecodedCode cached s.cpu.pc := by
      cases cached <;> rfl
    dsimp only
    rw [hrecord, hcode]
    cases opParse (currentCode bytes) (s.pDecodedCode cached s.cpu.pc) with
    | none => exact ⟨dev, hlow, rfl⟩
    | some parsed => exact sameClock_execParsed hp cached _ parsed.1 parsed.2 hlow hout

/-- One clock. -/
theorem sameClock_cpuSupplyClock (cached : Word → Bool) {s : ClockState D} {dev : D}
    (hform : CacheFormed p s) (hlow : low s.dev dev) (hout : OutOfReach s.cpu a) :
    SameClock low (cpuSupplyClock p cached s) (cpuSupplyClock p cached (s.withDev dev)) := by
  have hout₁ : OutOfReach (s.modifyCpu clearR0).cpu a := hout.of_aside (aside_clearR0 s)
  have hform₁ : CacheFormed p (s.modifyCpu clearR0) := hform.of_eq rfl rfl
  have hlow₁ : low (s.modifyCpu clearR0).dev dev := hlow
  have hmodify : (s.withDev dev).modifyCpu clearR0 = (s.modifyCpu clearR0).withDev dev := rfl
  unfold cpuSupplyClock
  rw [hmodify]
  generalize s.modifyCpu clearR0 = s₁ at hout₁ hform₁ hlow₁ ⊢
  dsimp only
  split_ifs
  · exact ⟨dev, hlow, rfl⟩
  · exact ⟨dev, hlow, rfl⟩
  · cases hexec : (s₁.cache s₁.cpu.pc).opExec with
    | none =>
      exact sameClock_endClock (sameClock_cpuSupplyClockNotCached hp true hlow₁ hout₁)
    | some executor =>
      exact sameClock_endClock
        (sameClock_execCode hp (hform₁.opExec s₁.cpu.pc executor hexec) _ hlow₁ hout₁)
  · exact sameClock_endClock (sameClock_cpuSupplyClockNotCached hp false hlow₁ hout₁)

end Clock

/-! ## The interrupt controller -/

/-- The word for the interrupt that the core accepts next, in the table at
`INTBP`, does not hold the byte. -/
def HandlerAway (coreId : CoreId) (s : CpuIntc) (a : Word) : Prop :=
  ∀ exception ci, judgePendingException coreId (judgePendingUserIntr coreId s) = (some exception, ci) →
    ¬ Within (s.cpu.getSysreg2 .intbp + BitVec.ofNat 32 exception.intno * 4) 4 a

section Intc

variable {bus : Bus D} (hbus : BlindBus bus low a)
include hbus

/-- The address of a handler is read from a table that does not hold the byte. -/
theorem handlerAddr_same {s : CpuState D} {dev : D} (hlow : low s.dev dev)
    (exno : ExceptionId) {intno : Nat}
    (haway : ¬ Within (s.cpu.getSysreg2 .intbp + BitVec.ofNat 32 intno * 4) 4 a) :
    (intcGetExceptionHandlerAddr bus s exno intno = none ∧
      intcGetExceptionHandlerAddr bus (s.withDev dev) exno intno = none) ∨
    ∃ addr s' dev', low s'.dev dev' ∧
      intcGetExceptionHandlerAddr bus s exno intno = some (addr, s') ∧
      intcGetExceptionHandlerAddr bus (s.withDev dev) exno intno =
        some (addr, s'.withDev dev') := by
  have hload : ¬ LoadOf s.cpu a (s.cpu.getSysreg2 .intbp + BitVec.ofNat 32 intno * 4) 4 :=
    fun h => haway h.1
  obtain ⟨dev', hlow', hsame⟩ := hbus.get32 s dev _ hlow hload
  unfold intcGetExceptionHandlerAddr
  cases intcGetAddrRefmethod s.toCpuIntc intno with
  | rbaseRint0 => exact Or.inr ⟨_, s, dev, hlow, rfl, rfl⟩
  | rbaseRint1 => exact Or.inr ⟨_, s, dev, hlow, rfl, rfl⟩
  | ebaseRint0 => exact Or.inr ⟨_, s, dev, hlow, rfl, rfl⟩
  | ebaseRint1 => exact Or.inr ⟨_, s, dev, hlow, rfl, rfl⟩
  | table =>
    unfold intcGetHandlerAddrIntbp
    dsimp only
    by_cases huser : exno = .userIntr
    · rw [if_pos huser, if_pos huser, hsame]
      rcases hread : bus.getData32 s (s.cpu.getSysreg2 .intbp + BitVec.ofNat 32 intno * 4)
        with ⟨_ | _, v⟩
      · rw [hread] at hlow'
        exact Or.inr ⟨_, _, dev', hlow', rfl, rfl⟩
      · rw [hread] at hlow'
        exact Or.inr ⟨_, _, dev', hlow', rfl, rfl⟩
    · rw [if_neg huser, if_neg huser]
      exact Or.inl ⟨rfl, rfl⟩

/-- A handler starts in both states or in none. -/
theorem sameBut_raiseException (exception : ExceptionRequest) {s : CpuState D} {dev : D}
    (hlow : low s.dev dev)
    (haway : ¬ Within (s.cpu.getSysreg2 .intbp + BitVec.ofNat 32 exception.intno * 4) 4 a) :
    SameBut low (raiseException bus exception s)
        (raiseException bus exception (s.withDev dev)) := by
  have henter : EntryFrame s.cpu (enterException exception s).cpu :=
    kept_enterException exception s
  rw [← henter .intbp (by decide)] at haway
  unfold raiseException
  dsimp only
  rw [show enterException exception (s.withDev dev) = (enterException exception s).withDev dev
    from rfl]
  rcases handlerAddr_same hbus (s := enterException exception s) hlow exception.exno haway with
    ⟨hnone, hnone'⟩ | ⟨addr, s', dev', hlow', hsome, hsome'⟩
  · rw [hnone, hnone']
    exact ⟨dev, hlow, rfl⟩
  · rw [hsome, hsome']
    exact ⟨dev', hlow', rfl⟩

/-- One pass of the interrupt controller. -/
theorem sameBut_supplyClockIntc (coreId : CoreId) {s : CpuState D} {dev : D}
    (hlow : low s.dev dev) (haway : HandlerAway coreId s.toCpuIntc a) :
    SameBut low (supplyClockIntc bus coreId s) (supplyClockIntc bus coreId (s.withDev dev)) := by
  have huser : EntryFrame _ _ := kept_judgePendingUserIntr coreId s.toCpuIntc
  have hjudge : EntryFrame _ _ :=
    kept_judgePendingException coreId (judgePendingUserIntr coreId s.toCpuIntc)
  unfold supplyClockIntc
  dsimp only
  rcases hresult : judgePendingException coreId (judgePendingUserIntr coreId s.toCpuIntc)
    with ⟨_ | exception, ci⟩
  · exact ⟨dev, hlow, rfl⟩
  · rw [hresult] at hjudge
    have haway' := haway exception ci hresult
    rw [← (huser.trans hjudge) .intbp (by decide)] at haway'
    exact sameBut_raiseException hbus exception (s := { s with cpu := ci.cpu, intc := ci.intc })
      hlow haway'

end Intc

/-! ## Twins -/

/-- The machines are the same but for what lies behind the bus. -/
def Twins (low : D → D → Prop) (m n : Machine D) : Prop :=
  ∃ dev, low m.dev dev ∧ n = { m with dev := dev }

/-- No region opens the byte to loads in user mode, and the table of `SYSCALL`
does not hold it. -/
structure HiddenFromUser (cpu : TargetCore) (a : Word) : Prop where
  loads : UserProtected .read cpu a
  table : ∀ vector, ¬ Within (syscallTableAddr vector cpu) 4 a

/-- An instruction is executed in user mode and away from the byte, by one of
the cores; the address of a handler does not come from the byte, and what the
devices do does not depend on it. -/
def TwinEvent (low : D → D → Prop) (a : Word) (active : CoreId → Prop) :
    MachineEvent → Machine D × Machine D → Machine D × Machine D → Prop
  | .clock c _, q, _ => active c ∧ (q.1.cores c).issetUM = true ∧ CodeAway (q.1.cores c).pc a
  | .intc c, q, _ => HandlerAway c (q.1.clockState c).toCpuIntc a
  | .device, _, q' => low q'.1.dev q'.2.dev
  | _, _, _ => True

/-- Two machines under the same events. -/
def twinRuns (p : Platform D) (low : D → D → Prop) (a : Word) (active : CoreId → Prop)
    (m n : Machine D) : TransitionSystem (Machine D × Machine D) MachineEvent where
  init q := q = (m, n)
  step e q q' :=
    TwinEvent low a active e q q' ∧ MachineStep p e q.1 q'.1 ∧ MachineStep p e q.2 q'.2

section Twins

variable {p : Platform D} (hp : BlindPlatform p low a)

/-- What a clock in user mode keeps of the system registers. -/
theorem userClock_frame {p : Platform D} (cached : Word → Bool) {s : ClockState D}
    (hform : CacheFormed p s) (hum : s.cpu.issetUM = true) :
    SameMpu s.cpu (cpuSupplyClock p cached s).2.cpu ∧
      ∀ id, id ∉ entryRegs → id ∉ fpuStatusRegs →
        (cpuSupplyClock p cached s).2.cpu.getSysreg2 id = s.cpu.getSysreg2 id := by
  -- no byte is watched
  have hbus : CheckedStores p.bus fun _ _ => 0 :=
    ⟨fun _ _ => rfl, fun _ _ => rfl, fun _ _ => rfl, fun _ _ _ _ h => absurd rfl h,
      fun _ _ _ _ h => absurd rfl h, fun _ _ _ _ h => absurd rfl h, fun _ _ _ _ _ _ _ => rfl⟩
  have hquiet {α : Type} (f : D → α × D) : QuietEval (fun _ _ => 0) f := ⟨fun _ => rfl⟩
  have hhost : QuietHost p.host fun _ _ => 0 :=
    ⟨fun _ => hquiet _, hquiet _, fun _ _ _ _ => hquiet _, fun _ _ _ => hquiet _,
      fun _ _ => hquiet _, fun _ _ => hquiet _, fun _ _ => hquiet _, fun _ _ => hquiet _,
      fun _ _ => hquiet _, fun _ _ => hquiet _, fun _ _ _ => hquiet _, fun _ _ _ => hquiet _⟩
  have hclock := userClock hbus hhost 0 cached hform hum
  exact ⟨hclock.mpu, hclock.sys⟩

theorem HiddenFromUser.of_same {cpu cpu' : TargetCore} (h : HiddenFromUser cpu a)
    (hmpu : SameMpu cpu cpu') (hsys : ∀ id, id ∉ entryRegs → id ∉ fpuStatusRegs →
      cpu'.getSysreg2 id = cpu.getSysreg2 id) : HiddenFromUser cpu' a := by
  refine ⟨h.loads.of_same hmpu (hsys .asid (by decide) (by decide)), fun vector => ?_⟩
  unfold syscallTableAddr
  rw [hsys .sccfg (by decide) (by decide), hsys .scbp (by decide) (by decide)]
  exact h.table vector

/-- In user mode the byte is out of reach of an instruction that does not hold
it. -/
theorem HiddenFromUser.outOfReach {cpu : TargetCore} (h : HiddenFromUser cpu a)
    (hsync : ConfigSynced cpu) (hum : cpu.issetUM = true) (haway : CodeAway cpu.pc a)
    (hlow : 3 ≤ a.toNat) (hhigh : a.toNat + 3 < 2 ^ 32) : OutOfReach cpu a :=
  ⟨h.loads.not_granted (by decide) hsync hum hlow hhigh, haway, h.table⟩

include hp in
/-- A clock of twins. -/
theorem twins_clock (c : CoreId) (cached : Word → Bool) {m n : Machine D}
    (hform : WellFormed p m) (htwins : Twins low m n) (hout : OutOfReach (m.cores c) a) :
    (m.clock p c cached).1 = (n.clock p c cached).1 ∧
      Twins low (m.clock p c cached).2 (n.clock p c cached).2 := by
  obtain ⟨dev, hlow, rfl⟩ := htwins
  have hdev : low (m.clockState c).dev dev := hlow
  obtain ⟨dev', hlow', hsame⟩ := sameClock_cpuSupplyClock hp cached (hform.cache c) hdev hout
  unfold Machine.clock
  dsimp only
  have hclock : cpuSupplyClock p cached (({ m with dev := dev } : Machine D).clockState c) = _ :=
    hsame
  rw [hclock]
  exact ⟨rfl, dev', hlow', rfl⟩

include hp in
/-- A step of twins. -/
theorem twins_step {active : CoreId → Prop} (hfirst : 3 ≤ a.toNat) (hlast : a.toNat + 3 < 2 ^ 32)
    {e : MachineEvent} {q q' : Machine D × Machine D} (hevent : TwinEvent low a active e q q')
    (hstep : MachineStep p e q.1 q'.1) (hstep' : MachineStep p e q.2 q'.2)
    (hform : WellFormed p q.1) (htwins : Twins low q.1 q.2)
    (hhidden : ∀ c, active c → HiddenFromUser (q.1.cores c) a) :
    Twins low q'.1 q'.2 ∧ ∀ c, active c → HiddenFromUser (q'.1.cores c) a := by
  obtain ⟨m, n⟩ := q
  obtain ⟨m', n'⟩ := q'
  dsimp only at hstep hstep' hform htwins hhidden ⊢
  have hother (he : ∀ c cached, e ≠ .clock c cached) (c : CoreId) (hc : active c) :
      HiddenFromUser (m'.cores c) a :=
    (hhidden c hc).of_same (sameUnits_machineStep hstep he c).toSameMpu
      fun id hid _ => kept_machineStep (readKept_entryFrame p.bus) hstep he c id hid
  obtain ⟨dev, hlow, rfl⟩ := htwins
  cases hstep with
  | clock _ c cached _ =>
    cases hstep' with
    | clock _ _ _ _ =>
      obtain ⟨hc, hum, haway⟩ := hevent
      have hout := (hhidden c hc).outOfReach (hform.synced c) hum haway hfirst hlast
      obtain ⟨hmpu, hsys⟩ := userClock_frame cached (hform.cache c) hum
      refine ⟨(twins_clock hp c cached hform ⟨dev, hlow, rfl⟩ hout).2, fun i hi => ?_⟩
      rw [cores_putClockState]
      split_ifs with heq
      · subst heq
        exact (hhidden i hi).of_same hmpu hsys
      · exact hhidden i hi
  | illegalAccess _ c h =>
    cases hstep' with
    | illegalAccess _ _ h' =>
      have hsame := h.symm.trans h'
      cases hsame
      exact ⟨⟨dev, hlow, rfl⟩, hother fun _ _ => nofun⟩
  | illegalOpcodeTrap _ c =>
    cases hstep' with
    | illegalOpcodeTrap _ _ => exact ⟨⟨dev, hlow, rfl⟩, hother fun _ _ => nofun⟩
  | intc _ c _ =>
    cases hstep' with
    | intc _ _ _ =>
      refine ⟨?_, hother fun _ _ => nofun⟩
      have hdev : low (m.clockState c).toCpuState.dev dev := hlow
      obtain ⟨dev', hlow', hsame⟩ := sameBut_supplyClockIntc hp.bus c hdev hevent
      exact ⟨dev', hlow', congrArg (m.putCpuState c) hsame⟩
  | raiseIntr _ intno =>
    cases hstep' with
    | raiseIntr _ _ => exact ⟨⟨dev, hlow, rfl⟩, hother fun _ _ => nofun⟩
  | device _ dev₁ =>
    cases hstep' with
    | device _ dev₂ => exact ⟨⟨dev₂, hevent, rfl⟩, hother fun _ _ => nofun⟩

include hp in
/-- While every instruction is executed in user mode, machines that differ in a
byte hidden from it stay the same but for the byte: the cores, the interrupt
controller and the instruction cache do not depend on it, and neither does the
return value of a clock. -/
theorem hidden_byte_unseen {active : CoreId → Prop} (hfirst : 3 ≤ a.toNat)
    (hlast : a.toNat + 3 < 2 ^ 32) {m n m' n' : Machine D} (h : (machine p).Reachable m)
    (htwins : Twins low m n) (hhidden : ∀ c, active c → HiddenFromUser (m.cores c) a)
    (hrun : (twinRuns p low a active m n).Reachable (m', n')) :
    Twins low m' n' ∧ ∀ c cached, active c → (m'.cores c).issetUM = true →
      CodeAway (m'.cores c).pc a → (m'.clock p c cached).1 = (n'.clock p c cached).1 := by
  have hinv : (twinRuns p low a active m n).Invariant fun q =>
      WellFormed p q.1 ∧ Twins low q.1 q.2 ∧ ∀ c, active c → HiddenFromUser (q.1.cores c) a :=
    { init := by
        rintro _ rfl
        exact ⟨wellFormed_of_reachable h, htwins, hhidden⟩
      step := by
        rintro e q q' ⟨hform, hsame, hhid⟩ ⟨hevent, hstep, hstep'⟩
        exact ⟨(wellFormed_invariant p).step e q.1 q'.1 hform hstep,
          twins_step hp hfirst hlast hevent hstep hstep' hform hsame hhid⟩ }
  obtain ⟨hform, hsame, hhid⟩ := hinv.of_reachable hrun
  refine ⟨hsame, fun c cached hc hum haway => ?_⟩
  exact (twins_clock hp c cached hform hsame
    ((hhid c hc).outOfReach (hform.synced c) hum haway hfirst hlast)).1

end Twins

/-! ## A program that asks for the byte -/

/-- The memories agree but for the byte. -/
def AgreeBut (a : Word) (mem mem' : Memory 32) : Prop :=
  ∀ b, b ≠ a → mem b = mem' b

section Ram

variable {α : Type} {s : CpuState (Memory 32)} {mem : Memory 32} {addr : Word} {n : Nat}

theorem sameAccess_load (hn : n ≤ 4) (data : Nat → α) (hlow : AgreeBut a s.dev mem)
    (hno : ¬ LoadOf s.cpu a addr n) :
    SameAccess (AgreeBut a)
      (checkedAccess s .read addr n (data (load s.dev addr n)) s.dev)
      (checkedAccess (s.withDev mem) .read addr n (data (load mem addr n)) mem) := by
  unfold checkedAccess
  dsimp only
  split_ifs with hgranted
  · have hload : load s.dev addr n = load mem addr n := by
      refine load_congr fun i hi => hlow _ ?_
      intro heq
      have hin := within_add addr hi hn
      rw [heq] at hin
      exact hno ⟨hin, hgranted⟩
    rw [hload]
    exact ⟨mem, hlow, rfl⟩
  · exact ⟨mem, hlow, rfl⟩

theorem agreeBut_store (hlow : AgreeBut a s.dev mem) (value : Nat) :
    AgreeBut a (store s.dev addr n value) (store mem addr n value) := by
  intro b hb
  unfold store
  rw [hlow b hb]

theorem sameAccess_store (hlow : AgreeBut a s.dev mem) (value : Nat) :
    SameAccess (AgreeBut a)
      (checkedAccess s .write addr n () (store s.dev addr n value))
      (checkedAccess (s.withDev mem) .write addr n () (store mem addr n value)) := by
  unfold checkedAccess
  dsimp only
  split_ifs
  · exact ⟨store mem addr n value, agreeBut_store hlow value, rfl⟩
  · exact ⟨mem, hlow, rfl⟩

end Ram

theorem blindPlatform_ramPlatform (a : Word) : BlindPlatform ramPlatform (AgreeBut a) a where
  bus :=
    { get8 := fun _ _ _ hlow hno => sameAccess_load (by decide) (BitVec.ofNat 8) hlow hno
      get16 := fun _ _ _ hlow hno => sameAccess_load (by decide) (BitVec.ofNat 16) hlow hno
      get32 := fun _ _ _ hlow hno => sameAccess_load (by decide) (BitVec.ofNat 32) hlow hno
      put8 := fun _ _ _ data hlow => sameAccess_store hlow data.toNat
      put16 := fun _ _ _ data hlow => sameAccess_store hlow data.toNat
      put32 := fun _ _ _ data hlow => sameAccess_store hlow data.toNat
      pointer := fun _ _ _ hlow => .some fun _ hne => hlow _ hne
      storePointer := fun _ _ _ data hlow =>
        .some ⟨_, agreeBut_store hlow data.toNat, rfl⟩ }
  host :=
    { fesetround := fun _ => ⟨fun _ _ h => ⟨rfl, h⟩⟩
      feclearexcept := ⟨fun _ _ h => ⟨rfl, h⟩⟩
      fetestexcept := fun _ _ _ => rfl
      float := fun _ _ _ _ => ⟨fun _ _ h => ⟨rfl, h⟩⟩
      double := fun _ _ _ => ⟨fun _ _ h => ⟨rfl, h⟩⟩
      floatLess := fun _ _ => ⟨fun _ _ h => ⟨rfl, h⟩⟩
      floatEqual := fun _ _ => ⟨fun _ _ h => ⟨rfl, h⟩⟩
      doubleLess := fun _ _ => ⟨fun _ _ h => ⟨rfl, h⟩⟩
      doubleEqual := fun _ _ => ⟨fun _ _ h => ⟨rfl, h⟩⟩
      toFloat := fun _ _ => ⟨fun _ _ h => ⟨rfl, h⟩⟩
      toDouble := fun _ _ => ⟨fun _ _ h => ⟨rfl, h⟩⟩
      floatToInt := fun _ _ _ => ⟨fun _ _ h => ⟨rfl, h⟩⟩
      doubleToInt := fun _ _ _ => ⟨fun _ _ h => ⟨rfl, h⟩⟩ }
  overflow := fun _ _ _ => rfl

/-- The program of `storeProgram` up to its store, and then a load from above
the region. -/
def loadProgram : List HalfWord :=
  storeProgram.take 15 ++ [0x0F20, 0x2001]  -- LD.W 0x2000[r0], r1

/-- The state before the load. -/
def loadMachine : Machine (Memory 32) :=
  (Machine.reset (ramProgram loadProgram)).clocks ramPlatform 0 (fun _ => false) 8

/-- The same state with something else in the byte. -/
def loadTwin : Machine (Memory 32) :=
  { loadMachine with dev := Function.update loadMachine.dev 0x2000 0xFF }

theorem reachable_loadMachine : (machine ramPlatform).Reachable loadMachine :=
  reachable_clocks (reachable_reset _ _) (by decide +kernel)

theorem loadMachine_user :
    (loadMachine.cores 0).issetUM = true ∧
      ((loadMachine.cores 0).getSysreg2 .mpm).getLsbD mpmMPE = true ∧
      (∀ index, ((loadMachine.cores 0).getSysreg2 (mpat index)).getLsbD mpatE = true →
        ¬ InRegion (loadMachine.cores 0) index 0x2000) ∧
      (loadMachine.cores 0).getSysreg2 .sccfg = 0 ∧ (loadMachine.cores 0).getSysreg2 .scbp = 0 ∧
      (∀ i, i < 8 → (loadMachine.cores 0).pc + BitVec.ofNat 32 i ≠ 0x2000) ∧
      (cpuSupplyClock ramPlatform (fun _ => false) (loadMachine.clockState 0)).1 ≠ .undefined ∧
      (cpuSupplyClock ramPlatform (fun _ => false) (loadTwin.clockState 0)).1 ≠ .undefined := by
  unfold InRegion
  decide +kernel

theorem hiddenFromUser_loadMachine : HiddenFromUser (loadMachine.cores 0) 0x2000#32 where
  loads :=
    { enabled := loadMachine_user.2.1
      closed := fun index hopen => loadMachine_user.2.2.1 index hopen.enabled }
  table := by
    obtain ⟨_, _, _, hsccfg, hscbp, _⟩ := loadMachine_user
    intro vector
    have haddr : syscallTableAddr vector (loadMachine.cores 0) = 0 := by
      unfold syscallTableAddr
      rw [hsccfg, hscbp]
      split_ifs with hvector
      · have hzero : vector = 0 := BitVec.le_zero_iff.mp hvector
        rw [hzero]
        rfl
      · rfl
    rw [haddr]
    decide

theorem hidden_byte_unseen_load :
    let m' := (loadMachine.clock ramPlatform 0 fun _ => false).2
    let n' := (loadTwin.clock ramPlatform 0 fun _ => false).2
    Twins (AgreeBut 0x2000#32) m' n' ∧ ∀ c cached, c = 0 → (m'.cores c).issetUM = true →
      CodeAway (m'.cores c).pc 0x2000#32 →
        (m'.clock ramPlatform c cached).1 = (n'.clock ramPlatform c cached).1 := by
  obtain ⟨hum, _, _, _, _, haway, hdef, hdef'⟩ := loadMachine_user
  have htwins : Twins (AgreeBut 0x2000#32) loadMachine loadTwin :=
    ⟨_, fun b hb => (Function.update_of_ne hb _ _).symm, rfl⟩
  have hstep : MachineStep ramPlatform (.clock 0 fun _ => false) loadMachine
      (loadMachine.clock ramPlatform 0 fun _ => false).2 := .clock loadMachine 0 _ hdef
  have hstep' : MachineStep ramPlatform (.clock 0 fun _ => false) loadTwin
      (loadTwin.clock ramPlatform 0 fun _ => false).2 := .clock loadTwin 0 _ hdef'
  have hevent : TwinEvent (AgreeBut 0x2000#32) 0x2000#32 (· = 0) (.clock 0 fun _ => false)
      (loadMachine, loadTwin) ((loadMachine.clock ramPlatform 0 fun _ => false).2,
        (loadTwin.clock ramPlatform 0 fun _ => false).2) := ⟨rfl, hum, haway⟩
  have hrun : (twinRuns ramPlatform (AgreeBut 0x2000#32) 0x2000#32 (· = 0) loadMachine
      loadTwin).Reachable ((loadMachine.clock ramPlatform 0 fun _ => false).2,
        (loadTwin.clock ramPlatform 0 fun _ => false).2) :=
    .step (.init rfl) ⟨hevent, hstep, hstep'⟩
  have hhidden : ∀ c, c = 0 → HiddenFromUser (loadMachine.cores c) 0x2000#32 := by
    intro c hc
    rw [hc]
    exact hiddenFromUser_loadMachine
  exact hidden_byte_unseen (blindPlatform_ramPlatform _) (by decide) (by decide)
    reachable_loadMachine htwins hhidden hrun

end Athrill
