import Athrill.Cpu.Isolation
import Athrill.Exec.Destinations
import Athrill.Lib.Attribution

/-!
# Who writes a register, who writes a byte

Over any run of the machine, with interrupts, exceptions and devices in between,
a general register holds what the last instruction of its own core has left that
names it as a destination, and a byte of memory what the devices or the last
clock have left in whose state the protection grants a store to it.

* `RegsKept`: the clock itself writes no general register but `r0`.
* `WritesRegister`, `register_writer`: the writers of a general register.
* `MayStore`, `byte_writer`: the writers of a byte.
-/

namespace Athrill

open TargetCore Routine ByteMemory TransitionSystem

variable {D : Type} {p : Platform D}

/-! ## Around the call of an executor -/

/-- The general registers are kept but for `r0`. -/
def RegsKept (s s' : CpuState D) : Prop :=
  ∀ n : Fin 32, n ≠ 0 → s'.cpu.r n = s.cpu.r n

namespace RegsKept

variable {s s' s'' : CpuState D}

theorem of_eq (hr : s'.cpu.r = s.cpu.r) : RegsKept s s' :=
  fun n _ => congrFun hr n

theorem trans (h : RegsKept s s') (h' : RegsKept s' s'') : RegsKept s s'' :=
  fun n hn => (h' n hn).trans (h n hn)

end RegsKept

theorem regsKept_clearR0 (s : ClockState D) :
    RegsKept s.toCpuState (s.modifyCpu clearR0).toCpuState :=
  fun _ hn => Function.update_of_ne hn _ _

/-- The clock makes no call and keeps the registers, or it calls an executor and
keeps them before and after. -/
def RegsAround (s : CpuState D) (call : Option (Call D)) (s' : CpuState D) : Prop :=
  call = none ∧ RegsKept s s' ∨
    ∃ c, call = some c ∧ RegsKept s c.state ∧ RegsKept c.result.2 s'

theorem RegsAround.of_kept {s s₁ s₂ s' : CpuState D} {call : Option (Call D)}
    (h : RegsAround s₁ call s₂) (hbefore : RegsKept s s₁) (hafter : RegsKept s₂ s') :
    RegsAround s call s' := by
  rcases h with ⟨hnone, hkept⟩ | ⟨c, hsome, hfirst, hlast⟩
  · exact .inl ⟨hnone, (hbefore.trans hkept).trans hafter⟩
  · exact .inr ⟨c, hsome, hbefore.trans hfirst, hlast.trans hafter⟩

theorem regsAround_execCode (codeId : OpCodeId) (executor : OpDecodedCode → Exec D Unit)
    (d : OpDecodedCode) (s : ClockState D) :
    RegsAround s.toCpuState (some (Call.withClocks ⟨codeId, executor, d, s.toCpuState⟩))
      (execCode codeId (executor d) s).2.toCpuState := by
  refine .inr ⟨_, rfl, .of_eq rfl, ?_⟩
  unfold execCode
  extract_lets s₁ result s₂
  have hresult : result = (Call.withClocks ⟨codeId, executor, d, s.toCpuState⟩).result := rfl
  rw [← hresult]
  split_ifs
  · exact .of_eq rfl
  · exact .of_eq rfl
  · exact .of_eq rfl
  · exact .of_eq rfl

theorem regsAround_execParsed (cached : Bool) (pc : Word) (optype : OperationCode)
    (d : OpDecodedCode) (s : ClockState D) :
    RegsAround s.toCpuState
      ((calledParsed p pc optype.codeId d s.toCpuState).map Call.withClocks)
      (execParsed p cached pc optype d s).2.toCpuState := by
  obtain ⟨info, hinfo⟩ := targetMpuHasPermission_snd s.cpu .exec pc (opFormatSize d.typeId)
  have hchecked : (cpuHasPermission s.cpu .exec pc (opFormatSize d.typeId)).2.r = s.cpu.r := by
    show (targetMpuHasPermission s.cpu .exec pc (opFormatSize d.typeId)).2.r = s.cpu.r
    rw [hinfo]
    rfl
  unfold calledParsed execParsed
  extract_lets permission s₁ permission' s₂
  have hperm : permission' = permission := by
    cases cached <;> rfl
  have hcpu : s₂.toCpuState = { s.toCpuState with cpu := permission.2 } := by
    cases cached <;> rfl
  have hs₂ : RegsKept s.toCpuState s₂.toCpuState := by
    rw [hcpu]
    exact .of_eq hchecked
  rw [hperm]
  cases hgrant : permission.1 with
  | false =>
    rw [if_pos rfl, if_neg (by simp)]
    split_ifs
    · exact .inl ⟨rfl, hs₂.trans (.of_eq rfl)⟩
    · exact .inl ⟨rfl, hs₂⟩
  | true =>
    rw [if_pos rfl, if_neg (by simp)]
    cases hexec : opExecTable p optype.codeId with
    | none => exact .inl ⟨rfl, hs₂⟩
    | some executor =>
      have hcall := regsAround_execCode optype.codeId executor d s₂
      rw [hcpu] at hcall hs₂
      dsimp only
      split_ifs
      · refine hcall.of_kept hs₂ (.of_eq ?_)
        cases cached <;> rfl
      · exact hcall.of_kept hs₂ (.of_eq rfl)

theorem regsAround_cpuSupplyClockNotCached (cached : Bool) (s : ClockState D) :
    RegsAround s.toCpuState ((calledNotCached p cached s).map Call.withClocks)
      (cpuSupplyClockNotCached p cached s).2.toCpuState := by
  unfold calledNotCached cpuSupplyClockNotCached
  dsimp only
  cases p.bus.getPointer s.toCpuState s.cpu.pc with
  | none => exact .inl ⟨rfl, .of_eq rfl⟩
  | some bytes =>
    dsimp only [Option.bind_some]
    cases opParse (currentCode bytes) (s.pDecodedCode cached s.cpu.pc) with
    | none => exact .inl ⟨rfl, .of_eq rfl⟩
    | some parsed => exact regsAround_execParsed cached _ parsed.1 parsed.2 s

/-- Around its call, a clock writes `r0` and no other general register. -/
theorem regsAround_cpuSupplyClock (cached : Word → Bool) (s : ClockState D) :
    RegsAround s.toCpuState (called p cached s) (cpuSupplyClock p cached s).2.toCpuState := by
  have hr0 := regsKept_clearR0 s
  have hend (result : StdReturn × ClockState D) :
      RegsKept result.2.toCpuState (endClock result).2.toCpuState := by
    unfold endClock
    split_ifs
    · exact regsKept_clearR0 result.2
    · exact .of_eq rfl
  unfold called cpuSupplyClock
  by_cases hfatal : s.cpu.fatalError
  · rw [if_pos (Or.inl hfatal), if_pos hfatal]
    exact .inl ⟨rfl, .of_eq rfl⟩
  by_cases hhalt : s.cpu.isHalt
  · rw [if_pos (Or.inr hhalt), if_neg hfatal, if_pos hhalt]
    exact .inl ⟨rfl, .of_eq rfl⟩
  rw [if_neg (by simp [hfatal, hhalt]), if_neg hfatal, if_neg hhalt]
  extract_lets s₁ pc
  split_ifs
  · cases (s₁.cache s₁.cpu.pc).opExec with
    | none => exact (regsAround_cpuSupplyClockNotCached true s₁).of_kept hr0 (hend _)
    | some executor => exact (regsAround_execCode _ executor _ s₁).of_kept hr0 (hend _)
  · exact (regsAround_cpuSupplyClockNotCached false s₁).of_kept hr0 (hend _)

/-! ## General registers -/

/-- The call may write the general register: it names it as a destination, or
it stores a word at its place in the window. -/
def Call.WritesRegister (n : Fin 32) (call : Call D) : Prop :=
  n.val ∈ destinations call.codeId call.decodedCode ∨
    ∃ addr ∈ storedWords call.codeId call.decodedCode call.state.cpu, registerIndex addr = n.val

/-- The step is a clock of the core that calls such an instruction. -/
def WritesRegister (p : Platform D) (c : CoreId) (n : Fin 32) : MachineEvent → Machine D → Prop
  | .clock i cached, m =>
    i = c ∧ ∃ call, called p cached (m.clockState c) = some call ∧ call.WritesRegister n
  | _, _ => False

/-- A call that does not write the register. -/
theorem Call.r_result (hbus : WindowBus p.bus) {call : Call D}
    (htable : opExecTable p call.codeId = some call.executor) {n : Fin 32}
    (hno : ¬ call.WritesRegister n) : call.result.2.cpu.r n = call.state.cpu.r n :=
  regs_opExecTable hbus htable call.decodedCode (fun h => hno (.inl h))
    fun addr haddr h => hno (.inr ⟨addr, haddr, h⟩)

theorem readKept_sameRegs {bus : Bus D} (hbus : WindowBus bus) : ReadKept SameRegs bus :=
  fun s addr => hbus.get32 s addr

/-- A step that does not write the register keeps it. -/
theorem register_kept (hbus : WindowBus p.bus) {c : CoreId} {n : Fin 32} (hn : n ≠ 0)
    {e : MachineEvent} {m m' : Machine D} (hform : WellFormed p m) (hstep : MachineStep p e m m')
    (hno : ¬ WritesRegister p c n e m) : (m'.cores c).r n = (m.cores c).r n := by
  have hother (he : ∀ c cached, e ≠ .clock c cached) :
      (m'.cores c).r n = (m.cores c).r n :=
    congrFun (kept_machineStep (R := SameRegs) (readKept_sameRegs hbus) hstep he c) n
  cases hstep with
  | clock _ i cached _ =>
    rw [cores_putClockState]
    split_ifs with hi
    · subst hi
      have htable := (cpuSupplyClock_outcome cached (hform.cache c)).table
      rcases regsAround_cpuSupplyClock (p := p) cached (m.clockState c) with
        ⟨_, hkept⟩ | ⟨call, hcall, hbefore, hafter⟩
      · exact hkept n hn
      · have hresult : call.result.2.cpu.r n = call.state.cpu.r n :=
          Call.r_result hbus (htable call hcall) fun hw => hno ⟨rfl, call, hcall, hw⟩
        exact ((hafter n hn).trans hresult).trans (hbefore n hn)
    · rfl
  | illegalAccess _ i h => exact hother fun _ _ => nofun
  | illegalOpcodeTrap _ i => exact hother fun _ _ => nofun
  | intc _ i => exact hother fun _ _ => nofun
  | raiseIntr _ intno => rfl
  | device _ dev => rfl

/-- Over any run, a general register that has changed holds what the last
instruction of its own core has left that names it as a destination, or that
stores a word at its place in the window.  Neither other cores nor interrupts,
exceptions and devices write it. -/
theorem register_writer (hbus : WindowBus p.bus) {c : CoreId} {n : Fin 32} (hn : n ≠ 0)
    {m m' : Machine D} (hm : (machine p).Reachable m) {past : List (MachineEvent × Machine D)}
    (hrun : ((machine p).startedAt m).Trace past m')
    (hne : (m'.cores c).r n ≠ (m.cores c).r n) :
    (machine p).LeftBy (WritesRegister p c n) (fun m => (m.cores c).r n) past m' := by
  refine Trace.last_writer hm (fun e m₁ m₂ hreach hstep hno => ?_) hrun hne
  exact register_kept hbus hn (wellFormed_of_reachable hreach) hstep hno

/-- The RAM with the window over it. -/
def windowBus : Bus (Memory 32) where
  getData8 := ramBus.getData8
  getData16 := ramBus.getData16
  getData32 s addr :=
    if (ramBus.getData32 s addr).1.isSome ∧ (getCpuRegisterAddr s.cpu.coreId addr).isSome then
      cpuGetData32 s addr
    else ramBus.getData32 s addr
  putData8 := ramBus.putData8
  putData16 := ramBus.putData16
  putData32 s addr data :=
    if (ramBus.putData32 s addr data).1.isSome ∧ (getCpuRegisterAddr s.cpu.coreId addr).isSome then
      cpuPutData32 s addr data
    else ramBus.putData32 s addr data
  getPointer := ramBus.getPointer
  storePointer := ramBus.storePointer

theorem r_checkedAccess {α : Type} (s : CpuState (Memory 32)) (accessType : TargetMpuAccess)
    (addr : Word) (n : Nat) (data : α) (mem : Memory 32) :
    (checkedAccess s accessType addr n data mem).2.r = s.cpu.r := by
  unfold checkedAccess
  dsimp only
  split_ifs <;> rfl

theorem windowBus_windowBus : WindowBus windowBus where
  get8 _ _ := r_checkedAccess _ _ _ _ _ _
  get16 _ _ := r_checkedAccess _ _ _ _ _ _
  get32 s addr := by
    unfold windowBus
    dsimp only
    split_ifs
    · exact r_cpuGetData32 s addr
    · exact r_checkedAccess _ _ _ _ _ _
  put8 _ _ _ := r_checkedAccess _ _ _ _ _ _
  put16 _ _ _ := r_checkedAccess _ _ _ _ _ _
  put32 s addr data n haway := by
    unfold windowBus
    dsimp only
    split_ifs
    · exact r_cpuPutData32 s data haway
    · exact congrFun (r_checkedAccess _ _ _ _ _ _) n
  pointer _ _ _ _ h := by
    cases h
    rfl

def windowPlatform : Platform (Memory 32) := { ramPlatform with bus := windowBus }

/-- `ST.W` to the place of `r3` in the window. -/
def windowProgram : List HalfWord :=
  -- MOVHI 0x06FF, r0, r1; ST.W r1, 12[r1]
  [0x0E40, 0x06FF, 0x0F61, 0x000D]

def windowMachine (n : Nat) : Machine (Memory 32) :=
  (Machine.reset (ramProgram windowProgram)).clocks windowPlatform 0 (fun _ => false) n

theorem register_writer_window :
    (machine windowPlatform).LeftBy (WritesRegister windowPlatform 0 3)
      (fun m => (m.cores 0).r 3) [(.clock 0 fun _ => false, windowMachine 1)]
      (windowMachine 2) := by
  obtain ⟨hfirst, hdefined, hne⟩ :
      (Machine.reset (ramProgram windowProgram)).clocksDefined windowPlatform 0
        (fun _ => false) 1 = true ∧
      (cpuSupplyClock windowPlatform (fun _ => false) ((windowMachine 1).clockState 0)).1 ≠
        .undefined ∧
      ((windowMachine 2).cores 0).r 3 ≠ ((windowMachine 1).cores 0).r 3 := by
    decide +kernel
  have hstep : MachineStep windowPlatform (.clock 0 fun _ => false) (windowMachine 1)
      (windowMachine 2) := .clock (windowMachine 1) 0 (fun _ => false) hdefined
  exact register_writer windowBus_windowBus (by decide)
    (reachable_clocks (reachable_reset _ _) hfirst) (.step (.init rfl) hstep) hne

/-! ## Bytes of memory -/

/-- What lies behind the bus is kept. -/
def DevKept (s s' : CpuState D) : Prop := s'.dev = s.dev

instance : Std.Refl (DevKept (D := D)) where
  refl _ := rfl

instance : IsTrans (CpuState D) DevKept where
  trans _ _ _ h h' := Eq.trans h' h

namespace Exec

variable {α : Type}

instance keeps_dev_fail : Keeps DevKept (fail : Exec D α) := keeps_stop _

instance keeps_dev_undefined : Keeps DevKept (undefined : Exec D α) := keeps_stop _

instance keeps_dev_getCpu (f : TargetCore → α) : Keeps DevKept (getCpu f : Exec D α) :=
  keeps_gets _

instance keeps_dev_modifyCpu (f : TargetCore → TargetCore) :
    Keeps DevKept (modifyCpu f : Exec D Unit) :=
  keeps_modify fun _ => rfl

set_option synthInstance.maxSize 10000 in
/-- `LDSR` writes system registers only. -/
instance keeps_dev_ldsr (d : OpCodeFormatType9) : Keeps DevKept (opExecLdsr d : Exec D Unit) := by
  unfold opExecLdsr checkReg failIf getR getSysregId raiseCode addPc
  infer_instance

end Exec

variable {cell : D → Memory 32}

/-- A call in whose state no store to the byte is granted keeps it. -/
theorem Call.cell_result (hbus : CheckedStores p.bus cell) (hhost : QuietHost p.host cell)
    {a : Word} {call : Call D} (htable : opExecTable p call.codeId = some call.executor)
    (hno : ¬ Granted .write call.state.cpu a) :
    cell call.result.2.dev a = cell call.state.dev a := by
  cases hpriv : privileged call.codeId with
  | false =>
    exact ((keeps_guardedStep hbus hhost a hpriv htable call.decodedCode).keeps call.state).2 hno
  | true =>
    by_cases hldsr : call.codeId = .ldsr_9
    · have hexec : call.executor = fun d => Exec.opExecLdsr d.type9 := by
        rw [hldsr] at htable
        exact (Option.some.inj htable).symm
      have hdev : call.result.2.dev = call.state.dev := by
        unfold Call.result
        rw [hexec]
        exact (Exec.keeps_dev_ldsr call.decodedCode.type9).keeps call.state
      rw [hdev]
    · have hentry :=
        (keeps_entryStep hbus hpriv hldsr htable call.decodedCode).keeps call.state
      exact congrFun hentry.2 a

/-- The step is a clock in whose state a store to the byte is granted, or the
devices work. -/
def MayStore (a : Word) : MachineEvent → Machine D → Prop
  | .clock c _, m => Granted .write (m.cores c) a
  | .device, _ => True
  | _, _ => False

/-- A step that may not store the byte keeps it. -/
theorem byte_kept (hbus : CheckedStores p.bus cell) (hhost : QuietHost p.host cell) {a : Word}
    {e : MachineEvent} {m m' : Machine D} (hform : WellFormed p m) (hstep : MachineStep p e m m')
    (hno : ¬ MayStore a e m) : cell m'.dev a = cell m.dev a := by
  cases hstep with
  | clock _ c cached _ =>
    have hout := cpuSupplyClock_outcome cached (hform.cache c)
    show cell (cpuSupplyClock p cached (m.clockState c)).2.dev a = cell (m.clockState c).dev a
    cases hcall : called p cached (m.clockState c) with
    | none => rw [(hout.idle hcall).dev]
    | some call =>
      have hbefore := hout.before call hcall
      have hkept : cell call.result.2.dev a = cell call.state.dev a :=
        Call.cell_result hbus hhost (hout.table call hcall) (hbefore.ordinaryStep.not_granted hno)
      rw [(hout.after call hcall).dev, hkept, hbefore.dev]
  | illegalAccess _ c h => rfl
  | illegalOpcodeTrap _ c => rfl
  | intc _ c => exact congrFun (cell_supplyClockIntc hbus c (m.clockState c).toCpuState) a
  | raiseIntr _ intno => rfl
  | device _ dev => exact absurd trivial hno

/-- Over any run, in whatever mode the instructions are executed, a byte of
memory that has changed holds what the devices have left or the last clock in
whose state the protection of its core grants a store to the byte. -/
theorem byte_writer (hbus : CheckedStores p.bus cell) (hhost : QuietHost p.host cell) {a : Word}
    {m m' : Machine D} (hm : (machine p).Reachable m) {past : List (MachineEvent × Machine D)}
    (hrun : ((machine p).startedAt m).Trace past m') (hne : cell m'.dev a ≠ cell m.dev a) :
    (machine p).LeftBy (MayStore a) (fun m => cell m.dev a) past m' := by
  refine Trace.last_writer hm (fun e m₁ m₂ hreach hstep hno => ?_) hrun hne
  exact byte_kept hbus hhost (wellFormed_of_reachable hreach) hstep hno

/-- `ST.B` of the low byte of its own address. -/
def storeByteProgram : List HalfWord :=
  -- MOVEA 0x101, r0, r1; ST.B r1, 0[r1]
  [0x0E20, 0x0101, 0x0F41, 0x0000]

def storeByteMachine (n : Nat) : Machine (Memory 32) :=
  (Machine.reset (ramProgram storeByteProgram)).clocks ramPlatform 0 (fun _ => false) n

theorem byte_writer_store :
    (machine ramPlatform).LeftBy (MayStore 0x101#32) (fun m => id m.dev 0x101#32)
      [(.clock 0 fun _ => false, storeByteMachine 1)] (storeByteMachine 2) := by
  have hdefined : (Machine.reset (ramProgram storeByteProgram)).clocksDefined ramPlatform 0
      (fun _ => false) 2 = true ∧
      (cpuSupplyClock ramPlatform (fun _ => false) ((storeByteMachine 1).clockState 0)).1 ≠
        .undefined ∧ id (storeByteMachine 2).dev 0x101#32 ≠ id (storeByteMachine 1).dev 0x101#32 := by
    decide +kernel
  have hreach : (machine ramPlatform).Reachable (storeByteMachine 1) :=
    reachable_clocks (reachable_reset _ _) (by decide +kernel)
  have hstep : MachineStep ramPlatform (.clock 0 fun _ => false) (storeByteMachine 1)
      (storeByteMachine 2) := .clock (storeByteMachine 1) 0 (fun _ => false) hdefined.2.1
  exact byte_writer checkedStores_ramBus quietHost_ramHost hreach (.step (.init rfl) hstep)
    hdefined.2.2

end Athrill
