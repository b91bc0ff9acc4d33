import Athrill.Cpu.Privilege
import Athrill.Exec.Guarded
import Athrill.Exec.Ram
import Athrill.Intc.Frame
import Athrill.Mpu.Coverage

/-!
# Memory that user mode cannot change

As long as every instruction is executed in user mode, a byte that no region
opens to stores keeps its value.  Interrupts, exceptions and the devices may
come in between; the handlers of the former run in supervisor mode, so their
first instruction is the end of such a run.

The check adds `uint32` numbers, so a store can start in a region and go on at
the other end of the address space.  The three bytes at either end are
therefore left out.

* `UserProtected`: no region opens the byte to user mode.
* `userClock`: one clock in user mode.
* `userRuns`: the runs that execute nothing outside user mode.
* `user_memory_isolated`: the protected bytes of such a run.
-/

namespace Athrill

open TargetCore Routine ByteMemory

variable {D : Type}

/-! ## Protected bytes -/

/-- The attributes permit the access in user mode. -/
def UserPermits (accessType : TargetMpuAccess) (attr : Word) : Prop :=
  match accessType with
  | .read => attr.getLsbD mpatUR = true
  | .write => attr.getLsbD mpatUW = true
  | .exec => attr.getLsbD mpatUX = true
  | .none => False

/-- Region `index` opens its bytes to accesses of this type in user mode. -/
structure OpenToUser (accessType : TargetMpuAccess) (cpu : TargetCore) (index : Fin 16) :
    Prop where
  enabled : (cpu.getSysreg2 (mpat index)).getLsbD mpatE = true
  applied : (cpu.getSysreg2 (mpat index)).getLsbD mpatG = true
  asid : (mpatGetAsid (cpu.getSysreg2 (mpat index))).setWidth 32 = cpu.getSysreg2 .asid
  permits : UserPermits accessType (cpu.getSysreg2 (mpat index))

/-- The protection is on, and no region opens the byte to accesses of this type
in user mode. -/
structure UserProtected (accessType : TargetMpuAccess) (cpu : TargetCore) (a : Word) :
    Prop where
  enabled : (cpu.getSysreg2 .mpm).getLsbD mpmMPE = true
  closed : ∀ index, OpenToUser accessType cpu index → ¬ InRegion cpu index a.toNat

theorem regionReg_mpu (index : Fin 16) (off : Fin 3) : 5 ≤ (regionReg index off).selid := by
  revert index off
  decide

variable {accessType : TargetMpuAccess}

/-- The protection is a matter of the MPU registers and of `ASID`. -/
theorem UserProtected.of_same {cpu cpu' : TargetCore} {a : Word}
    (h : UserProtected accessType cpu a) (hmpu : SameMpu cpu cpu')
    (hasid : cpu'.getSysreg2 .asid = cpu.getSysreg2 .asid) : UserProtected accessType cpu' a := by
  have hreg (index : Fin 16) (off : Fin 3) :
      cpu'.getSysreg2 (regionReg index off) = cpu.getSysreg2 (regionReg index off) :=
    hmpu.sys _ (regionReg_mpu index off)
  refine ⟨?_, fun index hopen hin => ?_⟩
  · rw [hmpu.sys .mpm (by decide)]
    exact h.enabled
  · obtain ⟨henabled, happlied, hmatch, hpermits⟩ := hopen
    rw [hreg] at henabled happlied hmatch hpermits
    rw [hasid] at hmatch
    unfold InRegion regionLower regionUpper at hin
    rw [hreg, hreg] at hin
    exact h.closed index ⟨henabled, happlied, hmatch, hpermits⟩ hin

/-- An access of at most four bytes that reaches a byte away from the ends does
not wrap. -/
theorem within_between {addr a : Word} {n : Nat} (hn : n ≤ 4) (hin : Within addr n a)
    (hlow : 3 ≤ a.toNat) (hhigh : a.toNat + 3 < 2 ^ 32) :
    addr.toNat ≤ a.toNat ∧ a.toNat ≤ (addr + BitVec.ofNat 32 n - 1).toNat := by
  have haddr : addr.toNat < 2 ^ 32 := addr.isLt
  have hsub : (a - addr).toNat < n := hin
  rw [BitVec.toNat_sub] at hsub
  rw [BitVec.toNat_sub, BitVec.toNat_add, BitVec.toNat_ofNat]
  have hone : (1 : Word).toNat = 1 := rfl
  omega

theorem userPermits_of_attribute {cpu : TargetCore} (hum : cpu.issetUM = true) {attr : Word}
    (h : AttributePermits cpu accessType attr) : UserPermits accessType attr := by
  unfold AttributePermits at h
  rw [hum] at h
  cases accessType with
  | read => exact h
  | write => exact h
  | exec => exact h
  | none => exact h

/-- In user mode no access to a protected byte is granted. -/
theorem UserProtected.not_granted {cpu : TargetCore} {a : Word}
    (h : UserProtected accessType cpu a) (hdata : accessType ≠ .exec)
    (hsync : ConfigSynced cpu) (hum : cpu.issetUM = true) (hlow : 3 ≤ a.toNat)
    (hhigh : a.toNat + 3 < 2 ^ 32) : ¬ Granted accessType cpu a := by
  rintro ⟨addr, n, hn, hin, hgranted⟩
  have happlied : mpuApplied cpu = true := by
    rw [← hsync]
    exact (mpuApplied_iff cpu).mpr ⟨h.enabled, .inl hum⟩
  rw [targetMpuHasPermission_fst_of_applied happlied] at hgranted
  have hregion : mpuHasPermissionAccessRegionMdp addr (BitVec.ofNat 32 n)
      (enableRegionConfig (mpuSetConfig cpu) accessType) = true := by
    rw [hsync]
    unfold mpuHasPermissionAccessRegion at hgranted
    rw [if_neg hdata] at hgranted
    exact hgranted
  obtain ⟨index, happ, hfirst, hlast⟩ := (mdp_iff cpu accessType addr _).mp hregion
  obtain ⟨hbefore, hafter⟩ := within_between hn hin hlow hhigh
  have hpermits := userPermits_of_attribute hum happ.permits
  refine h.closed index ⟨happ.enabled, happ.applied, happ.asid, hpermits⟩ ⟨?_, ?_⟩
  · exact hfirst.trans hbefore
  · exact hafter.trans hlast

/-! ## Entries and returns -/

/-- A step that writes the registers of exceptions and stores nothing. -/
def EntryStep (cell : D → Memory 32) (s s' : CpuState D) : Prop :=
  EntryFrame s.cpu s'.cpu ∧ cell s'.dev = cell s.dev

variable {cell : D → Memory 32}

instance : Std.Refl (EntryStep cell) where
  refl s := ⟨.refl s.cpu, rfl⟩

instance : IsTrans (CpuState D) (EntryStep cell) where
  trans _ _ _ h h' := ⟨h.1.trans h'.1, h'.2.trans h.2⟩

namespace Exec

theorem keeps_entryStep_modifyCpu {f : TargetCore → TargetCore} (h : ∀ cpu, EntryFrame cpu (f cpu)) :
    Keeps (EntryStep cell) (modifyCpu f : Exec D Unit) :=
  keeps_modify fun s => ⟨h s.cpu, rfl⟩

theorem keeps_entryStep_modifyIntc {f : CoreId → CpuIntc → CpuIntc}
    (h : ∀ coreId s, EntryFrame s.cpu (f coreId s).cpu) :
    Keeps (EntryStep cell) (modifyIntc f : Exec D Unit) :=
  keeps_modify fun s => ⟨h s.cpu.coreId s.toCpuIntc, rfl⟩

instance keeps_entryStep_fail : Keeps (EntryStep cell) (fail : Exec D Unit) :=
  keeps_stop _

instance keeps_entryStep_getCpu {α : Type} (f : TargetCore → α) :
    Keeps (EntryStep cell) (getCpu f : Exec D α) :=
  keeps_gets _

instance keeps_entryStep_setPc (pc : Word) : Keeps (EntryStep cell) (setPc pc : Exec D Unit) :=
  keeps_entryStep_modifyCpu fun _ => .of_eq rfl

instance keeps_entryStep_addPc (n : Word) : Keeps (EntryStep cell) (addPc n : Exec D Unit) :=
  keeps_entryStep_modifyCpu fun _ => .of_eq rfl

instance keeps_entryStep_raiseCode (exno : ExceptionId) :
    Keeps (EntryStep cell) (raiseCode exno : Exec D Unit) :=
  keeps_entryStep_modifyCpu fun _ => .of_eq rfl

instance keeps_entryStep_eiret : Keeps (EntryStep cell) (opExecEiret10 : Exec D Unit) := by
  have hcore : Keeps (EntryStep cell) (modifyCpu restoreEi : Exec D Unit) :=
    keeps_entryStep_modifyCpu kept_restoreEi
  have hintc : Keeps (EntryStep cell) (modifyIntc intcClrEi : Exec D Unit) :=
    keeps_entryStep_modifyIntc kept_intcClrEi
  infer_instance

instance keeps_entryStep_feret : Keeps (EntryStep cell) (opExecFeret10 : Exec D Unit) := by
  have hcore : Keeps (EntryStep cell) (modifyCpu restoreFe : Exec D Unit) :=
    keeps_entryStep_modifyCpu kept_restoreFe
  have hintc : Keeps (EntryStep cell) (modifyIntc intcClrFe : Exec D Unit) :=
    keeps_entryStep_modifyIntc kept_intcClrFe
  infer_instance

end Exec

open Exec

/-- The privileged entries of the table but `LDSR`. -/
theorem keeps_entryStep {p : Platform D} (hbus : CheckedStores p.bus cell) {codeId : OpCodeId}
    {executor : OpDecodedCode → Exec D Unit} (hpriv : privileged codeId = true)
    (hldsr : codeId ≠ .ldsr_9) (hexec : opExecTable p codeId = some executor) (d : OpDecodedCode) :
    Keeps (EntryStep cell) (executor d) := by
  have hread (addr : Word) : Keeps (EntryStep cell) (busGetData32 p.bus addr) := by
    refine ⟨fun s => ⟨?_, ?_⟩⟩
    · unfold busGetData32 busAccess
      rw [run_lift]
      split <;> exact .of_eq rfl
    · unfold busGetData32
      rw [dev_busAccess]
      exact hbus.get32 s addr
  have hid : Keeps (EntryStep cell) (modifyCpu fun cpu =>
      if d.type10.gen1 = 0x04 then cpu.clrPsw pswID else cpu.setPsw pswID : Exec D Unit) := by
    refine keeps_entryStep_modifyCpu fun cpu => ?_
    split_ifs
    · exact EntryKept.write (by decide) _ _
    · exact EntryKept.write (by decide) _ _
  have hhalt : Keeps (EntryStep cell)
      (modifyCpu fun cpu => { cpu with isHalt := true } : Exec D Unit) :=
    keeps_entryStep_modifyCpu fun _ => .of_eq rfl
  have htrap : Keeps (EntryStep cell) (modifyCpu (trapEntry d.type10.gen2) : Exec D Unit) :=
    keeps_entryStep_modifyCpu (kept_trapEntry _)
  have hfetrap : Keeps (EntryStep cell)
      (modifyCpu (fetrapEntry (d.type1.reg2.setWidth 32)) : Exec D Unit) :=
    keeps_entryStep_modifyCpu (kept_fetrapEntry _)
  have hsyscall : Keeps (EntryStep cell)
      (modifyCpu (syscallEntry (syscallVector d.type10)) : Exec D Unit) :=
    keeps_entryStep_modifyCpu (kept_syscallEntry _)
  rcases privileged_cases hpriv with rfl | (rfl | rfl) | rfl | rfl | rfl | rfl | rfl | rfl | rfl
  · exact absurd rfl hldsr
  all_goals
    cases hexec
    infer_instance

/-! ## One clock in user mode -/

/-- What a clock in user mode keeps: the protection, and the byte unless a store
to it is granted. -/
structure UserClock (cell : D → Memory 32) (a : Word) (s s' : CpuState D) : Prop where
  mpu : SameMpu s.cpu s'.cpu
  sys : ∀ id, id ∉ entryRegs → id ∉ fpuStatusRegs →
    s'.cpu.getSysreg2 id = s.cpu.getSysreg2 id
  kept : ¬ Granted .write s.cpu a → cell s'.dev a = cell s.dev a

theorem Aside.dev {s s' : CpuState D} (h : Aside s s') : s'.dev = s.dev := by
  obtain ⟨_, _, _, _, rfl⟩ := h
  rfl

theorem UserClock.asid {s s' : CpuState D} (h : UserClock cell a s s') :
    s'.cpu.getSysreg2 .asid = s.cpu.getSysreg2 .asid :=
  h.sys .asid (by decide) (by decide)

theorem ne_psw_of_not_mem {id : SysReg} (h : id ∉ entryRegs) : id ≠ .psw := by
  rintro rfl
  exact h (by decide)

/-- The call of an executor in user mode. -/
theorem userClock_call {p : Platform D} (hbus : CheckedStores p.bus cell)
    (hhost : QuietHost p.host cell) (a : Word) {call : Call D}
    (hum : call.state.cpu.issetUM = true) (htable : opExecTable p call.codeId = some call.executor)
    (hrecord : RecordFormed call.decodedCode) : UserClock cell a call.state call.result.2 := by
  cases hpriv : privileged call.codeId with
  | false =>
    obtain ⟨hordinary, hkept⟩ :=
      (keeps_guardedStep hbus hhost a hpriv htable call.decodedCode).keeps call.state
    exact ⟨hordinary.mpuStep, fun id hid hfpu => hordinary.sys id (ne_psw_of_not_mem hid) hfpu, hkept⟩
  | true =>
    by_cases hldsr : call.codeId = .ldsr_9
    · -- user mode can write `PSW` and nothing else
      have hexec : call.executor = fun d => opExecLdsr d.type9 := by
        rw [hldsr] at htable
        exact (Option.some.inj htable).symm
      by_cases hpsw : LdsrToPsw call
      · rw [result_ldsr_psw hum hexec hrecord hpsw]
        refine ⟨?_, fun id hid _ => getSysreg2_setSysreg2_of_ne _ _ (ne_psw_of_not_mem hid),
          fun _ => rfl⟩
        exact (sameMpu_setSysreg2 (by decide) _ _).trans (.of_eq rfl rfl rfl)
      · rw [result_ldsr_denied hum hldsr hexec hrecord hpsw]
        exact ⟨.of_eq rfl rfl rfl, fun _ _ _ => rfl, fun _ => rfl⟩
    · obtain ⟨hframe, hcell⟩ :=
        (keeps_entryStep hbus hpriv hldsr htable call.decodedCode).keeps call.state
      have hmpu := (keeps_sameMpu hldsr htable call.decodedCode).keeps call.state
      exact ⟨hmpu, fun id hid _ => hframe id hid, fun _ => congrFun hcell a⟩

/-- A clock in user mode. -/
theorem userClock {p : Platform D} (hbus : CheckedStores p.bus cell)
    (hhost : QuietHost p.host cell) (a : Word) (cached : Word → Bool) {s : ClockState D}
    (hform : CacheFormed p s) (hum : s.cpu.issetUM = true) :
    UserClock cell a s.toCpuState (cpuSupplyClock p cached s).2.toCpuState := by
  have hout := cpuSupplyClock_outcome cached hform
  cases hcall : called p cached s with
  | none =>
    have haside := hout.idle hcall
    exact ⟨haside.ordinaryStep.mpuStep, fun id _ _ => congrFun haside.sys id,
      fun _ => by rw [haside.dev]⟩
  | some call =>
    have hbefore := hout.before call hcall
    have hafter := hout.after call hcall
    have humCall : call.state.cpu.issetUM = true := by
      unfold issetUM issetPsw at hum ⊢
      rw [hbefore.psw]
      exact hum
    have hclock := userClock_call hbus hhost a humCall (hout.table call hcall)
      (hout.record call hcall)
    refine ⟨?_, fun id hid hfpu => ?_, fun hno => ?_⟩
    · exact (hbefore.ordinaryStep.mpuStep.trans hclock.mpu).trans hafter.ordinaryStep.mpuStep
    · exact ((congrFun hafter.sys id).trans (hclock.sys id hid hfpu)).trans
        (congrFun hbefore.sys id)
    · rw [hafter.dev, hclock.kept (hbefore.ordinaryStep.not_granted hno), hbefore.dev]

/-! ## The other steps -/

/-- The interrupt controller reads the address of a handler and stores nothing. -/
theorem cell_supplyClockIntc {bus : Bus D} (hbus : CheckedStores bus cell) (coreId : CoreId)
    (s : CpuState D) : cell (supplyClockIntc bus coreId s).dev = cell s.dev := by
  have hraise (exception : ExceptionRequest) (s : CpuState D) :
      cell (raiseException bus exception s).dev = cell s.dev := by
    have hread : cell (tableView bus (enterException exception s) exception.intno).dev =
        cell s.dev := hbus.get32 (enterException exception s) _
    rcases raiseException_cases bus exception s with heq | ⟨s', addr, hsearched, heq⟩
    · rw [heq]
      rfl
    · rw [heq]
      cases hsearched with
      | direct => rfl
      | table => exact hread
      | failed => exact hread
  unfold supplyClockIntc
  dsimp only
  split
  · exact hraise _ _
  · rfl

/-! ## Runs -/

/-- An instruction is executed in user mode and by one of the cores, and the
devices leave the byte alone. -/
def UserEvent (cell : D → Memory 32) (a : Word) (active : CoreId → Prop) :
    MachineEvent → Machine D → Machine D → Prop
  | .clock c _, m, _ => active c ∧ (m.cores c).issetUM = true
  | .device, m, m' => cell m'.dev a = cell m.dev a
  | _, _, _ => True

/-- The runs from a state that execute nothing outside user mode. -/
def userRuns (p : Platform D) (cell : D → Memory 32) (a : Word) (active : CoreId → Prop)
    (m : Machine D) : TransitionSystem (Machine D) MachineEvent where
  init m₀ := m₀ = m
  step e m₁ m₂ := UserEvent cell a active e m₁ m₂ ∧ MachineStep p e m₁ m₂

/-- One step of such a run. -/
theorem userEvent_step {p : Platform D} (hbus : CheckedStores p.bus cell)
    (hhost : QuietHost p.host cell) {a : Word} (hlow : 3 ≤ a.toNat)
    (hhigh : a.toNat + 3 < 2 ^ 32) {active : CoreId → Prop} {e : MachineEvent} {m m' : Machine D}
    (hevent : UserEvent cell a active e m m') (hstep : MachineStep p e m m')
    (hform : WellFormed p m) (hprot : ∀ c, active c → UserProtected .write (m.cores c) a) :
    (∀ c, active c → UserProtected .write (m'.cores c) a) ∧ cell m'.dev a = cell m.dev a := by
  have hother (he : ∀ c cached, e ≠ .clock c cached) (c : CoreId) (hc : active c) :
      UserProtected .write (m'.cores c) a :=
    (hprot c hc).of_same (sameUnits_machineStep hstep he c).toSameMpu
      (kept_machineStep (readKept_entryFrame p.bus) hstep he c .asid (by decide))
  cases hstep with
  | clock _ c cached _ =>
    obtain ⟨hc, hum⟩ := hevent
    have hclock := userClock hbus hhost a cached (hform.cache c) hum
    have hno := (hprot c hc).not_granted (by decide) (hform.synced c) hum hlow hhigh
    refine ⟨fun i hi => ?_, hclock.kept hno⟩
    rw [cores_putClockState]
    split_ifs with heq
    · subst heq
      exact (hprot i hi).of_same hclock.mpu hclock.asid
    · exact hprot i hi
  | illegalAccess _ c h => exact ⟨hother fun _ _ => nofun, rfl⟩
  | illegalOpcodeTrap _ c => exact ⟨hother fun _ _ => nofun, rfl⟩
  | intc _ c =>
    refine ⟨hother fun _ _ => nofun, ?_⟩
    exact congrFun (cell_supplyClockIntc hbus c (m.clockState c).toCpuState) a
  | raiseIntr _ intno => exact ⟨hother fun _ _ => nofun, rfl⟩
  | device _ dev => exact ⟨hother fun _ _ => nofun, hevent⟩

/-- While every instruction is executed in user mode, a byte that no region of
these cores opens to stores keeps its value, and its protection. -/
theorem user_memory_isolated {p : Platform D} (hbus : CheckedStores p.bus cell)
    (hhost : QuietHost p.host cell) {a : Word} (hlow : 3 ≤ a.toNat)
    (hhigh : a.toNat + 3 < 2 ^ 32) {active : CoreId → Prop} {m m' : Machine D}
    (h : (machine p).Reachable m) (hprot : ∀ c, active c → UserProtected .write (m.cores c) a)
    (hrun : (userRuns p cell a active m).Reachable m') :
    cell m'.dev a = cell m.dev a ∧ ∀ c, active c → UserProtected .write (m'.cores c) a := by
  have hinv : (userRuns p cell a active m).Invariant fun m' =>
      WellFormed p m' ∧ cell m'.dev a = cell m.dev a ∧
        ∀ c, active c → UserProtected .write (m'.cores c) a :=
    { init := by
        rintro _ rfl
        exact ⟨wellFormed_of_reachable h, rfl, hprot⟩
      step := by
        rintro e m₁ m₂ ⟨hform, hkept, hprot⟩ ⟨hevent, hstep⟩
        obtain ⟨hprot', hcell⟩ :=
          userEvent_step hbus hhost hlow hhigh hevent hstep hform hprot
        exact ⟨(wellFormed_invariant p).step e m₁ m₂ hform hstep, hcell.trans hkept, hprot'⟩ }
  exact (hinv.of_reachable hrun).2

/-! ## A program that is kept out -/

theorem storedIn_checkedAccess {α : Type} {s : CpuState (Memory 32)} (addr : Word) (n value : Nat)
    (data : α) : StoredIn id s
      (checkedAccess s .write addr n data (store s.dev addr n value)).2.dev addr n := by
  intro a hchanged
  unfold checkedAccess at hchanged
  dsimp only [id] at hchanged
  split_ifs at hchanged with hgranted
  · refine ⟨?_, hgranted⟩
    by_contra hout
    exact hchanged (store_outside s.dev value hout)
  · exact absurd rfl hchanged

theorem dev_checkedAccess_read {α : Type} {s : CpuState (Memory 32)} (addr : Word) (n : Nat)
    (data : α) : (checkedAccess s .read addr n data s.dev).2.dev = s.dev := by
  unfold checkedAccess
  dsimp only
  split_ifs
  · rfl
  · rfl

theorem checkedStores_ramBus : CheckedStores ramBus id where
  get8 _ _ := dev_checkedAccess_read _ _ _
  get16 _ _ := dev_checkedAccess_read _ _ _
  get32 _ _ := dev_checkedAccess_read _ _ _
  put8 _ addr data := storedIn_checkedAccess addr 1 data.toNat ()
  put16 _ addr data := storedIn_checkedAccess addr 2 data.toNat ()
  put32 _ addr data := storedIn_checkedAccess addr 4 data.toNat ()
  pointer s addr data v hv a hout := by
    cases hv
    exact store_outside s.dev data.toNat hout

/-- A host whose operations all give zero. -/
def ramHost : HostFloat (Memory 32) where
  fesetround _ d := d
  feclearexcept d := d
  fetestexcept _ := ⟨false, false, false, false, false⟩
  float _ _ _ _ d := (0, d)
  double _ _ _ d := (0, d)
  floatLess _ _ d := (false, d)
  floatEqual _ _ d := (false, d)
  doubleLess _ _ d := (false, d)
  doubleEqual _ _ d := (false, d)
  toFloat _ _ d := (0, d)
  toDouble _ _ d := (0, d)
  floatToInt _ _ _ d := (0, d)
  doubleToInt _ _ _ d := (0, d)

theorem quietHost_ramHost : QuietHost ramHost id where
  fesetround _ := ⟨fun _ => rfl⟩
  feclearexcept := ⟨fun _ => rfl⟩
  float _ _ _ _ := ⟨fun _ => rfl⟩
  double _ _ _ := ⟨fun _ => rfl⟩
  floatLess _ _ := ⟨fun _ => rfl⟩
  floatEqual _ _ := ⟨fun _ => rfl⟩
  doubleLess _ _ := ⟨fun _ => rfl⟩
  doubleEqual _ _ := ⟨fun _ => rfl⟩
  toFloat _ _ := ⟨fun _ => rfl⟩
  toDouble _ _ := ⟨fun _ => rfl⟩
  floatToInt _ _ _ := ⟨fun _ => rfl⟩
  doubleToInt _ _ _ := ⟨fun _ => rfl⟩

def ramPlatform : Platform (Memory 32) where
  bus := ramBus
  mayStoreOnStackOverflow _ _ _ := true
  host := ramHost

/-- A memory with a program from address 0 on. -/
def ramProgram (program : List HalfWord) : Memory 32 :=
  fun addr => romByte (fun n => program.getD n 0) addr.toNat

/-- Region 0 opens the first bytes to user mode, not to its stores; the program
goes to user mode and stores there. -/
def storeProgram : List HalfWord :=
  -- MOVEA 0x0FFC, r0, r1; LDSR r1, MPUA0; MOVEA 0xC5, r0, r1; LDSR r1, MPAT0
  [0x0E20, 0x0FFC, 0x0FE1, 0x3020, 0x0E20, 0x00C5, 0x17E1, 0x3020,
    -- MOV 1, r1; LDSR r1, MPM; MOVHI 0x4000, r0, r1; LDSR r1, PSW
    0x0A01, 0x07E1, 0x2820, 0x0E40, 0x4000, 0x2FE1, 0x0020,
    -- ST.W r1, 0x100[r0]
    0x0F60, 0x0101]

/-- The state before the store. -/
def storeMachine : Machine (Memory 32) :=
  (Machine.reset (ramProgram storeProgram)).clocks ramPlatform 0 (fun _ => false) 8

theorem reachable_storeMachine : (machine ramPlatform).Reachable storeMachine :=
  reachable_clocks (reachable_reset _ _) (by decide +kernel)

theorem storeMachine_user :
    (storeMachine.cores 0).issetUM = true ∧
      ((storeMachine.cores 0).getSysreg2 .mpm).getLsbD mpmMPE = true ∧
      (∀ index, ((storeMachine.cores 0).getSysreg2 (mpat index)).getLsbD mpatUW = false) ∧
      (cpuSupplyClock ramPlatform (fun _ => false) (storeMachine.clockState 0)).1 ≠ .undefined := by
  decide +kernel

theorem userProtected_storeMachine : UserProtected .write (storeMachine.cores 0) 0x100#32 where
  enabled := storeMachine_user.2.1
  closed := by
    intro index hopen _
    have hpermits : ((storeMachine.cores 0).getSysreg2 (mpat index)).getLsbD mpatUW = true :=
      hopen.permits
    rw [storeMachine_user.2.2.1 index] at hpermits
    cases hpermits

theorem user_memory_isolated_store :
    let m' := (storeMachine.clock ramPlatform 0 fun _ => false).2
    id m'.dev 0x100#32 = id storeMachine.dev 0x100#32 ∧
      ∀ c, c = 0 → UserProtected .write (m'.cores c) 0x100#32 := by
  have hevent : UserEvent id 0x100#32 (· = 0) (.clock 0 fun _ => false) storeMachine
      (storeMachine.clock ramPlatform 0 fun _ => false).2 := ⟨rfl, storeMachine_user.1⟩
  have hstep : MachineStep ramPlatform (.clock 0 fun _ => false) storeMachine
      (storeMachine.clock ramPlatform 0 fun _ => false).2 :=
    .clock storeMachine 0 (fun _ => false) storeMachine_user.2.2.2
  have hrun : (userRuns ramPlatform id 0x100#32 (· = 0) storeMachine).Reachable
      (storeMachine.clock ramPlatform 0 fun _ => false).2 := .step (.init rfl) ⟨hevent, hstep⟩
  have hprot : ∀ c, c = 0 → UserProtected .write (storeMachine.cores c) 0x100#32 := by
    rintro c rfl
    exact userProtected_storeMachine
  exact user_memory_isolated checkedStores_ramBus quietHost_ramHost (by decide) (by decide)
    reachable_storeMachine hprot hrun

end Athrill
