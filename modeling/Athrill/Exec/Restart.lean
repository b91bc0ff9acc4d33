import Athrill.Exec.Plain
import Athrill.Lib.Rollback

/-!
# Instructions that can be executed again

When an executor returns an error or flags a code exception, the handler is to
return to the instruction and execute it again, so what it reads must be as
before.  Most executors check and access memory first and write registers
afterwards; for them the classes of `Lib/Rollback` are found from their shape.

* `Frozen`: what the entry of the exception saves and the instruction reads.
* `BusContract`: what the executors rely on at the bus.
* `writesEarly`: the executors that write before they access.
* `rollsBack_opExecTable`: all others.
-/

namespace Athrill

open TargetCore Routine

variable {D : Type}

/-! ## What must not change -/

/-- `PSW` and the registers that an exception entry saves to. -/
def savedRegs : List SysReg := [.psw, .eipc, .eipsw, .fepc, .fepsw]

/-- The program counter, the general registers, `PSW` and the save registers
are kept. -/
structure Frozen (s s' : CpuState D) : Prop where
  pc : s'.cpu.pc = s.cpu.pc
  r : s'.cpu.r = s.cpu.r
  sys : ∀ id ∈ savedRegs, s'.cpu.getSysreg2 id = s.cpu.getSysreg2 id

instance : Std.Refl (Frozen (D := D)) where
  refl _ := ⟨rfl, rfl, fun _ _ => rfl⟩

instance : IsTrans (CpuState D) Frozen where
  trans _ _ _ h h' :=
    ⟨h'.pc.trans h.pc, h'.r.trans h.r, fun id hid => (h'.sys id hid).trans (h.sys id hid)⟩

/-- A code exception is flagged. -/
def codeFlag (s : CpuState D) : Bool :=
  s.cpu.currentCodeException.isCodeException

/-- An executor returns an error or flags a code exception. -/
abbrev Faults {α : Type} (x : Exec D α) (s : CpuState D) : Prop :=
  Faulted Stop.fail codeFlag x s

/-! ## The bus -/

/-- An access that goes through flags no code exception, and one that fails
leaves the general registers alone. -/
structure AccessContract {α : Type} (access : CpuState D → Option α × BusView D) : Prop where
  flag : ∀ s, (access s).1.isSome = true →
    (access s).2.currentCodeException = s.cpu.currentCodeException
  r : ∀ s, (access s).1 = none → (access s).2.r = s.cpu.r

/-- A read leaves the general registers alone, too. -/
structure ReadContract {α : Type} (access : CpuState D → Option α × BusView D) : Prop extends
    AccessContract access where
  read : ∀ s, (access s).2.r = s.cpu.r

/-- What the executors rely on.  A store may write a general register, through
the register window of the debugger; a pointer never leads there, since the
window has no operation for it. -/
class BusContract (bus : Bus D) : Prop where
  get8 : ∀ addr, ReadContract fun s => bus.getData8 s addr
  get16 : ∀ addr, ReadContract fun s => bus.getData16 s addr
  get32 : ∀ addr, ReadContract fun s => bus.getData32 s addr
  put8 : ∀ addr data, AccessContract fun s => bus.putData8 s addr data
  put16 : ∀ addr data, AccessContract fun s => bus.putData16 s addr data
  put32 : ∀ addr data, AccessContract fun s => bus.putData32 s addr data
  store : ∀ s addr data v, bus.storePointer s addr data = some v →
    v.r = s.cpu.r ∧ v.currentCodeException = s.cpu.currentCodeException

namespace Exec

/-! ## Primitive steps -/

/-- A change of the core outside the kept registers. -/
theorem keeps_frozen_modifyCpu {f : TargetCore → TargetCore} (hpc : ∀ cpu, (f cpu).pc = cpu.pc)
    (hr : ∀ cpu, (f cpu).r = cpu.r) (hsys : ∀ cpu, (f cpu).sys = cpu.sys) :
    Keeps Frozen (modifyCpu f : Exec D Unit) :=
  keeps_modify fun s => ⟨hpc s.cpu, hr s.cpu, fun id _ => congrFun (hsys s.cpu) id⟩

/-- A change of the core that does not touch the flagged exception. -/
theorem calm_modifyCpu {f : TargetCore → TargetCore}
    (h : ∀ cpu, (f cpu).currentCodeException = cpu.currentCodeException) :
    Calm codeFlag (modifyCpu f : Exec D Unit) :=
  calm_modify fun s => congrArg CodeException.isCodeException (h s.cpu)

instance unfailing_modifyCpu (f : TargetCore → TargetCore) :
    Unfailing Stop.fail (modifyCpu f : Exec D Unit) :=
  unfailing_modify _

section Fail

variable {α : Type}

instance keeps_frozen_fail : Keeps Frozen (fail : Exec D α) := keeps_stop _
instance calm_fail : Calm codeFlag (fail : Exec D α) := calm_stop _

instance keeps_frozen_undefined : Keeps Frozen (undefined : Exec D α) := keeps_stop _
instance calm_undefined : Calm codeFlag (undefined : Exec D α) := calm_stop _
instance unfailing_undefined : Unfailing Stop.fail (undefined : Exec D α) :=
  unfailing_stop (by decide)

instance keeps_frozen_getCpu (f : TargetCore → α) : Keeps Frozen (getCpu f : Exec D α) :=
  keeps_gets _

instance calm_getCpu (f : TargetCore → α) : Calm codeFlag (getCpu f : Exec D α) :=
  calm_gets _

instance unfailing_getCpu (f : TargetCore → α) : Unfailing Stop.fail (getCpu f : Exec D α) :=
  unfailing_gets _

end Fail

instance keeps_frozen_getPc : Keeps Frozen (getPc : Exec D Word) := keeps_gets _
instance calm_getPc : Calm codeFlag (getPc : Exec D Word) := calm_gets _
instance unfailing_getPc : Unfailing Stop.fail (getPc : Exec D Word) := unfailing_gets _

section Words

variable (n : Word)

instance keeps_frozen_getPcAdd : Keeps Frozen (getPcAdd n : Exec D Word) := keeps_gets _
instance calm_getPcAdd : Calm codeFlag (getPcAdd n : Exec D Word) := calm_gets _
instance unfailing_getPcAdd : Unfailing Stop.fail (getPcAdd n : Exec D Word) := unfailing_gets _

instance calm_setPc : Calm codeFlag (setPc n : Exec D Unit) := calm_modifyCpu fun _ => rfl
instance unfailing_setPc : Unfailing Stop.fail (setPc n : Exec D Unit) := unfailing_modifyCpu _

instance calm_addPc : Calm codeFlag (addPc n : Exec D Unit) := calm_modifyCpu fun _ => rfl
instance unfailing_addPc : Unfailing Stop.fail (addPc n : Exec D Unit) := unfailing_modifyCpu _

instance keeps_frozen_addElaps : Keeps Frozen (addElaps n : Exec D Unit) :=
  keeps_frozen_modifyCpu (fun _ => rfl) (fun _ => rfl) fun _ => rfl

instance calm_addElaps : Calm codeFlag (addElaps n : Exec D Unit) := calm_modifyCpu fun _ => rfl

instance unfailing_addElaps : Unfailing Stop.fail (addElaps n : Exec D Unit) :=
  unfailing_modifyCpu _

end Words

instance keeps_frozen_clearElaps : Keeps Frozen (clearElaps : Exec D Unit) :=
  keeps_frozen_modifyCpu (fun _ => rfl) (fun _ => rfl) fun _ => rfl

instance calm_clearElaps : Calm codeFlag (clearElaps : Exec D Unit) :=
  calm_modifyCpu fun _ => rfl

section Registers

variable (n : Nat)

instance keeps_frozen_getR : Keeps Frozen (getR n : Exec D Word) := by
  unfold getR
  infer_instance

instance calm_getR : Calm codeFlag (getR n : Exec D Word) := by
  unfold getR
  infer_instance

instance unfailing_getR : Unfailing Stop.fail (getR n : Exec D Word) := by
  unfold getR
  infer_instance

instance calm_setR (data : Word) : Calm codeFlag (setR n data : Exec D Unit) := by
  have hwrite : ∀ i : Fin 32, Calm codeFlag
      (modifyCpu fun cpu => { cpu with r := Function.update cpu.r i data } : Exec D Unit) :=
    fun _ => calm_modifyCpu fun _ => rfl
  unfold setR
  infer_instance

instance unfailing_setR (data : Word) : Unfailing Stop.fail (setR n data : Exec D Unit) := by
  unfold setR
  infer_instance

instance keeps_frozen_checkReg : Keeps Frozen (checkReg n : Exec D Unit) := by
  unfold checkReg failIf
  infer_instance

instance calm_checkReg : Calm codeFlag (checkReg n : Exec D Unit) := by
  unfold checkReg failIf
  infer_instance

end Registers

section FailIf

variable (c : Prop) [Decidable c]

instance keeps_frozen_failIf : Keeps Frozen (failIf c : Exec D Unit) := by
  unfold failIf
  infer_instance

instance calm_failIf : Calm codeFlag (failIf c : Exec D Unit) := by
  unfold failIf
  infer_instance

end FailIf

section Flags

variable (flag : Bool)

theorem calm_putPsw (bit : Nat) : Calm codeFlag (putPsw bit flag : Exec D Unit) :=
  calm_modifyCpu fun _ => by cases flag <;> rfl

theorem unfailing_putPsw (bit : Nat) : Unfailing Stop.fail (putPsw bit flag : Exec D Unit) :=
  unfailing_modifyCpu _

instance calm_setZ : Calm codeFlag (setZ flag : Exec D Unit) := calm_putPsw flag _
instance unfailing_setZ : Unfailing Stop.fail (setZ flag : Exec D Unit) := unfailing_putPsw flag _
instance calm_setS : Calm codeFlag (setS flag : Exec D Unit) := calm_putPsw flag _
instance unfailing_setS : Unfailing Stop.fail (setS flag : Exec D Unit) := unfailing_putPsw flag _
instance calm_setOV : Calm codeFlag (setOV flag : Exec D Unit) := calm_putPsw flag _
instance unfailing_setOV : Unfailing Stop.fail (setOV flag : Exec D Unit) :=
  unfailing_putPsw flag _
instance calm_setCY : Calm codeFlag (setCY flag : Exec D Unit) := calm_putPsw flag _
instance unfailing_setCY : Unfailing Stop.fail (setCY flag : Exec D Unit) :=
  unfailing_putPsw flag _
instance calm_setSAT : Calm codeFlag (setSAT flag : Exec D Unit) := calm_putPsw flag _
instance unfailing_setSAT : Unfailing Stop.fail (setSAT flag : Exec D Unit) :=
  unfailing_putPsw flag _

end Flags

instance keeps_frozen_hasPermission (accessType : TargetMpuAccess) (addr size : Word) :
    Keeps Frozen (hasPermission accessType addr size : Exec D Bool) := by
  refine keeps_lift fun s => ?_
  obtain ⟨info, hinfo⟩ := targetMpuHasPermission_snd s.cpu accessType addr size
  show Frozen s { s with cpu := (targetMpuHasPermission s.cpu accessType addr size).2 }
  rw [hinfo]
  exact ⟨rfl, rfl, fun _ _ => rfl⟩

instance calm_hasPermission (accessType : TargetMpuAccess) (addr size : Word) :
    Calm codeFlag (hasPermission accessType addr size : Exec D Bool) where
  calm s a s' h := by
    obtain ⟨info, hinfo⟩ := targetMpuHasPermission_snd s.cpu accessType addr size
    injection h with _ hs
    rw [← hs]
    show (targetMpuHasPermission s.cpu accessType addr size).2.currentCodeException.isCodeException =
      _
    rw [hinfo]
    rfl

/-! ## Floating point -/

section Float

variable {α : Type} (f : D → α × D)

instance keeps_frozen_hostEval : Keeps Frozen (hostEval f : Exec D α) :=
  keeps_lift fun _ => ⟨rfl, rfl, fun _ _ => rfl⟩

instance calm_hostEval : Calm codeFlag (hostEval f : Exec D α) where
  calm s a s' h := by
    injection h with _ hs
    rw [← hs]
    rfl

instance unfailing_hostEval : Unfailing Stop.fail (hostEval f : Exec D α) where
  result s h := by
    cases h

end Float

instance calm_raiseFpst (bits : Byte) : Calm codeFlag (raiseFpst bits : Exec D Unit) :=
  calm_modifyCpu fun _ => rfl

instance unfailing_raiseFpst (bits : Byte) :
    Unfailing Stop.fail (raiseFpst bits : Exec D Unit) :=
  unfailing_modifyCpu _

instance calm_putFpsrCc (data : Byte) : Calm codeFlag (putFpsrCc data : Exec D Unit) :=
  calm_modifyCpu fun _ => rfl

instance unfailing_putFpsrCc (data : Byte) :
    Unfailing Stop.fail (putFpsrCc data : Exec D Unit) :=
  unfailing_modifyCpu _

/-! ## Accesses -/

section Access

variable {α : Type} {access : CpuState D → Option α × BusView D}

theorem keeps_frozen_busAccess (h : ReadContract access) :
    Keeps Frozen (busAccess access : Exec D α) := by
  refine keeps_lift fun s => ?_
  have hread := h.read s
  rcases hacc : access s with ⟨_ | a, v⟩
  · rw [hacc] at hread
    exact ⟨rfl, hread, fun _ _ => rfl⟩
  · rw [hacc] at hread
    exact ⟨rfl, hread, fun _ _ => rfl⟩

theorem calm_busAccess (h : AccessContract access) : Calm codeFlag (busAccess access : Exec D α) where
  calm s a s' hrun := by
    have hflag := h.flag s
    unfold busAccess at hrun
    rw [run_lift] at hrun
    rcases hacc : access s with ⟨_ | a', v⟩
    · rw [hacc] at hrun
      cases hrun
    · rw [hacc] at hrun hflag
      cases hrun
      exact congrArg CodeException.isCodeException (hflag rfl)

theorem rollsBack_busAccess (h : AccessContract access) :
    RollsBack Frozen Stop.fail codeFlag (busAccess access : Exec D α) where
  back s hfault := by
    have hcalm := (calm_busAccess h).calm s
    have hr := h.r s
    unfold Faulted at hfault
    unfold busAccess at hcalm hfault ⊢
    rw [run_lift] at hcalm hfault ⊢
    rcases hacc : access s with ⟨_ | a, v⟩
    · rw [hacc] at hr
      exact ⟨rfl, hr rfl, fun _ _ => rfl⟩
    · rw [hacc] at hcalm hfault
      rcases hfault with herror | ⟨_, hbefore, hafter⟩
      · cases herror
      · rw [hcalm a _ rfl, hbefore] at hafter
        cases hafter

end Access

section Bus

variable (bus : Bus D) [hbus : BusContract bus] (addr : Word)

instance : Keeps Frozen (busGetData8 bus addr) := keeps_frozen_busAccess (hbus.get8 addr)
instance : Calm codeFlag (busGetData8 bus addr) := calm_busAccess (hbus.get8 addr).toAccessContract
instance : Keeps Frozen (busGetData16 bus addr) := keeps_frozen_busAccess (hbus.get16 addr)
instance : Calm codeFlag (busGetData16 bus addr) := calm_busAccess (hbus.get16 addr).toAccessContract
instance : Keeps Frozen (busGetData32 bus addr) := keeps_frozen_busAccess (hbus.get32 addr)
instance : Calm codeFlag (busGetData32 bus addr) := calm_busAccess (hbus.get32 addr).toAccessContract

instance (data : Byte) : Calm codeFlag (busPutData8 bus addr data) :=
  calm_busAccess (hbus.put8 addr data)

instance (data : Byte) : RollsBack Frozen Stop.fail codeFlag (busPutData8 bus addr data) :=
  rollsBack_busAccess (hbus.put8 addr data)

instance (data : HalfWord) : Calm codeFlag (busPutData16 bus addr data) :=
  calm_busAccess (hbus.put16 addr data)

instance (data : HalfWord) : RollsBack Frozen Stop.fail codeFlag (busPutData16 bus addr data) :=
  rollsBack_busAccess (hbus.put16 addr data)

instance (data : Word) : Calm codeFlag (busPutData32 bus addr data) :=
  calm_busAccess (hbus.put32 addr data)

instance (data : Word) : RollsBack Frozen Stop.fail codeFlag (busPutData32 bus addr data) :=
  rollsBack_busAccess (hbus.put32 addr data)

end Bus

theorem readContract_getPointer (bus : Bus D) (addr : Word) :
    ReadContract fun s => (bus.getPointer s addr, s.view) :=
  ⟨⟨fun _ _ => rfl, fun _ _ => rfl⟩, fun _ => rfl⟩

instance keeps_frozen_busGetPointer (bus : Bus D) (addr : Word) :
    Keeps Frozen (busGetPointer bus addr) :=
  keeps_frozen_busAccess (readContract_getPointer bus addr)

instance calm_busGetPointer (bus : Bus D) (addr : Word) : Calm codeFlag (busGetPointer bus addr) :=
  calm_busAccess (readContract_getPointer bus addr).toAccessContract

/-! ## System instructions -/

instance keeps_frozen_raiseCode (exno : ExceptionId) :
    Keeps Frozen (raiseCode exno : Exec D Unit) :=
  keeps_frozen_modifyCpu (fun _ => rfl) (fun _ => rfl) fun _ => rfl

instance keeps_frozen_getSysregId (selid regid : Nat) :
    Keeps Frozen (getSysregId selid regid : Exec D SysReg) := by
  unfold getSysregId
  infer_instance

instance calm_getSysregId (selid regid : Nat) :
    Calm codeFlag (getSysregId selid regid : Exec D SysReg) := by
  unfold getSysregId
  infer_instance

instance unfailing_modifyIntc (f : CoreId → CpuIntc → CpuIntc) :
    Unfailing Stop.fail (modifyIntc f : Exec D Unit) :=
  unfailing_modify _

/-- A call of the interrupt controller that does not touch the flagged
exception. -/
theorem calm_modifyIntc {f : CoreId → CpuIntc → CpuIntc}
    (h : ∀ coreId s, (f coreId s).cpu.currentCodeException = s.cpu.currentCodeException) :
    Calm codeFlag (modifyIntc f : Exec D Unit) :=
  calm_modify fun s => congrArg CodeException.isCodeException (h s.cpu.coreId s.toCpuIntc)

instance calm_intcClrFe : Calm codeFlag (modifyIntc intcClrFe : Exec D Unit) :=
  calm_modifyIntc fun coreId s => by
    unfold intcClrFe
    split <;> rfl

instance calm_intcClrEi : Calm codeFlag (modifyIntc intcClrEi : Exec D Unit) :=
  calm_modifyIntc fun coreId s => by
    unfold intcClrEi intcSetCurrentUserIntrPriorityDegree
    split
    · rfl
    · dsimp only
      split_ifs <;> rfl

instance calm_restoreEi : Calm codeFlag (modifyCpu restoreEi : Exec D Unit) :=
  calm_modifyCpu fun _ => rfl

instance calm_restoreFe : Calm codeFlag (modifyCpu restoreFe : Exec D Unit) :=
  calm_modifyCpu fun _ => rfl

instance calm_trapEntry (vector : Word) : Calm codeFlag (modifyCpu (trapEntry vector) : Exec D Unit) :=
  calm_modifyCpu fun cpu => by
    unfold trapEntry
    split_ifs <;> simp only [currentCodeException_setPsw, currentCodeException_setSysreg2]

instance calm_fetrapEntry (vector : Word) :
    Calm codeFlag (modifyCpu (fetrapEntry vector) : Exec D Unit) :=
  calm_modifyCpu fun cpu => by
    unfold fetrapEntry
    simp only [currentCodeException_setPsw, currentCodeException_setSysreg2]

instance calm_diei (d : OpCodeFormatType10) :
    Calm codeFlag (modifyCpu fun cpu =>
      if d.gen1 = 0x04 then cpu.clrPsw pswID else cpu.setPsw pswID : Exec D Unit) :=
  calm_modifyCpu fun _ => by split_ifs <;> rfl

instance calm_halt :
    Calm codeFlag (modifyCpu fun cpu => { cpu with isHalt := true } : Exec D Unit) :=
  calm_modifyCpu fun _ => rfl

end Exec

theorem currentCodeException_ldsrWrite (id : SysReg) (data : Word) (cpu : TargetCore) :
    (fpuSyncSysreg id (ldsrWrite id data cpu)).currentCodeException = cpu.currentCodeException := by
  have hsync (cpu' : TargetCore) :
      (fpuSyncSysreg id cpu').currentCodeException = cpu'.currentCodeException := by
    obtain ⟨sys, hsys⟩ := eq_of_fpuSyncSysreg id cpu'
    rw [hsys]
  have hhook : (mpuHookAccessWrite data id.selid.val id.regid.val cpu).currentCodeException =
      cpu.currentCodeException := by
    obtain ⟨sys, hsys⟩ := eq_of_mpuHookAccessWrite data id.selid.val id.regid.val cpu
    rw [hsys]
  rw [hsync]
  unfold ldsrWrite
  dsimp only
  split_ifs
  · rfl
  · rfl
  · rfl
  · rfl
  · rfl
  · exact hhook
  · rfl

instance Exec.calm_ldsr (id : SysReg) (data : Word) :
    Calm codeFlag (modifyCpu fun cpu => fpuSyncSysreg id (ldsrWrite id data cpu) : Exec D Unit) :=
  calm_modifyCpu fun cpu => currentCodeException_ldsrWrite id data cpu

/-! ## The table -/

/-- The executors that write a register before an access that can fail. -/
def writesEarly : OpCodeId → Bool
  | .not1_8 | .not1_9 | .prepare_13 | .dispose_13 | .pushsp_11 | .popsp_11 | .st_dw_14
  | .syscall_10 => true
  | _ => false

set_option synthInstance.maxSize 100000 in
/-- Every other executor leaves the kept registers alone when it faults. -/
theorem rollsBack_opExecTable {p : Platform D} [BusContract p.bus] {codeId : OpCodeId}
    {executor : OpDecodedCode → Exec D Unit} (hearly : writesEarly codeId = false)
    (hexec : opExecTable p codeId = some executor) (d : OpDecodedCode) :
    RollsBack Frozen Stop.fail codeFlag (executor d) := by
  cases codeId <;> cases hearly <;> cases hexec <;> infer_instance

end Athrill
