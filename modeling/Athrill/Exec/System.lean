import Athrill.Exec.Stack
import Athrill.Exec.FpuOps
import Athrill.Intc.Control
import Athrill.Mpu.Hook

/-!
# System instructions

The executors of `op_exec_spec.c` and `op_exec_spec_rh850.c` that read or write
system registers, enter a software exception or return from one.

* `ldsrWrite`: what `LDSR` does to a register.
* `trapEntry`, `fetrapEntry`, `syscallEntry`: the software exceptions.
* `restoreEi`, `restoreFe`: what the returns do to the core.
* `run_opExecLdsr` and the lemmas after it: what each executor does as a whole.
-/

namespace Athrill

open TargetCore Routine Bits

/-! ## Access to system registers -/

/-- `sys_reg_access_has_permission`. -/
def sysRegAccessHasPermission (cpu : TargetCore) (regid selid : Nat) : Bool :=
  decide (selid = 0 ∧ regid = 5) || !cpu.issetUM

/-- The write of `op_exec_ldsr`.  The hook takes the register number first, the
call gives it the selector first. -/
def ldsrWrite (id : SysReg) (data : Word) (cpu : TargetCore) : TargetCore :=
  if id = .ispr then
    if (cpu.getSysreg2 .intcfg).getLsbD 0 then cpu.setSysreg2 id data else cpu
  else if id = .psw then
    if cpu.issetUM then cpu.setSysreg2 id (cpu.psw ||| (data &&& pswUmMask))
    else cpu.setSysreg2 id data
  else if id = .mcc then mpuCheck cpu
  else if id.selid = 5 ∨ id.selid = 6 ∨ id.selid = 7 then
    let hooked := targetMpuHookAccess data .write id.selid.val id.regid.val cpu
    mpuSetConfig (hooked.2.setSysreg2 id hooked.1)
  else cpu.setSysreg2 id data

/-! ## Software exceptions -/

/-- The cause code of `op_exec_trap`. -/
def trapEicc (vector : Word) : Word :=
  if vector ≤ 0x0F#32 then 0x40 + vector else 0x50 + (0x0F#32 &&& vector)

/-- `op_exec_trap`. -/
def trapEntry (vector : Word) (cpu : TargetCore) : TargetCore :=
  if vector ≤ 0x1F#32 then
    let cpu := cpu.setSysreg2 .eipc (cpu.pc + 4)
    let cpu := cpu.setSysreg2 .eipsw cpu.psw
    let cpu := cpu.setSysreg2 .ecr
      ((cpu.getSysreg2 .ecr &&& 0x0000FFFF#32) ||| (trapEicc vector <<< 16))
    let cpu := (cpu.setPsw pswEP).setPsw pswID
    { cpu with pc := if vector ≤ 0x0F#32 then 0x40 else 0x50 }
  else cpu

/-- `op_exec_fetrap_1`: `ECR` is written like `FEIC`. -/
def fetrapEntry (vector : Word) (cpu : TargetCore) : TargetCore :=
  let psw := cpu.psw
  let fecc := 0x30 + vector
  let ecr := (cpu.getSysreg2 .ecr &&& 0x0000FFFF#32) ||| (fecc <<< 16)
  let cpu := cpu.setSysreg2 .fepc (cpu.pc + 2)
  let cpu := cpu.setSysreg2 .feic fecc
  let cpu := cpu.setSysreg2 .fepsw psw
  let cpu := cpu.setSysreg2 .ecr ecr
  let cpu := ((cpu.setPsw pswEP).setPsw pswID).setPsw pswNP
  { cpu with pc := 0x00000030 }

/-- `vector8` of `op_exec_syscall_10`. -/
def syscallVector (d : OpCodeFormatType10) : Word :=
  (d.rfu3.setWidth 32 <<< 5) ||| d.gen2

/-- The register writes of `op_exec_syscall_10`; `EIIC` is written twice, the
second time as `ECR`. -/
def syscallEntry (vector8 : Word) (cpu : TargetCore) : TargetCore :=
  let psw := cpu.psw
  let eiic := 0x8000 + vector8
  let ecr := (cpu.getSysreg2 .ecr &&& 0xFFFF0000#32) ||| eiic
  let cpu := cpu.setSysreg2 .eipc (cpu.pc + 4)
  let cpu := cpu.setSysreg2 .eiic eiic
  let cpu := cpu.setSysreg2 .eipsw psw
  let cpu := cpu.setSysreg2 .ecr ecr
  ((cpu.clrPsw pswUM).setPsw pswEP).setPsw pswID

/-- The address of the word that `op_exec_syscall_10` reads. -/
def syscallTableAddr (vector8 : Word) (cpu : TargetCore) : Word :=
  if vector8 ≤ cpu.getSysreg2 .sccfg &&& 0x000000FF#32 then
    cpu.getSysreg2 .scbp + (vector8 <<< 2)
  else cpu.getSysreg2 .scbp

/-! ## Returns -/

/-- `SYS_REG_EIPC_GET`. -/
def sysRegEipcGet (cpu : TargetCore) : Word :=
  cpu.getSysreg2 .eipc &&& 0xFFFFFFFE#32

/-- `SYS_REG_FEPC_GET`. -/
def sysRegFepcGet (cpu : TargetCore) : Word :=
  cpu.getSysreg2 .fepc &&& 0xFFFFFFFE#32

def restoreEi (cpu : TargetCore) : TargetCore :=
  { cpu.setSysreg2 .psw (cpu.getSysreg2 .eipsw) with pc := sysRegEipcGet cpu }

def restoreFe (cpu : TargetCore) : TargetCore :=
  { cpu.setSysreg2 .psw (cpu.getSysreg2 .fepsw) with pc := sysRegFepcGet cpu }

namespace Exec

variable {D : Type}

/-- `cpu->current_code_exception` is set. -/
def raiseCode (exno : ExceptionId) : Exec D Unit :=
  modifyCpu fun cpu => { cpu with currentCodeException := ⟨true, some exno⟩ }

instance keeps_raiseCode (exno : ExceptionId) :
    Keeps OrdinaryStep (raiseCode exno : Exec D Unit) :=
  keeps_modifyCpu (fun _ => rfl) (fun _ => rfl) (fun _ => rfl) fun _ => rfl

/-- A call of the interrupt controller with the core's number. -/
def modifyIntc (f : CoreId → CpuIntc → CpuIntc) : Exec D Unit :=
  modify fun s => { s with toCpuIntc := f s.cpu.coreId s.toCpuIntc }

/-- `get_sysreg2`; a selector past the array of groups is undefined. -/
def getSysregId (selid regid : Nat) : Exec D SysReg :=
  if h : selid < 8 ∧ regid < 32 then pure ⟨⟨selid, h.1⟩, ⟨regid, h.2⟩⟩ else undefined

instance keeps_getSysregId (selid regid : Nat) :
    Keeps OrdinaryStep (getSysregId selid regid : Exec D SysReg) := by
  unfold getSysregId
  infer_instance

/-! ## LDSR and STSR -/

abbrev opExecLdsr (d : OpCodeFormatType9) : Exec D Unit := do
  checkReg d.gen.toNat
  checkReg d.reg2.toNat
  let granted ← getCpu fun cpu => sysRegAccessHasPermission cpu d.reg2.toNat d.rfu2.toNat
  -- without permission the exception is flagged and the program counter kept
  if granted = false then raiseCode .pie
  else do
    let id ← getSysregId d.rfu2.toNat d.reg2.toNat
    let data ← getR d.gen.toNat
    modifyCpu fun cpu => fpuSyncSysreg id (ldsrWrite id data cpu)
    addPc 4

abbrev opExecStsr (d : OpCodeFormatType9) : Exec D Unit := do
  checkReg d.reg2.toNat
  checkReg d.gen.toNat
  let granted ← getCpu fun cpu => sysRegAccessHasPermission cpu d.gen.toNat d.rfu2.toNat
  if granted = false then raiseCode .pie
  else do
    let id ← getSysregId d.rfu2.toNat d.gen.toNat
    let data ← getCpu fun cpu => cpu.getSysreg2 id
    setR d.reg2.toNat data
    addPc 4

/-! ## Interrupt enable and HALT -/

/-- `op_exec_diei`: `DI` and `EI`. -/
abbrev opExecDiei (d : OpCodeFormatType10) : Exec D Unit := do
  let denied ← getCpu fun cpu => !(cpu.getSysreg2 .mctl).getLsbD 0 && cpu.issetUM
  if denied then do
    raiseCode .pie
    fail
  else do
    modifyCpu fun cpu => if d.gen1 = 0x04 then cpu.clrPsw pswID else cpu.setPsw pswID
    addPc 4

abbrev opExecHalt : Exec D Unit := do
  modifyCpu fun cpu => { cpu with isHalt := true }
  addPc 4

/-! ## Returns -/

abbrev opExecFeret10 : Exec D Unit := do
  modifyCpu restoreFe
  modifyIntc intcClrFe

abbrev opExecEiret10 : Exec D Unit := do
  modifyCpu restoreEi
  modifyIntc intcClrEi

abbrev opExecReti : Exec D Unit := do
  let np ← getCpu issetNP
  if np then opExecFeret10 else opExecEiret10

/-! ## Software exceptions -/

abbrev opExecTrap (d : OpCodeFormatType10) : Exec D Unit :=
  modifyCpu (trapEntry d.gen2)

abbrev opExecFetrap1 (d : OpCodeFormatType1) : Exec D Unit :=
  modifyCpu (fetrapEntry (d.reg2.setWidth 32))

/-- A failing read comes after the register writes. -/
abbrev opExecSyscall10 (bus : Bus D) (d : OpCodeFormatType10) : Exec D Unit := do
  let addr ← getCpu (syscallTableAddr (syscallVector d))
  let scbp ← getCpu fun cpu => cpu.getSysreg2 .scbp
  modifyCpu (syscallEntry (syscallVector d))
  let data ← busGetData32 bus addr
  setPc (scbp + data)

/-! ## The executors as a whole -/

theorem run_getSysregId (id : SysReg) (s : CpuState D) :
    (getSysregId id.selid.val id.regid.val).run s = (.ok id, s) := by
  unfold getSysregId
  rw [dif_pos ⟨id.selid.isLt, id.regid.isLt⟩]
  rfl

section Run

variable (s : CpuState D)

theorem run_getGranted {regid selid : Nat} {granted : Bool}
    (hgranted : sysRegAccessHasPermission s.cpu regid selid = granted) :
    (getCpu fun cpu => sysRegAccessHasPermission cpu regid selid).run s = (.ok granted, s) := by
  rw [← hgranted]
  rfl

/-- `LDSR` without permission flags the exception and does nothing else. -/
theorem run_opExecLdsr_denied {d : OpCodeFormatType9} (hgen : d.gen.toNat < 32)
    (hreg : d.reg2.toNat < 32)
    (hdenied : sysRegAccessHasPermission s.cpu d.reg2.toNat d.rfu2.toNat = false) :
    (opExecLdsr d).run s =
      (.ok (), { s with cpu := { s.cpu with currentCodeException := ⟨true, some .pie⟩ } }) := by
  unfold opExecLdsr
  rw [run_bind, run_checkReg hgen, andThen_ok, run_bind, run_checkReg hreg, andThen_ok, run_bind,
    run_getGranted s hdenied, andThen_ok, if_pos rfl]
  rfl

/-- `LDSR` with permission writes the register. -/
theorem run_opExecLdsr {d : OpCodeFormatType9} (id : SysReg) (hgen : d.gen.toNat < 32)
    (hreg : d.reg2.toNat = id.regid.val) (hsel : d.rfu2.toNat = id.selid.val)
    (hgranted : sysRegAccessHasPermission s.cpu id.regid.val id.selid.val = true) :
    (opExecLdsr d).run s =
      (.ok (),
        { s with
          cpu :=
            let cpu := fpuSyncSysreg id (ldsrWrite id (s.cpu.r ⟨_, hgen⟩) s.cpu)
            { cpu with pc := cpu.pc + 4 } }) := by
  have hreg32 : d.reg2.toNat < 32 := by
    rw [hreg]
    exact id.regid.isLt
  unfold opExecLdsr
  rw [run_bind, run_checkReg hgen, andThen_ok, run_bind, run_checkReg hreg32, andThen_ok,
    run_bind, hreg, hsel, run_getGranted s hgranted, andThen_ok, if_neg (by simp), run_bind,
    run_getSysregId, andThen_ok, run_bind, run_getR hgen, andThen_ok]
  rfl

theorem run_opExecDiei (d : OpCodeFormatType10) :
    (opExecDiei d).run s =
      if (!(s.cpu.getSysreg2 .mctl).getLsbD 0 && s.cpu.issetUM) = true then
        (.error .fail,
          { s with cpu := { s.cpu with currentCodeException := ⟨true, some .pie⟩ } })
      else
        (.ok (),
          { s with
            cpu :=
              let cpu := if d.gen1 = 0x04 then s.cpu.clrPsw pswID else s.cpu.setPsw pswID
              { cpu with pc := cpu.pc + 4 } }) := by
  unfold opExecDiei
  rw [run_bind]
  have hget : (getCpu fun cpu => !(cpu.getSysreg2 .mctl).getLsbD 0 && cpu.issetUM).run s =
      (.ok (!(s.cpu.getSysreg2 .mctl).getLsbD 0 && s.cpu.issetUM), s) := rfl
  rw [hget, andThen_ok, run_ite]
  split_ifs <;> rfl

theorem run_opExecFeret10 :
    (opExecFeret10 : Exec D Unit).run s =
      (.ok (), { s with toCpuIntc := intcClrFe s.cpu.coreId ⟨restoreFe s.cpu, s.intc⟩ }) :=
  rfl

theorem run_opExecEiret10 :
    (opExecEiret10 : Exec D Unit).run s =
      (.ok (), { s with toCpuIntc := intcClrEi s.cpu.coreId ⟨restoreEi s.cpu, s.intc⟩ }) :=
  rfl

theorem run_opExecReti :
    (opExecReti : Exec D Unit).run s =
      if s.cpu.issetNP = true then opExecFeret10.run s else opExecEiret10.run s := by
  unfold opExecReti
  rw [run_bind]
  have hget : (getCpu issetNP : Exec D Bool).run s = (.ok s.cpu.issetNP, s) := rfl
  rw [hget, andThen_ok, run_ite]

theorem run_opExecFetrap1 (d : OpCodeFormatType1) :
    (opExecFetrap1 d).run s =
      (.ok (), { s with cpu := fetrapEntry (d.reg2.setWidth 32) s.cpu }) :=
  rfl

/-- `SYSCALL`, by the outcome of the read of the table. -/
theorem run_opExecSyscall10 (bus : Bus D) (d : OpCodeFormatType10) :
    (opExecSyscall10 bus d).run s =
      let entered : CpuState D := { s with cpu := syscallEntry (syscallVector d) s.cpu }
      match bus.getData32 entered (syscallTableAddr (syscallVector d) s.cpu) with
      | (some word, v) =>
        (.ok (),
          { entered.withView v with
            cpu :=
              { (entered.withView v).cpu with pc := s.cpu.getSysreg2 .scbp + word } })
      | (none, v) => (.error .fail, entered.withView v) := by
  show andThen _ ((busGetData32 bus _).run _) = _
  unfold busGetData32 busAccess
  rw [run_lift]
  dsimp only
  split <;> rename_i heq <;> rw [heq] <;> rfl

end Run

end Exec

end Athrill
