import Athrill.Cpu.Run

/-!
# Exception entries

The seven ways into an exception handler: `TRAP`, `FETRAP` and `SYSCALL`, the
trap of a reserved instruction, and `raise_Exception` of the interrupt
controller at its two levels, which also serves the privileged instruction and
the MPU violations.  The old name `ECR` stands for `EIIC`: an entry that keeps
the cause of a FE level exception in the upper half of `ECR` writes the cause
register of the EI level.

* `EntryContract`: what an entry of a level does.
* `EntryHolds`, `entryContract_iff`: when each of the entries does it.
-/

namespace Athrill

open TargetCore Bits Exec

variable {D : Type}

/-! ## The contract -/

/-- The registers of a level. -/
structure LevelRegs where
  pc : SysReg
  psw : SysReg
  cause : SysReg

/-- The registers of the FE level, or those of the EI level. -/
def levelRegs (fe : Bool) : LevelRegs :=
  if fe then ⟨.fepc, .fepsw, .feic⟩ else ⟨.eipc, .eipsw, .eiic⟩

/-- What an entry is to do: its level, the address to return to, the cause and
whether it is an exception in the sense of `PSW.EP`. -/
structure EntrySpec where
  fe : Bool
  returnPc : Word
  code : Word
  ep : Bool

/-- The contract of an entry. -/
structure EntryContract (spec : EntrySpec) (cpu cpu' : TargetCore) : Prop where
  savedPc : cpu'.getSysreg2 (levelRegs spec.fe).pc = spec.returnPc
  savedPsw : cpu'.getSysreg2 (levelRegs spec.fe).psw = cpu.psw
  cause : cpu'.getSysreg2 (levelRegs spec.fe).cause = spec.code
  um : cpu'.issetUM = false
  id : cpu'.issetID = true
  ep : cpu'.issetEP = spec.ep
  np : cpu'.issetNP = (spec.fe || cpu.issetNP)
  otherPc : cpu'.getSysreg2 (levelRegs !spec.fe).pc = cpu.getSysreg2 (levelRegs !spec.fe).pc
  otherPsw : cpu'.getSysreg2 (levelRegs !spec.fe).psw = cpu.getSysreg2 (levelRegs !spec.fe).psw
  otherCause :
    cpu'.getSysreg2 (levelRegs !spec.fe).cause = cpu.getSysreg2 (levelRegs !spec.fe).cause

/-! ## The entries -/

/-- The exception entries of the source. -/
inductive Entry where
  | trap (d : OpCodeFormatType10)
  | fetrap (d : OpCodeFormatType1)
  | syscall (d : OpCodeFormatType10)
  /-- `cpu_illegal_opcode_trap`. -/
  | reserved
  /-- `raise_Exception`. -/
  | intc (exception : ExceptionRequest)

namespace Entry

/-- The state after the entry. -/
def enter (bus : Bus D) : Entry → CpuState D → CpuState D
  | trap d, s => ((opExecTrap d).run s).2
  | fetrap d, s => ((opExecFetrap1 d).run s).2
  | syscall d, s => ((opExecSyscall10 bus d).run s).2
  | reserved, s => { s with cpu := cpuIllegalOpcodeTrap s.cpu }
  | intc exception, s => raiseException bus exception s

/-- The exceptions that are interrupts. -/
def isInterrupt (exno : ExceptionId) : Bool :=
  exno = .fenmi || exno = .feint || exno = .userIntr

/-- What the entry is to do. -/
def spec (cpu : TargetCore) : Entry → EntrySpec
  | trap d => { fe := false, returnPc := cpu.pc + 4, code := trapEicc d.gen2, ep := true }
  | fetrap d => { fe := true, returnPc := cpu.pc + 2, code := 0x30 + d.reg2.setWidth 32, ep := true }
  | syscall d =>
    { fe := false, returnPc := cpu.pc + 4, code := 0x8000 + syscallVector d, ep := true }
  | reserved =>
    { fe := (exceptionConfig .rie).level = .fe, returnPc := cpu.pc
      code := (exceptionConfig .rie).handler.code, ep := true }
  | intc exception =>
    { fe := exception.req.level = .fe, returnPc := cpu.pc
      code := intcGetExceptionCode cpu exception.exno exception.intno
      ep := !isInterrupt exception.exno }

/-- The vector of `TRAP` has five bits, and a reset is no request of the
interrupt controller. -/
def Formed : Entry → Prop
  | trap d => d.gen2 ≤ 0x1F#32
  | intc exception => exception.exno ≠ .reset
  | _ => True

end Entry

/-- When an entry keeps the contract. -/
def EntryHolds (cpu : TargetCore) : Entry → Prop
  -- `UM` is kept and the cause goes to the upper half
  | .trap _ => False
  -- `UM` is kept and the cause goes to the upper half of `EIIC` as well
  | .fetrap d => cpu.issetUM = false ∧
      (cpu.getSysreg2 .eiic &&& 0x0000FFFF#32) ||| ((0x30 + d.reg2.setWidth 32) <<< 16) =
        cpu.getSysreg2 .eiic
  -- the upper half of `EIIC` is kept
  | .syscall d =>
      cpu.getSysreg2 .eiic &&& 0xFFFF0000#32 &&& ~~~(0x8000 + syscallVector d) = 0#32
  -- nothing is saved in the bank of the FE level; that of the EI level is written
  | .reserved => cpu.issetUM = false ∧ cpu.getSysreg2 .fepc = cpu.pc ∧
      cpu.getSysreg2 .fepsw = cpu.psw ∧ cpu.getSysreg2 .feic = 0x60#32 ∧
      cpu.getSysreg2 .eipc = cpu.pc - 4 ∧ cpu.getSysreg2 .eipsw = cpu.psw ∧
      (cpu.getSysreg2 .eiic &&& 0x00FF#32) ||| 0x600000#32 = cpu.getSysreg2 .eiic
  -- the EI level keeps the upper half of `EIIC`
  | .intc exception => exception.req.level = .fe ∨
      cpu.getSysreg2 .eiic &&& 0xFFFF0000#32 &&&
        ~~~intcGetExceptionCode cpu exception.exno exception.intno = 0#32

/-! ## Registers after an entry -/

theorem getSysreg2_setPsw_of_ne {id : SysReg} (hid : id ≠ .psw) (bit : Nat) (cpu : TargetCore) :
    (cpu.setPsw bit).getSysreg2 id = cpu.getSysreg2 id :=
  getSysreg2_setSysreg2_of_ne _ _ hid

theorem getSysreg2_clrPsw_of_ne {id : SysReg} (hid : id ≠ .psw) (bit : Nat) (cpu : TargetCore) :
    (cpu.clrPsw bit).getSysreg2 id = cpu.getSysreg2 id :=
  getSysreg2_setSysreg2_of_ne _ _ hid

theorem psw_setSysreg2_of_ne {id : SysReg} (hid : SysReg.psw ≠ id) (data : Word)
    (cpu : TargetCore) : (cpu.setSysreg2 id data).psw = cpu.psw :=
  getSysreg2_setSysreg2_of_ne _ _ hid

theorem issetPsw_setPsw (bit bit' : Nat) (hbit : bit' < 32) (cpu : TargetCore) :
    (cpu.setPsw bit).issetPsw bit' = (cpu.issetPsw bit' || decide (bit = bit')) := by
  unfold issetPsw
  rw [psw_setPsw, getLsbD_setBit, decide_eq_true hbit, Bool.true_and]

theorem issetPsw_clrPsw (bit bit' : Nat) (cpu : TargetCore) :
    (cpu.clrPsw bit).issetPsw bit' = (cpu.issetPsw bit' && decide (bit ≠ bit')) := by
  unfold issetPsw
  rw [psw_clrPsw, getLsbD_clearBit]

theorem issetPsw_setSysreg2_of_ne {id : SysReg} (hid : SysReg.psw ≠ id) (data : Word) (bit : Nat)
    (cpu : TargetCore) : (cpu.setSysreg2 id data).issetPsw bit = cpu.issetPsw bit := by
  unfold issetPsw
  rw [psw_setSysreg2_of_ne hid]

/-! ## TRAP -/

/-- The cause of `TRAP` has bit 6, and nothing in the upper half. -/
theorem trapEicc_bits {vector : Word} (h : vector ≤ 0x1F#32) :
    (trapEicc vector).getLsbD 6 = true ∧ (trapEicc vector).getLsbD 22 = false := by
  have hall : ∀ n : Fin 32, (trapEicc (BitVec.ofNat 32 n.val)).getLsbD 6 = true ∧
      (trapEicc (BitVec.ofNat 32 n.val)).getLsbD 22 = false := by
    decide
  have hlt : vector.toNat < 32 := by
    have : vector.toNat ≤ 0x1F := h
    omega
  have hof : BitVec.ofNat 32 vector.toNat = vector := by
    rw [BitVec.ofNat_toNat, BitVec.setWidth_eq]
  have := hall ⟨vector.toNat, hlt⟩
  rw [hof] at this
  exact this

/-- `TRAP` keeps its cause in the upper half of `EIIC`. -/
theorem eiic_trapEntry {vector : Word} (h : vector ≤ 0x1F#32) (cpu : TargetCore) :
    (trapEntry vector cpu).getSysreg2 .eiic =
      (cpu.getSysreg2 .eiic &&& 0x0000FFFF#32) ||| (trapEicc vector <<< 16) := by
  unfold trapEntry
  rw [if_pos h]
  extract_lets cpu₁ cpu₂ cpu₃ cpu₄
  show cpu₄.getSysreg2 .eiic = _
  rw [getSysreg2_setPsw_of_ne (by decide), getSysreg2_setPsw_of_ne (by decide),
    getSysreg2_setSysreg2]
  have hcpu₂ : cpu₂.getSysreg2 .ecr = cpu.getSysreg2 .eiic := by
    rw [getSysreg2_setSysreg2_of_ne _ _ (by decide), getSysreg2_setSysreg2_of_ne _ _ (by decide)]
  rw [hcpu₂]

theorem not_entryContract_trap {d : OpCodeFormatType10} (h : d.gen2 ≤ 0x1F#32) (bus : Bus D)
    (s : CpuState D) :
    ¬ EntryContract ((Entry.trap d).spec s.cpu) s.cpu ((Entry.trap d).enter bus s).cpu := by
  intro hcontract
  have hcause : (trapEntry d.gen2 s.cpu).getSysreg2 .eiic = trapEicc d.gen2 := hcontract.cause
  obtain ⟨hbit6, hbit22⟩ := trapEicc_bits h
  have hbit := congrArg (fun x : Word => x.getLsbD 22) hcause
  rw [eiic_trapEntry h] at hbit
  simp only [BitVec.getLsbD_or, BitVec.getLsbD_shiftLeft, hbit22] at hbit
  simp at hbit
  rw [← BitVec.getLsbD_eq_getElem, hbit6] at hbit
  cases hbit

/-! ## FETRAP -/

section FetrapEntry

variable (vector : Word) (cpu : TargetCore)

theorem fepc_fetrapEntry : (fetrapEntry vector cpu).getSysreg2 .fepc = cpu.pc + 2 := by
  unfold fetrapEntry
  extract_lets psw fecc ecr cpu₁ cpu₂ cpu₃ cpu₄ cpu₅
  show cpu₅.getSysreg2 .fepc = _
  rw [getSysreg2_setPsw_of_ne (by decide), getSysreg2_setPsw_of_ne (by decide),
    getSysreg2_setPsw_of_ne (by decide), getSysreg2_setSysreg2_of_ne _ _ (by decide),
    getSysreg2_setSysreg2_of_ne _ _ (by decide), getSysreg2_setSysreg2_of_ne _ _ (by decide),
    getSysreg2_setSysreg2]

theorem fepsw_fetrapEntry : (fetrapEntry vector cpu).getSysreg2 .fepsw = cpu.psw := by
  unfold fetrapEntry
  extract_lets psw fecc ecr cpu₁ cpu₂ cpu₃ cpu₄ cpu₅
  show cpu₅.getSysreg2 .fepsw = _
  rw [getSysreg2_setPsw_of_ne (by decide), getSysreg2_setPsw_of_ne (by decide),
    getSysreg2_setPsw_of_ne (by decide), getSysreg2_setSysreg2_of_ne _ _ (by decide),
    getSysreg2_setSysreg2]

theorem feic_fetrapEntry : (fetrapEntry vector cpu).getSysreg2 .feic = 0x30 + vector := by
  unfold fetrapEntry
  extract_lets psw fecc ecr cpu₁ cpu₂ cpu₃ cpu₄ cpu₅
  show cpu₅.getSysreg2 .feic = _
  rw [getSysreg2_setPsw_of_ne (by decide), getSysreg2_setPsw_of_ne (by decide),
    getSysreg2_setPsw_of_ne (by decide), getSysreg2_setSysreg2_of_ne _ _ (by decide),
    getSysreg2_setSysreg2_of_ne _ _ (by decide), getSysreg2_setSysreg2]

/-- The cause goes to the upper half of `EIIC` as well. -/
theorem eiic_fetrapEntry : (fetrapEntry vector cpu).getSysreg2 .eiic =
    (cpu.getSysreg2 .eiic &&& 0x0000FFFF#32) ||| ((0x30 + vector) <<< 16) := by
  unfold fetrapEntry
  extract_lets psw fecc ecr cpu₁ cpu₂ cpu₃ cpu₄ cpu₅
  show cpu₅.getSysreg2 .eiic = ecr
  rw [getSysreg2_setPsw_of_ne (by decide), getSysreg2_setPsw_of_ne (by decide),
    getSysreg2_setPsw_of_ne (by decide), getSysreg2_setSysreg2]

/-- The context of the other level is not written. -/
theorem getSysreg2_fetrapEntry_ei {id : SysReg} (hid : id ∈ [SysReg.eipc, .eipsw]) :
    (fetrapEntry vector cpu).getSysreg2 id = cpu.getSysreg2 id := by
  have hne : id ≠ .psw ∧ id ≠ .fepc ∧ id ≠ .feic ∧ id ≠ .fepsw ∧ id ≠ .ecr := by
    revert id
    decide
  obtain ⟨hpsw, hfepc, hfeic, hfepsw, hecr⟩ := hne
  unfold fetrapEntry
  extract_lets psw fecc ecr cpu₁ cpu₂ cpu₃ cpu₄ cpu₅
  show cpu₅.getSysreg2 id = _
  rw [getSysreg2_setPsw_of_ne hpsw, getSysreg2_setPsw_of_ne hpsw, getSysreg2_setPsw_of_ne hpsw,
    getSysreg2_setSysreg2_of_ne _ _ hecr, getSysreg2_setSysreg2_of_ne _ _ hfepsw,
    getSysreg2_setSysreg2_of_ne _ _ hfeic, getSysreg2_setSysreg2_of_ne _ _ hfepc]

theorem issetPsw_fetrapEntry {bit : Nat} (hbit : bit < 32) :
    (fetrapEntry vector cpu).issetPsw bit =
      (cpu.issetPsw bit || decide (pswEP = bit) || decide (pswID = bit) ||
        decide (pswNP = bit)) := by
  unfold fetrapEntry
  extract_lets psw fecc ecr cpu₁ cpu₂ cpu₃ cpu₄ cpu₅
  show cpu₅.issetPsw bit = _
  rw [issetPsw_setPsw _ _ hbit, issetPsw_setPsw _ _ hbit, issetPsw_setPsw _ _ hbit,
    issetPsw_setSysreg2_of_ne (by decide), issetPsw_setSysreg2_of_ne (by decide),
    issetPsw_setSysreg2_of_ne (by decide), issetPsw_setSysreg2_of_ne (by decide)]

end FetrapEntry

theorem entryContract_fetrap (d : OpCodeFormatType1) (bus : Bus D) (s : CpuState D) :
    EntryContract ((Entry.fetrap d).spec s.cpu) s.cpu ((Entry.fetrap d).enter bus s).cpu ↔
      EntryHolds s.cpu (.fetrap d) := by
  have henter : ((Entry.fetrap d).enter bus s).cpu = fetrapEntry (d.reg2.setWidth 32) s.cpu := rfl
  have hbits (bit : Nat) (hbit : bit < 32) :=
    issetPsw_fetrapEntry (d.reg2.setWidth 32) s.cpu hbit
  have heiic := eiic_fetrapEntry (d.reg2.setWidth 32) s.cpu
  have hum : (fetrapEntry (d.reg2.setWidth 32) s.cpu).issetUM = s.cpu.issetUM := by
    unfold issetUM
    rw [hbits _ (by decide)]
    simp [pswEP, pswID, pswNP, pswUM]
  rw [henter]
  constructor
  · intro h
    exact ⟨hum.symm.trans h.um, heiic.symm.trans h.otherCause⟩
  · rintro ⟨hum', heiic'⟩
    refine ⟨fepc_fetrapEntry _ s.cpu, fepsw_fetrapEntry _ s.cpu, feic_fetrapEntry _ s.cpu,
      hum.trans hum', ?_, ?_, ?_, ?_, ?_, heiic.trans heiic'⟩
    · rw [issetID, hbits _ (by decide)]
      simp
    · rw [issetEP, hbits _ (by decide)]
      simp [Entry.spec]
    · rw [issetNP, hbits _ (by decide)]
      simp [Entry.spec]
    · exact getSysreg2_fetrapEntry_ei _ s.cpu (by decide : SysReg.eipc ∈ _)
    · exact getSysreg2_fetrapEntry_ei _ s.cpu (by decide : SysReg.eipsw ∈ _)

/-! ## SYSCALL -/

section SyscallEntry

variable (vector8 : Word) (cpu : TargetCore)

theorem eipc_syscallEntry : (syscallEntry vector8 cpu).getSysreg2 .eipc = cpu.pc + 4 := by
  unfold syscallEntry
  rw [getSysreg2_setPsw_of_ne (by decide), getSysreg2_setPsw_of_ne (by decide),
    getSysreg2_clrPsw_of_ne (by decide), getSysreg2_setSysreg2_of_ne _ _ (by decide),
    getSysreg2_setSysreg2_of_ne _ _ (by decide), getSysreg2_setSysreg2_of_ne _ _ (by decide),
    getSysreg2_setSysreg2]

theorem eipsw_syscallEntry : (syscallEntry vector8 cpu).getSysreg2 .eipsw = cpu.psw := by
  unfold syscallEntry
  rw [getSysreg2_setPsw_of_ne (by decide), getSysreg2_setPsw_of_ne (by decide),
    getSysreg2_clrPsw_of_ne (by decide), getSysreg2_setSysreg2_of_ne _ _ (by decide),
    getSysreg2_setSysreg2]

/-- `EIIC` is written twice; the second value keeps the upper half. -/
theorem eiic_syscallEntry : (syscallEntry vector8 cpu).getSysreg2 .eiic =
    (cpu.getSysreg2 .eiic &&& 0xFFFF0000#32) ||| (0x8000 + vector8) := by
  unfold syscallEntry
  rw [getSysreg2_setPsw_of_ne (by decide), getSysreg2_setPsw_of_ne (by decide),
    getSysreg2_clrPsw_of_ne (by decide), getSysreg2_setSysreg2]

theorem issetPsw_syscallEntry {bit : Nat} (hbit : bit < 32) :
    (syscallEntry vector8 cpu).issetPsw bit =
      ((cpu.issetPsw bit && decide (pswUM ≠ bit)) || decide (pswEP = bit) ||
        decide (pswID = bit)) := by
  unfold syscallEntry
  rw [issetPsw_setPsw _ _ hbit, issetPsw_setPsw _ _ hbit, issetPsw_clrPsw,
    issetPsw_setSysreg2_of_ne (by decide), issetPsw_setSysreg2_of_ne (by decide),
    issetPsw_setSysreg2_of_ne (by decide), issetPsw_setSysreg2_of_ne (by decide)]

/-- The registers of the other level are not written. -/
theorem getSysreg2_syscallEntry_fe {id : SysReg} (hid : id ∈ [SysReg.fepc, .fepsw, .feic]) :
    (syscallEntry vector8 cpu).getSysreg2 id = cpu.getSysreg2 id := by
  have hne : id ≠ .psw ∧ id ≠ .eipc ∧ id ≠ .eiic ∧ id ≠ .eipsw ∧ id ≠ .ecr := by
    revert id
    decide
  obtain ⟨hpsw, heipc, heiic, heipsw, hecr⟩ := hne
  unfold syscallEntry
  rw [getSysreg2_setPsw_of_ne hpsw, getSysreg2_setPsw_of_ne hpsw, getSysreg2_clrPsw_of_ne hpsw,
    getSysreg2_setSysreg2_of_ne _ _ hecr, getSysreg2_setSysreg2_of_ne _ _ heipsw,
    getSysreg2_setSysreg2_of_ne _ _ heiic, getSysreg2_setSysreg2_of_ne _ _ heipc]

end SyscallEntry

/-- A read over the bus leaves the system registers alone. -/
theorem sys_syscall (bus : Bus D) (d : OpCodeFormatType10) (s : CpuState D) :
    ((Entry.syscall d).enter bus s).cpu.sys = (syscallEntry (syscallVector d) s.cpu).sys := by
  have hrun := run_opExecSyscall10 s bus d
  dsimp only at hrun
  show ((opExecSyscall10 bus d).run s).2.cpu.sys = _
  rw [hrun]
  split <;> rfl

theorem EntryContract.of_sys {spec : EntrySpec} {cpu cpu' cpu'' : TargetCore}
    (h : EntryContract spec cpu cpu') (hsys : cpu''.sys = cpu'.sys) :
    EntryContract spec cpu cpu'' := by
  have hget (id : SysReg) : cpu''.getSysreg2 id = cpu'.getSysreg2 id := congrFun hsys id
  have hpsw (bit : Nat) : cpu''.issetPsw bit = cpu'.issetPsw bit := by
    unfold issetPsw psw
    rw [hget]
  exact
    { savedPc := (hget _).trans h.savedPc
      savedPsw := (hget _).trans h.savedPsw
      cause := (hget _).trans h.cause
      um := (hpsw _).trans h.um
      id := (hpsw _).trans h.id
      ep := (hpsw _).trans h.ep
      np := (hpsw _).trans h.np
      otherPc := (hget _).trans h.otherPc
      otherPsw := (hget _).trans h.otherPsw
      otherCause := (hget _).trans h.otherCause }

theorem entryContract_syscall (d : OpCodeFormatType10) (bus : Bus D) (s : CpuState D) :
    EntryContract ((Entry.syscall d).spec s.cpu) s.cpu ((Entry.syscall d).enter bus s).cpu ↔
      EntryHolds s.cpu (.syscall d) := by
  have hsys := sys_syscall bus d s
  have hread (id : SysReg) (hid : id ∈ [SysReg.fepc, .fepsw, .feic]) :=
    getSysreg2_syscallEntry_fe (syscallVector d) s.cpu hid
  have heiic := eiic_syscallEntry (syscallVector d) s.cpu
  have hbits (bit : Nat) (hbit : bit < 32) :=
    issetPsw_syscallEntry (syscallVector d) s.cpu hbit
  have hcause : (s.cpu.getSysreg2 .eiic &&& 0xFFFF0000#32) ||| (0x8000 + syscallVector d) =
      0x8000 + syscallVector d ↔ EntryHolds s.cpu (.syscall d) :=
    and_or_eq_iff _ _ _
  constructor
  · intro h
    have h' := (h.of_sys hsys.symm).cause
    exact hcause.mp (heiic.symm.trans h')
  · intro h
    refine EntryContract.of_sys ?_ hsys
    refine ⟨?_, ?_, ?_, ?_, ?_, ?_, ?_, ?_, ?_, ?_⟩
    · exact eipc_syscallEntry _ s.cpu
    · exact eipsw_syscallEntry _ s.cpu
    · exact heiic.trans (hcause.mpr h)
    · rw [issetUM, hbits _ (by decide)]
      simp [pswEP, pswID, pswUM]
    · rw [issetID, hbits _ (by decide)]
      simp
    · rw [issetEP, hbits _ (by decide)]
      simp [Entry.spec]
    · rw [issetNP, hbits _ (by decide)]
      simp [Entry.spec, pswEP, pswID, pswUM, pswNP, issetNP]
    · exact hread .fepc (by decide)
    · exact hread .fepsw (by decide)
    · exact hread .feic (by decide)

/-! ## Reserved instructions -/

section IllegalOpcodeTrap

variable (cpu : TargetCore)

/-- The registers of the FE level are not written. -/
theorem getSysreg2_illegalOpcodeTrap_fe {id : SysReg}
    (hid : id ∈ [SysReg.fepc, .fepsw, .feic]) :
    (cpuIllegalOpcodeTrap cpu).getSysreg2 id = cpu.getSysreg2 id := by
  have hne : id ≠ .psw ∧ id ≠ .eipc ∧ id ≠ .eipsw ∧ id ≠ .ecr := by
    revert id
    decide
  obtain ⟨hpsw, heipc, heipsw, hecr⟩ := hne
  unfold cpuIllegalOpcodeTrap
  extract_lets cpu₁ cpu₂ cpu₃ cpu₄
  show cpu₄.getSysreg2 id = _
  rw [getSysreg2_setPsw_of_ne hpsw, getSysreg2_setPsw_of_ne hpsw, getSysreg2_setPsw_of_ne hpsw,
    getSysreg2_setSysreg2_of_ne _ _ hecr, getSysreg2_setSysreg2_of_ne _ _ heipsw,
    getSysreg2_setSysreg2_of_ne _ _ heipc]

theorem eipc_illegalOpcodeTrap : (cpuIllegalOpcodeTrap cpu).getSysreg2 .eipc = cpu.pc - 4 := by
  unfold cpuIllegalOpcodeTrap
  extract_lets cpu₁ cpu₂ cpu₃ cpu₄
  show cpu₄.getSysreg2 .eipc = _
  rw [getSysreg2_setPsw_of_ne (by decide), getSysreg2_setPsw_of_ne (by decide),
    getSysreg2_setPsw_of_ne (by decide), getSysreg2_setSysreg2_of_ne _ _ (by decide),
    getSysreg2_setSysreg2_of_ne _ _ (by decide), getSysreg2_setSysreg2]

theorem eipsw_illegalOpcodeTrap : (cpuIllegalOpcodeTrap cpu).getSysreg2 .eipsw = cpu.psw := by
  unfold cpuIllegalOpcodeTrap
  extract_lets cpu₁ cpu₂ cpu₃ cpu₄
  show cpu₄.getSysreg2 .eipsw = _
  rw [getSysreg2_setPsw_of_ne (by decide), getSysreg2_setPsw_of_ne (by decide),
    getSysreg2_setPsw_of_ne (by decide), getSysreg2_setSysreg2_of_ne _ _ (by decide),
    getSysreg2_setSysreg2]
  exact psw_setSysreg2_of_ne (by decide) _ cpu

theorem eiic_illegalOpcodeTrap : (cpuIllegalOpcodeTrap cpu).getSysreg2 .eiic =
    (cpu.getSysreg2 .eiic &&& 0x00FF#32) ||| 0x600000#32 := by
  unfold cpuIllegalOpcodeTrap
  extract_lets cpu₁ cpu₂ cpu₃ cpu₄
  have hcpu₂ : cpu₂.getSysreg2 .ecr = cpu.getSysreg2 .eiic := by
    rw [getSysreg2_setSysreg2_of_ne _ _ (by decide), getSysreg2_setSysreg2_of_ne _ _ (by decide)]
  show cpu₄.getSysreg2 .eiic = _
  rw [getSysreg2_setPsw_of_ne (by decide), getSysreg2_setPsw_of_ne (by decide),
    getSysreg2_setPsw_of_ne (by decide), getSysreg2_setSysreg2, hcpu₂]
  rfl

theorem issetPsw_illegalOpcodeTrap {bit : Nat} (hbit : bit < 32) :
    (cpuIllegalOpcodeTrap cpu).issetPsw bit =
      (cpu.issetPsw bit || decide (pswNP = bit) || decide (pswEP = bit) ||
        decide (pswID = bit)) := by
  unfold cpuIllegalOpcodeTrap
  extract_lets cpu₁ cpu₂ cpu₃ cpu₄
  show cpu₄.issetPsw bit = _
  rw [issetPsw_setPsw _ _ hbit, issetPsw_setPsw _ _ hbit, issetPsw_setPsw _ _ hbit,
    issetPsw_setSysreg2_of_ne (by decide), issetPsw_setSysreg2_of_ne (by decide),
    issetPsw_setSysreg2_of_ne (by decide)]

end IllegalOpcodeTrap

theorem entryContract_reserved (bus : Bus D) (s : CpuState D) :
    EntryContract (Entry.reserved.spec s.cpu) s.cpu (Entry.reserved.enter bus s).cpu ↔
      EntryHolds s.cpu .reserved := by
  have henter : (Entry.reserved.enter bus s).cpu = cpuIllegalOpcodeTrap s.cpu := rfl
  have hbits (bit : Nat) (hbit : bit < 32) := issetPsw_illegalOpcodeTrap s.cpu hbit
  have hum : (cpuIllegalOpcodeTrap s.cpu).issetUM = s.cpu.issetUM := by
    unfold issetUM
    rw [hbits _ (by decide)]
    simp [pswEP, pswID, pswNP, pswUM]
  have hfepc := getSysreg2_illegalOpcodeTrap_fe s.cpu (by decide : SysReg.fepc ∈ _)
  have hfepsw := getSysreg2_illegalOpcodeTrap_fe s.cpu (by decide : SysReg.fepsw ∈ _)
  have hfeic := getSysreg2_illegalOpcodeTrap_fe s.cpu (by decide : SysReg.feic ∈ _)
  have heipc := eipc_illegalOpcodeTrap s.cpu
  have heipsw := eipsw_illegalOpcodeTrap s.cpu
  have heiic := eiic_illegalOpcodeTrap s.cpu
  rw [henter]
  constructor
  · intro h
    exact ⟨hum.symm.trans h.um, hfepc.symm.trans h.savedPc, hfepsw.symm.trans h.savedPsw,
      hfeic.symm.trans h.cause, h.otherPc.symm.trans heipc, h.otherPsw.symm.trans heipsw,
      heiic.symm.trans h.otherCause⟩
  · rintro ⟨hum', hpc, hpsw, hcode, hpc', hpsw', hcode'⟩
    refine ⟨hfepc.trans hpc, hfepsw.trans hpsw, hfeic.trans hcode, hum.trans hum', ?_, ?_, ?_,
      heipc.trans hpc'.symm, heipsw.trans hpsw'.symm, heiic.trans hcode'⟩
    · rw [issetID, hbits _ (by decide)]
      simp
    · rw [issetEP, hbits _ (by decide)]
      simp [Entry.spec]
    · rw [issetNP, hbits _ (by decide)]
      simp [Entry.spec, exceptionConfig]

/-! ## The interrupt controller -/

/-- What `ISPR` takes does not touch the other registers. -/
theorem getSysreg2_hookUserIntrRaised {id : SysReg} (hid : id ≠ .ispr)
    (exception : ExceptionRequest) (s : CpuIntc) :
    (hookUserIntrRaised exception s).cpu.getSysreg2 id = s.cpu.getSysreg2 id := by
  unfold hookUserIntrRaised intcSetCurrentUserIntrPriorityDegree
  dsimp only
  split_ifs <;> first | rfl | exact getSysreg2_setSysreg2_of_ne _ _ hid

theorem pc_hookUserIntrRaised (exception : ExceptionRequest) (s : CpuIntc) :
    (hookUserIntrRaised exception s).cpu.pc = s.cpu.pc := by
  unfold hookUserIntrRaised intcSetCurrentUserIntrPriorityDegree
  dsimp only
  split_ifs <;> rfl

theorem mpu_hookUserIntrRaised (exception : ExceptionRequest) (s : CpuIntc) :
    (hookUserIntrRaised exception s).cpu.mpu = s.cpu.mpu := by
  unfold hookUserIntrRaised intcSetCurrentUserIntrPriorityDegree
  dsimp only
  split_ifs <;> rfl

/-- The core in which `raise_Exception` saves the context. -/
def raisedCore (exception : ExceptionRequest) (s : CpuIntc) : TargetCore :=
  if exception.exno = .userIntr then (hookUserIntrRaised exception s).cpu else s.cpu

theorem raisedCore_eq (exception : ExceptionRequest) (s : CpuIntc) :
    (raisedCore exception s).pc = s.cpu.pc ∧ (raisedCore exception s).mpu = s.cpu.mpu ∧
      ∀ id, id ≠ .ispr → (raisedCore exception s).getSysreg2 id = s.cpu.getSysreg2 id := by
  unfold raisedCore
  split_ifs
  · exact ⟨pc_hookUserIntrRaised exception s, mpu_hookUserIntrRaised exception s,
      fun id hid => getSysreg2_hookUserIntrRaised hid exception s⟩
  · exact ⟨rfl, rfl, fun _ _ => rfl⟩

/-- The core after the entry of `raise_Exception`. -/
theorem cpu_enterException (exception : ExceptionRequest) (s : CpuState D) :
    (enterException exception s).cpu =
      updatePswInfo exception.req.info
        (saveContext exception (raisedCore exception s.toCpuIntc)) := by
  unfold enterException raisedCore
  split_ifs <;> rfl

/-- The system registers after `raise_Exception`. -/
theorem sys_raiseException (bus : Bus D) (exception : ExceptionRequest) (s : CpuState D) :
    (raiseException bus exception s).cpu.sys =
      (updatePswInfo exception.req.info
        (saveContext exception (raisedCore exception s.toCpuIntc))).sys := by
  rw [← cpu_enterException exception s]
  rcases raiseException_cases bus exception s with heq | ⟨s', addr, hsearched, heq⟩
  · rw [heq]
  · rw [heq]
    cases hsearched with
    | direct => rfl
    | table => rfl
    | failed => rfl

theorem getSysreg2_updatePsw {id : SysReg} (hid : id ≠ .psw) (op : ExceptionUpdatePswOp)
    (bit : Nat) (cpu : TargetCore) : (updatePsw op bit cpu).getSysreg2 id = cpu.getSysreg2 id := by
  cases op with
  | clr => exact getSysreg2_clrPsw_of_ne hid bit cpu
  | set => exact getSysreg2_setPsw_of_ne hid bit cpu
  | save => rfl

/-- The bit after one of the updates. -/
def updatedBit (op : ExceptionUpdatePswOp) (old : Bool) : Bool :=
  match op with
  | .set => true
  | .clr => false
  | .save => old

theorem issetPsw_updatePsw (op : ExceptionUpdatePswOp) (bit bit' : Nat) (hbit : bit' < 32)
    (cpu : TargetCore) :
    (updatePsw op bit cpu).issetPsw bit' =
      if bit = bit' then updatedBit op (cpu.issetPsw bit') else cpu.issetPsw bit' := by
  cases op with
  | clr =>
    show (cpu.clrPsw bit).issetPsw bit' = _
    rw [issetPsw_clrPsw]
    split_ifs with h
    · simp [h, updatedBit]
    · simp [h]
  | set =>
    show (cpu.setPsw bit).issetPsw bit' = _
    rw [issetPsw_setPsw _ _ hbit]
    split_ifs with h
    · simp [h, updatedBit]
    · simp [h]
  | save =>
    show cpu.issetPsw bit' = _
    split_ifs <;> rfl

theorem getSysreg2_updatePswInfo {id : SysReg} (hid : id ≠ .psw) (info : ExceptionUpdatePswInfo)
    (cpu : TargetCore) : (updatePswInfo info cpu).getSysreg2 id = cpu.getSysreg2 id := by
  unfold updatePswInfo
  rw [getSysreg2_updatePsw hid, getSysreg2_updatePsw hid, getSysreg2_updatePsw hid,
    getSysreg2_updatePsw hid]

/-- What the table says about the bits of `PSW`. -/
theorem exceptionConfig_info {exno : ExceptionId} (h : exno ≠ .reset) :
    (exceptionConfig exno).info.um = .clr ∧ (exceptionConfig exno).info.id = .set ∧
      (exceptionConfig exno).info.np =
        (if (exceptionConfig exno).level = .fe then .set else .save) ∧
      (exceptionConfig exno).info.ep = (if Entry.isInterrupt exno then .clr else .set) := by
  revert h
  cases exno <;> decide

theorem psw_saveContext (exception : ExceptionRequest) (cpu : TargetCore) :
    (saveContext exception cpu).psw = cpu.psw := by
  unfold saveContext
  split_ifs
  · simp (disch := decide) only [psw_setSysreg2_of_ne]
  · simp (disch := decide) only [psw_setSysreg2_of_ne]

/-- Each of the four bits is updated by its own operation. -/
theorem issetPsw_updatePswInfo (info : ExceptionUpdatePswInfo) (cpu : TargetCore) :
    (updatePswInfo info cpu).issetUM = updatedBit info.um cpu.issetUM ∧
      (updatePswInfo info cpu).issetID = updatedBit info.id cpu.issetID ∧
      (updatePswInfo info cpu).issetEP = updatedBit info.ep cpu.issetEP ∧
      (updatePswInfo info cpu).issetNP = updatedBit info.np cpu.issetNP := by
  unfold updatePswInfo issetUM issetID issetEP issetNP
  refine ⟨?_, ?_, ?_, ?_⟩
  all_goals
    rw [issetPsw_updatePsw _ _ _ (by decide), issetPsw_updatePsw _ _ _ (by decide),
      issetPsw_updatePsw _ _ _ (by decide), issetPsw_updatePsw _ _ _ (by decide)]
    simp [pswUM, pswEP, pswNP, pswID]

/-- The bits of `PSW` after `raise_Exception`. -/
theorem issetPsw_raised {exception : ExceptionRequest} (h : exception.exno ≠ .reset)
    (cpu : TargetCore) :
    let cpu' := updatePswInfo exception.req.info (saveContext exception cpu)
    cpu'.issetUM = false ∧ cpu'.issetID = true ∧
      cpu'.issetEP = !Entry.isInterrupt exception.exno ∧
      cpu'.issetNP = (decide (exception.req.level = .fe) || cpu.issetNP) := by
  intro cpu'
  obtain ⟨hum, hid, hnp, hep⟩ := exceptionConfig_info h
  obtain ⟨hum', hid', hep', hnp'⟩ :=
    issetPsw_updatePswInfo exception.req.info (saveContext exception cpu)
  have hreq : exception.req = exceptionConfig exception.exno := rfl
  have hold : (saveContext exception cpu).issetNP = cpu.issetNP := by
    unfold issetNP issetPsw
    rw [psw_saveContext]
  refine ⟨?_, ?_, ?_, ?_⟩
  · rw [hum', hreq, hum]
    rfl
  · rw [hid', hreq, hid]
    rfl
  · rw [hep', hreq, hep]
    cases Entry.isInterrupt exception.exno <;> rfl
  · rw [hnp', hold, hreq, hnp]
    by_cases hlevel : (exceptionConfig exception.exno).level = .fe
    · simp [updatedBit, hlevel]
    · simp [updatedBit, hlevel]

/-- The cause depends on the MPU error information alone. -/
theorem intcGetExceptionCode_of_mpu {cpu cpu' : TargetCore} (h : cpu'.mpu = cpu.mpu)
    (exno : ExceptionId) (intno : Nat) :
    intcGetExceptionCode cpu' exno intno = intcGetExceptionCode cpu exno intno := by
  unfold intcGetExceptionCode intcGetExceptionCodeMpu
  rw [h]

/-- A FE level exception is no user interrupt, so its cause has no channel. -/
theorem intcGetExceptionCode_fe {exno : ExceptionId} (h : (exceptionConfig exno).level = .fe)
    (cpu : TargetCore) (intno : Nat) :
    intcGetExceptionCode cpu exno 0 = intcGetExceptionCode cpu exno intno := by
  have hexno : exno ≠ .userIntr := by
    rintro rfl
    cases h
  unfold intcGetExceptionCode
  rw [if_neg hexno, if_neg hexno]

/-- What `raise_Exception` saves at the FE level. -/
theorem saveContext_fe {exception : ExceptionRequest} (hlevel : exception.req.level = .fe)
    (cpu : TargetCore) :
    (saveContext exception cpu).getSysreg2 .fepc = cpu.pc ∧
      (saveContext exception cpu).getSysreg2 .fepsw = cpu.psw ∧
      (saveContext exception cpu).getSysreg2 .feic =
        intcGetExceptionCode cpu exception.exno exception.intno ∧
      ∀ id ∈ [SysReg.eipc, .eipsw, .eiic],
        (saveContext exception cpu).getSysreg2 id = cpu.getSysreg2 id := by
  unfold saveContext
  rw [if_pos hlevel]
  extract_lets cpu₁ cpu₂
  have hmpu : cpu₂.mpu = cpu.mpu := rfl
  have hpsw : cpu₁.psw = cpu.psw := psw_setSysreg2_of_ne (by decide) _ _
  refine ⟨?_, ?_, ?_, fun id hid => ?_⟩
  · rw [getSysreg2_setSysreg2_of_ne _ _ (by decide), getSysreg2_setSysreg2_of_ne _ _ (by decide),
      getSysreg2_setSysreg2]
  · rw [getSysreg2_setSysreg2_of_ne _ _ (by decide), getSysreg2_setSysreg2, hpsw]
  · rw [getSysreg2_setSysreg2, intcGetExceptionCode_of_mpu hmpu]
    exact intcGetExceptionCode_fe hlevel _ _
  · have hne : id ≠ .fepc ∧ id ≠ .fepsw ∧ id ≠ .feic := by
      revert id
      decide
    rw [getSysreg2_setSysreg2_of_ne _ _ hne.2.2, getSysreg2_setSysreg2_of_ne _ _ hne.2.1,
      getSysreg2_setSysreg2_of_ne _ _ hne.1]

/-- What it saves at the EI level: the upper half of `EIIC` is kept. -/
theorem saveContext_ei {exception : ExceptionRequest} (hlevel : exception.req.level ≠ .fe)
    (cpu : TargetCore) :
    (saveContext exception cpu).getSysreg2 .eipc = cpu.pc ∧
      (saveContext exception cpu).getSysreg2 .eipsw = cpu.psw ∧
      (saveContext exception cpu).getSysreg2 .eiic =
        (cpu.getSysreg2 .eiic &&& 0xFFFF0000#32) |||
          intcGetExceptionCode cpu exception.exno exception.intno ∧
      ∀ id ∈ [SysReg.fepc, .fepsw, .feic],
        (saveContext exception cpu).getSysreg2 id = cpu.getSysreg2 id := by
  unfold saveContext
  rw [if_neg hlevel]
  extract_lets cpu₁ cpu₂
  have hmpu : cpu₂.mpu = cpu.mpu := rfl
  have hpsw : cpu₁.psw = cpu.psw := psw_setSysreg2_of_ne (by decide) _ _
  have heiic : cpu₂.getSysreg2 .eiic = cpu.getSysreg2 .eiic := by
    rw [getSysreg2_setSysreg2_of_ne _ _ (by decide), getSysreg2_setSysreg2_of_ne _ _ (by decide)]
  refine ⟨?_, ?_, ?_, fun id hid => ?_⟩
  · rw [getSysreg2_setSysreg2_of_ne _ _ (by decide), getSysreg2_setSysreg2_of_ne _ _ (by decide),
      getSysreg2_setSysreg2]
  · rw [getSysreg2_setSysreg2_of_ne _ _ (by decide), getSysreg2_setSysreg2, hpsw]
  · rw [getSysreg2_setSysreg2, intcGetExceptionCode_of_mpu hmpu, heiic]
  · have hne : id ≠ .eipc ∧ id ≠ .eipsw ∧ id ≠ .eiic := by
      revert id
      decide
    rw [getSysreg2_setSysreg2_of_ne _ _ hne.2.2, getSysreg2_setSysreg2_of_ne _ _ hne.2.1,
      getSysreg2_setSysreg2_of_ne _ _ hne.1]

/-- `raise_Exception`: the FE level keeps the contract, the EI level keeps it
when the upper half of `EIIC` has nothing that is not in the cause. -/
theorem entryContract_intc {exception : ExceptionRequest} (h : exception.exno ≠ .reset)
    (bus : Bus D) (s : CpuState D) :
    EntryContract ((Entry.intc exception).spec s.cpu) s.cpu
        ((Entry.intc exception).enter bus s).cpu ↔
      EntryHolds s.cpu (.intc exception) := by
  have hsys := sys_raiseException bus exception s
  obtain ⟨hpc, hmpu, hregs⟩ := raisedCore_eq exception s.toCpuIntc
  generalize raisedCore exception s.toCpuIntc = cpu at hsys hpc hmpu hregs
  generalize hraised : updatePswInfo exception.req.info (saveContext exception cpu) = cpu' at hsys
  have hiff : EntryContract ((Entry.intc exception).spec s.cpu) s.cpu
        ((Entry.intc exception).enter bus s).cpu ↔
      EntryContract ((Entry.intc exception).spec s.cpu) s.cpu cpu' :=
    ⟨fun hc => hc.of_sys hsys.symm, fun hc => hc.of_sys hsys⟩
  rw [hiff]
  have hread (id : SysReg) (hne : id ≠ .psw) :
      cpu'.getSysreg2 id = (saveContext exception cpu).getSysreg2 id := by
    rw [← hraised]
    exact getSysreg2_updatePswInfo hne _ _
  have hpsw : cpu.psw = s.cpu.psw := hregs .psw (by decide)
  have hcode := intcGetExceptionCode_of_mpu hmpu exception.exno exception.intno
  have hbits := issetPsw_raised h cpu
  have hnpOld : cpu.issetNP = s.cpu.issetNP := by
    unfold issetNP issetPsw
    rw [hpsw]
  rw [hraised, hnpOld] at hbits
  obtain ⟨hum, hid, hep, hnp⟩ := hbits
  have hspec : (Entry.intc exception).spec s.cpu =
      { fe := exception.req.level = .fe, returnPc := s.cpu.pc
        code := intcGetExceptionCode s.cpu exception.exno exception.intno
        ep := !Entry.isInterrupt exception.exno } := rfl
  rw [hspec]
  by_cases hlevel : exception.req.level = .fe
  · obtain ⟨hfepc, hfepsw, hfeic, hother⟩ := saveContext_fe hlevel cpu
    have hkept (id : SysReg) (hmem : id ∈ [SysReg.eipc, .eipsw, .eiic]) :
        cpu'.getSysreg2 id = s.cpu.getSysreg2 id := by
      have hne : id ≠ .psw ∧ id ≠ .ispr := by
        revert id
        decide
      rw [hread id hne.1, hother id hmem, hregs id hne.2]
    rw [decide_eq_true hlevel] at hnp ⊢
    refine iff_of_true ?_ (Or.inl hlevel)
    refine ⟨?_, ?_, ?_, hum, hid, hep, hnp, hkept .eipc (by decide), hkept .eipsw (by decide),
      hkept .eiic (by decide)⟩
    · exact (hread .fepc (by decide)).trans (hfepc.trans hpc)
    · exact (hread .fepsw (by decide)).trans (hfepsw.trans hpsw)
    · exact (hread .feic (by decide)).trans (hfeic.trans hcode)
  · obtain ⟨heipc, heipsw, heiic, hother⟩ := saveContext_ei hlevel cpu
    have hkept (id : SysReg) (hmem : id ∈ [SysReg.fepc, .fepsw, .feic]) :
        cpu'.getSysreg2 id = s.cpu.getSysreg2 id := by
      have hne : id ≠ .psw ∧ id ≠ .ispr := by
        revert id
        decide
      rw [hread id hne.1, hother id hmem, hregs id hne.2]
    rw [hcode, hregs .eiic (by decide)] at heiic
    have hcause := (hread .eiic (by decide)).trans heiic
    have hholds : EntryHolds s.cpu (.intc exception) ↔
        (s.cpu.getSysreg2 .eiic &&& 0xFFFF0000#32) |||
            intcGetExceptionCode s.cpu exception.exno exception.intno =
          intcGetExceptionCode s.cpu exception.exno exception.intno := by
      rw [and_or_eq_iff]
      exact or_iff_right hlevel
    rw [decide_eq_false hlevel] at hnp ⊢
    rw [hholds]
    constructor
    · intro hc
      exact hcause.symm.trans hc.cause
    · intro hc
      refine ⟨?_, ?_, hcause.trans hc, hum, hid, hep, hnp, hkept .fepc (by decide),
        hkept .fepsw (by decide), hkept .feic (by decide)⟩
      · exact (hread .eipc (by decide)).trans (heipc.trans hpc)
      · exact (hread .eipsw (by decide)).trans (heipsw.trans hpsw)

/-! ## All entries -/

/-- Every entry, from every state of the core and the interrupt controller:
the entry keeps its contract exactly when `EntryHolds`. -/
theorem entryContract_iff {entry : Entry} (hformed : entry.Formed) (bus : Bus D)
    (s : CpuState D) :
    EntryContract (entry.spec s.cpu) s.cpu (entry.enter bus s).cpu ↔ EntryHolds s.cpu entry := by
  cases entry with
  | trap d => exact iff_of_false (not_entryContract_trap hformed bus s) id
  | fetrap d => exact entryContract_fetrap d bus s
  | syscall d => exact entryContract_syscall d bus s
  | reserved => exact entryContract_reserved bus s
  | intc exception => exact entryContract_intc hformed bus s

/-- `TRAP 0`. -/
def trap0 : Entry := .trap OpDecodedCode.bss.type10

theorem entryContract_iff_trap0 :
    EntryContract (trap0.spec resetState.cpu) resetState.cpu
        (trap0.enter (romBus fun _ => 0) resetState).cpu ↔
      EntryHolds resetState.cpu trap0 :=
  entryContract_iff (show trap0.Formed from (by decide : 0#32 ≤ 0x1F#32)) (romBus fun _ => 0)
    resetState

/-- `TRAP 0` after reset leaves `EIIC = 0x400000`. -/
theorem not_entryContract_trap0 :
    ¬ EntryContract (trap0.spec resetState.cpu) resetState.cpu
      (trap0.enter (romBus fun _ => 0) resetState).cpu := by
  intro h
  have hcause := h.cause
  revert hcause
  decide +kernel

end Athrill
