import Athrill.Cpu.Entry

/-!
# Software exceptions and their returns

`TRAP` or `SYSCALL` with `EIRET`, and `FETRAP` with `FERET`.  A software
exception makes no entry in the interrupt controller, but both returns end
whatever exception is running there; so a software exception inside the
handler of an interrupt ends that interrupt.

* `SoftTrap`: a software exception with its return.
* `Undisturbed`: what the handler leaves alone.
* `Restored`, `restored_iff`: when the return restores the state before.
-/

namespace Athrill

open TargetCore Exec

variable {D : Type}

/-! ## Software exceptions -/

/-- The software exceptions. -/
inductive SoftTrap where
  | trap (d : OpCodeFormatType10)
  | fetrap (d : OpCodeFormatType1)
  | syscall (d : OpCodeFormatType10)

namespace SoftTrap

def toEntry : SoftTrap → Entry
  | trap d => .trap d
  | fetrap d => .fetrap d
  | syscall d => .syscall d

/-- The level of the exception: `FETRAP` is of the FE level. -/
def fe : SoftTrap → Bool
  | fetrap _ => true
  | _ => false

/-- The address after the instruction. -/
def nextPc (cpu : TargetCore) : SoftTrap → Word
  | fetrap _ => cpu.pc + 2
  | _ => cpu.pc + 4

/-- The state after the return: `FERET` for the FE level, `EIRET` for the EI
level. -/
def leave (t : SoftTrap) (s : CpuState D) : CpuState D :=
  if t.fe then ((opExecFeret10 : Exec D Unit).run s).2
  else ((opExecEiret10 : Exec D Unit).run s).2

end SoftTrap

/-- A read over the bus changes no general register and nothing of the
interrupt controller. -/
def Bus.ReadsKeep (bus : Bus D) : Prop :=
  ∀ s addr, (bus.getData32 s addr).2.r = s.cpu.r ∧ (bus.getData32 s addr).2.intc = s.intc

/-- From the entry to the return the saved registers, the handler's `PSW`, the
general registers and the record of running exceptions are not disturbed. -/
structure Undisturbed (fe : Bool) (s s' : CpuState D) : Prop where
  savedPc : s'.cpu.getSysreg2 (levelRegs fe).pc = s.cpu.getSysreg2 (levelRegs fe).pc
  savedPsw : s'.cpu.getSysreg2 (levelRegs fe).psw = s.cpu.getSysreg2 (levelRegs fe).psw
  psw : s'.cpu.psw = s.cpu.psw
  r : s'.cpu.r = s.cpu.r
  control : s'.intc.control = s.intc.control
  ispr : s'.cpu.getSysreg2 .ispr = s.cpu.getSysreg2 .ispr
  coreId : s'.cpu.coreId = s.cpu.coreId

/-- The state before a software exception is restored, at the next address. -/
structure Restored (nextPc : Word) (s s' : CpuState D) : Prop where
  pc : s'.cpu.pc = nextPc
  psw : s'.cpu.psw = s.cpu.psw
  r : s'.cpu.r = s.cpu.r
  control : s'.intc.control = s.intc.control
  ispr : s'.cpu.getSysreg2 .ispr = s.cpu.getSysreg2 .ispr

/-! ## After the entry -/

/-- What a software exception keeps, and what it saves. -/
structure Entered (t : SoftTrap) (s s' : CpuState D) : Prop where
  savedPc : s'.cpu.getSysreg2 (levelRegs t.fe).pc = t.nextPc s.cpu
  savedPsw : s'.cpu.getSysreg2 (levelRegs t.fe).psw = s.cpu.psw
  r : s'.cpu.r = s.cpu.r
  intc : s'.intc = s.intc
  ispr : s'.cpu.getSysreg2 .ispr = s.cpu.getSysreg2 .ispr
  coreId : s'.cpu.coreId = s.cpu.coreId

/-- Writes to `PSW` keep the general registers. -/
theorem r_setPsw (bit : Nat) (cpu : TargetCore) : (cpu.setPsw bit).r = cpu.r :=
  rfl

theorem r_clrPsw (bit : Nat) (cpu : TargetCore) : (cpu.clrPsw bit).r = cpu.r :=
  rfl

theorem r_trapEntry (vector : Word) (cpu : TargetCore) : (trapEntry vector cpu).r = cpu.r := by
  unfold trapEntry
  by_cases h : vector ≤ 0x1F#32
  · rw [if_pos h]
    extract_lets cpu₁ cpu₂ cpu₃ cpu₄
    show cpu₄.r = cpu.r
    rw [r_setPsw, r_setPsw, r_setSysreg2, r_setSysreg2, r_setSysreg2]
  · rw [if_neg h]

theorem r_fetrapEntry (vector : Word) (cpu : TargetCore) : (fetrapEntry vector cpu).r = cpu.r := by
  unfold fetrapEntry
  extract_lets psw fecc ecr cpu₁ cpu₂ cpu₃ cpu₄ cpu₅
  show cpu₅.r = cpu.r
  rw [r_setPsw, r_setPsw, r_setPsw, r_setSysreg2, r_setSysreg2, r_setSysreg2, r_setSysreg2]

theorem entered_trap {d : OpCodeFormatType10} (h : d.gen2 ≤ 0x1F#32) (s : CpuState D) :
    Entered (.trap d) s ((opExecTrap d).run s).2 := by
  have hcpu : ((opExecTrap d).run s).2.cpu = trapEntry d.gen2 s.cpu := rfl
  refine ⟨?_, ?_, ?_, rfl, ?_, ?_⟩
  · rw [hcpu]
    show (trapEntry d.gen2 s.cpu).getSysreg2 .eipc = s.cpu.pc + 4
    unfold trapEntry
    rw [if_pos h]
    show (TargetCore.setPsw (TargetCore.setPsw _ pswEP) pswID).getSysreg2 .eipc = s.cpu.pc + 4
    simp (disch := decide) only [getSysreg2_setPsw_of_ne, getSysreg2_setSysreg2_of_ne,
      getSysreg2_setSysreg2]
  · rw [hcpu]
    show (trapEntry d.gen2 s.cpu).getSysreg2 .eipsw = s.cpu.psw
    unfold trapEntry
    rw [if_pos h]
    show (TargetCore.setPsw (TargetCore.setPsw _ pswEP) pswID).getSysreg2 .eipsw = s.cpu.psw
    simp (disch := decide) only [getSysreg2_setPsw_of_ne, getSysreg2_setSysreg2_of_ne,
      getSysreg2_setSysreg2, psw_setSysreg2_of_ne]
  · rw [hcpu]
    exact r_trapEntry _ _
  · rw [hcpu]
    unfold trapEntry
    rw [if_pos h]
    show (TargetCore.setPsw (TargetCore.setPsw _ pswEP) pswID).getSysreg2 .ispr = _
    simp (disch := decide) only [getSysreg2_setPsw_of_ne, getSysreg2_setSysreg2_of_ne]
  · rw [hcpu]
    exact (sameUnits_trapEntry _ _).coreId

/-- What `FETRAP` saves, and `ISPR`, which it keeps. -/
theorem getSysreg2_fetrapEntry (vector : Word) (cpu : TargetCore) :
    (fetrapEntry vector cpu).getSysreg2 .fepc = cpu.pc + 2 ∧
      (fetrapEntry vector cpu).getSysreg2 .fepsw = cpu.psw ∧
      (fetrapEntry vector cpu).getSysreg2 .ispr = cpu.getSysreg2 .ispr := by
  unfold fetrapEntry
  extract_lets psw fecc ecr cpu₁ cpu₂ cpu₃ cpu₄ cpu₅
  have hget (id : SysReg) (hid : id ≠ .psw) : cpu₅.getSysreg2 id = cpu₄.getSysreg2 id := by
    rw [getSysreg2_setPsw_of_ne hid, getSysreg2_setPsw_of_ne hid, getSysreg2_setPsw_of_ne hid]
  refine ⟨?_, ?_, ?_⟩
  · refine (hget .fepc (by decide)).trans ?_
    rw [getSysreg2_setSysreg2_of_ne _ _ (by decide), getSysreg2_setSysreg2_of_ne _ _ (by decide),
      getSysreg2_setSysreg2_of_ne _ _ (by decide), getSysreg2_setSysreg2]
  · refine (hget .fepsw (by decide)).trans ?_
    rw [getSysreg2_setSysreg2_of_ne _ _ (by decide), getSysreg2_setSysreg2]
  · refine (hget .ispr (by decide)).trans ?_
    rw [getSysreg2_setSysreg2_of_ne _ _ (by decide), getSysreg2_setSysreg2_of_ne _ _ (by decide),
      getSysreg2_setSysreg2_of_ne _ _ (by decide), getSysreg2_setSysreg2_of_ne _ _ (by decide)]

theorem entered_fetrap (d : OpCodeFormatType1) (s : CpuState D) :
    Entered (.fetrap d) s ((opExecFetrap1 d).run s).2 := by
  obtain ⟨hfepc, hfepsw, hispr⟩ := getSysreg2_fetrapEntry (d.reg2.setWidth 32) s.cpu
  have hr := r_fetrapEntry (d.reg2.setWidth 32) s.cpu
  have hcore := (sameUnits_fetrapEntry (d.reg2.setWidth 32) s.cpu).coreId
  rw [run_opExecFetrap1]
  generalize fetrapEntry (d.reg2.setWidth 32) s.cpu = cpu at hfepc hfepsw hispr hr hcore ⊢
  exact ⟨hfepc, hfepsw, hr, rfl, hispr, hcore⟩

/-- `SYSCALL` leaves the core of its register writes, except for what the read
over the bus and the jump change. -/
theorem opExecSyscall10_eq (bus : Bus D) (d : OpCodeFormatType10) (s : CpuState D) :
    ∃ v pc, v = (bus.getData32 { s with cpu := syscallEntry (syscallVector d) s.cpu }
        (syscallTableAddr (syscallVector d) s.cpu)).2 ∧
      ((opExecSyscall10 bus d).run s).2 =
        { ({ s with cpu := syscallEntry (syscallVector d) s.cpu } : CpuState D).withView v with
          cpu :=
            { (({ s with cpu := syscallEntry (syscallVector d) s.cpu } : CpuState D).withView
                v).cpu with pc := pc } } := by
  have hrun := run_opExecSyscall10 s bus d
  dsimp only at hrun
  rw [hrun]
  split
  · rename_i word v heq
    exact ⟨v, _, by rw [heq], rfl⟩
  · rename_i v heq
    exact ⟨v, (syscallEntry (syscallVector d) s.cpu).pc, by rw [heq], rfl⟩

theorem entered_syscall (d : OpCodeFormatType10) {bus : Bus D} (hbus : bus.ReadsKeep)
    (s : CpuState D) : Entered (.syscall d) s ((opExecSyscall10 bus d).run s).2 := by
  obtain ⟨v, pc, hv, hrun⟩ := opExecSyscall10_eq bus d s
  have hread := hbus { s with cpu := syscallEntry (syscallVector d) s.cpu }
    (syscallTableAddr (syscallVector d) s.cpu)
  rw [← hv] at hread
  have hcore := (sameUnits_syscallEntry (syscallVector d) s.cpu).coreId
  have heipc : (syscallEntry (syscallVector d) s.cpu).getSysreg2 .eipc = s.cpu.pc + 4 := by
    unfold syscallEntry
    simp (disch := decide) only [getSysreg2_setPsw_of_ne, getSysreg2_clrPsw_of_ne,
      getSysreg2_setSysreg2_of_ne, getSysreg2_setSysreg2]
  have heipsw : (syscallEntry (syscallVector d) s.cpu).getSysreg2 .eipsw = s.cpu.psw := by
    unfold syscallEntry
    simp (disch := decide) only [getSysreg2_setPsw_of_ne, getSysreg2_clrPsw_of_ne,
      getSysreg2_setSysreg2_of_ne, getSysreg2_setSysreg2]
  have hispr : (syscallEntry (syscallVector d) s.cpu).getSysreg2 .ispr =
      s.cpu.getSysreg2 .ispr := by
    unfold syscallEntry
    simp (disch := decide) only [getSysreg2_setPsw_of_ne, getSysreg2_clrPsw_of_ne,
      getSysreg2_setSysreg2_of_ne]
  have hr : (syscallEntry (syscallVector d) s.cpu).r = s.cpu.r := by
    unfold syscallEntry
    rw [r_setPsw, r_setPsw, r_clrPsw, r_setSysreg2, r_setSysreg2, r_setSysreg2, r_setSysreg2]
  rw [hrun]
  generalize syscallEntry (syscallVector d) s.cpu = cpu at hread hcore heipc heipsw hispr hr ⊢
  exact ⟨heipc, heipsw, hread.1.trans hr, hread.2, hispr, hcore⟩

/-- Every software exception saves the next address and `PSW`, and leaves the
general registers and the interrupt controller alone. -/
theorem entered (t : SoftTrap) (hformed : t.toEntry.Formed) {bus : Bus D} (hbus : bus.ReadsKeep)
    (s : CpuState D) : Entered t s (t.toEntry.enter bus s) := by
  cases t with
  | trap d => exact entered_trap hformed s
  | fetrap d => exact entered_fetrap d s
  | syscall d => exact entered_syscall d hbus s

/-! ## After the return -/

/-- A return takes the saved registers, and ends the running exception. -/
theorem leave_eq (t : SoftTrap) (s : CpuState D) :
    (t.leave s).cpu.pc = s.cpu.getSysreg2 (levelRegs t.fe).pc &&& 0xFFFFFFFE#32 ∧
      (t.leave s).cpu.psw = s.cpu.getSysreg2 (levelRegs t.fe).psw ∧
      (t.leave s).cpu.r = s.cpu.r ∧
      ((s.intc.control s.cpu.coreId).current = none →
        (t.leave s).intc = s.intc ∧ (t.leave s).cpu.getSysreg2 .ispr = s.cpu.getSysreg2 .ispr) ∧
      (∀ exp, (s.intc.control s.cpu.coreId).current = some exp →
        ((t.leave s).intc.control s.cpu.coreId).currentException = none) := by
  unfold SoftTrap.leave
  cases t.fe with
  | true =>
    rw [if_pos rfl, run_opExecFeret10]
    have hispr : (restoreFe s.cpu).getSysreg2 .ispr = s.cpu.getSysreg2 .ispr :=
      getSysreg2_setSysreg2_of_ne s.cpu (s.cpu.getSysreg2 .fepsw)
        (show SysReg.ispr ≠ .psw by decide)
    have hpsw : (restoreFe s.cpu).psw = s.cpu.getSysreg2 .fepsw :=
      getSysreg2_setSysreg2 s.cpu .psw (s.cpu.getSysreg2 .fepsw)
    unfold intcClrFe
    dsimp only
    cases hcurrent : (s.intc.control s.cpu.coreId).current with
    | none => exact ⟨rfl, hpsw, rfl, fun _ => ⟨rfl, hispr⟩, fun _ h => by cases h⟩
    | some exp =>
      refine ⟨rfl, hpsw, rfl, ?_, fun _ _ => ?_⟩
      · intro h
        cases h
      · simp [dropCurrent, Intc.modifyControl]
  | false =>
    rw [if_neg (by simp), run_opExecEiret10]
    have hispr : (restoreEi s.cpu).getSysreg2 .ispr = s.cpu.getSysreg2 .ispr :=
      getSysreg2_setSysreg2_of_ne s.cpu (s.cpu.getSysreg2 .eipsw)
        (show SysReg.ispr ≠ .psw by decide)
    have hpsw : (restoreEi s.cpu).psw = s.cpu.getSysreg2 .eipsw :=
      getSysreg2_setSysreg2 s.cpu .psw (s.cpu.getSysreg2 .eipsw)
    unfold intcClrEi
    dsimp only
    cases hcurrent : (s.intc.control s.cpu.coreId).current with
    | none => exact ⟨rfl, hpsw, rfl, fun _ => ⟨rfl, hispr⟩, fun _ h => by cases h⟩
    | some exp =>
      have hkeep : ∀ cpu : TargetCore, ∀ intno,
          (intcSetCurrentUserIntrPriorityDegree s.intc cpu intno false).pc = cpu.pc ∧
          (intcSetCurrentUserIntrPriorityDegree s.intc cpu intno false).psw = cpu.psw ∧
          (intcSetCurrentUserIntrPriorityDegree s.intc cpu intno false).r = cpu.r := by
        intro cpu intno
        unfold intcSetCurrentUserIntrPriorityDegree
        dsimp only
        split_ifs <;> exact ⟨rfl, rfl, rfl⟩
      dsimp only
      by_cases hexno : exp.exno = .userIntr
      · rw [if_pos hexno]
        obtain ⟨hpc', hpsw', hr'⟩ := hkeep (restoreEi s.cpu) exp.intno
        refine ⟨hpc', hpsw'.trans hpsw, hr', ?_, fun _ _ => ?_⟩
        · intro h
          cases h
        · simp [dropCurrent, Intc.modifyControl]
      · rw [if_neg hexno]
        refine ⟨rfl, hpsw, rfl, ?_, fun _ _ => ?_⟩
        · intro h
          cases h
        · simp [dropCurrent, Intc.modifyControl]

/-- The last bit of a return address is dropped. -/
theorem and_even_eq_iff (x : Word) : x &&& 0xFFFFFFFE#32 = x ↔ x.getLsbD 0 = false := by
  constructor
  · intro h
    rw [← h, BitVec.getLsbD_and]
    simp
  · intro h
    apply BitVec.eq_of_getLsbD_eq
    intro i hi
    rw [BitVec.getLsbD_and]
    by_cases hzero : i = 0
    · subst hzero
      rw [h, Bool.false_and]
    · have hmask : ∀ j : Fin 32, j.val ≠ 0 → (0xFFFFFFFE#32).getLsbD j.val = true := by decide
      rw [hmask ⟨i, hi⟩ hzero, Bool.and_true]

/-- The return restores the state before the software exception exactly when no
exception was running there and the next address is even. -/
theorem restored_iff (t : SoftTrap) (hformed : t.toEntry.Formed) {bus : Bus D}
    (hbus : bus.ReadsKeep) {s s' : CpuState D}
    (h : Undisturbed t.fe (t.toEntry.enter bus s) s') :
    Restored (t.nextPc s.cpu) s (t.leave s') ↔
      (s.intc.control s.cpu.coreId).current = none ∧ (t.nextPc s.cpu).getLsbD 0 = false := by
  have he := entered t hformed hbus s
  obtain ⟨hpc, hpsw, hr, hidle, hbusy⟩ := leave_eq t s'
  have hcontrol : s'.intc.control = s.intc.control := by
    rw [h.control, he.intc]
  have hcore : s'.cpu.coreId = s.cpu.coreId := h.coreId.trans he.coreId
  have hcurrent : (s'.intc.control s'.cpu.coreId).current =
      (s.intc.control s.cpu.coreId).current := by
    rw [hcontrol, hcore]
  have hnext : (t.leave s').cpu.pc = t.nextPc s.cpu &&& 0xFFFFFFFE#32 := by
    rw [hpc, h.savedPc, he.savedPc]
  constructor
  · intro hrest
    refine ⟨?_, ?_⟩
    · cases hcase : (s.intc.control s.cpu.coreId).current with
      | none => rfl
      | some exp =>
        have hgone := hbusy exp (hcurrent.trans hcase)
        rw [hrest.control, hcore] at hgone
        unfold ExceptionController.current at hcase
        rw [hgone] at hcase
        cases hcase
    · rw [← and_even_eq_iff, ← hnext]
      exact hrest.pc
  · rintro ⟨hnone, heven⟩
    obtain ⟨hintc, hispr⟩ := hidle (hcurrent.trans hnone)
    refine ⟨?_, ?_, ?_, ?_, ?_⟩
    · rw [hnext]
      exact (and_even_eq_iff _).mpr heven
    · rw [hpsw, h.savedPsw, he.savedPsw]
    · rw [hr, h.r, he.r]
    · rw [hintc, hcontrol]
    · rw [hispr, h.ispr, he.ispr]

/-! ## A software exception inside a handler -/

theorem Undisturbed.refl (fe : Bool) (s : CpuState D) : Undisturbed fe s s :=
  ⟨rfl, rfl, rfl, rfl, rfl, rfl, rfl⟩

theorem readsKeep_romBus (rom : Nat → HalfWord) : (romBus rom).ReadsKeep :=
  fun _ _ => ⟨rfl, rfl⟩

/-- `TRAP 0`. -/
def softTrap0 : SoftTrap := .trap OpDecodedCode.bss.type10

/-- A ROM of `NOP`s. -/
def nopBus : Bus Unit := romBus fun _ => 0

theorem restored_iff_reset :
    Restored (softTrap0.nextPc resetState.cpu) resetState
        (softTrap0.leave (softTrap0.toEntry.enter nopBus resetState)) ↔
      (resetState.intc.control resetState.cpu.coreId).current = none ∧
        (softTrap0.nextPc resetState.cpu).getLsbD 0 = false :=
  restored_iff softTrap0 (show softTrap0.toEntry.Formed from (by decide : 0#32 ≤ 0x1F#32))
    (readsKeep_romBus _) (Undisturbed.refl _ _)

/-- The handler of a privileged instruction has been started. -/
def handlerState : CpuState Unit :=
  supplyClockIntc nopBus 0
    { resetState with toCpuIntc := intcRaiseException 0 .pie resetState.toCpuIntc }

/-- `TRAP 0` and `EIRET` inside the handler: the controller has no running
exception any more. -/
theorem not_restored_handler :
    ¬ Restored (softTrap0.nextPc handlerState.cpu) handlerState
      (softTrap0.leave (softTrap0.toEntry.enter nopBus handlerState)) := by
  intro h
  have hcurrent := congrArg (fun control => (control 0).currentException) h.control
  revert hcurrent
  decide +kernel

end Athrill
