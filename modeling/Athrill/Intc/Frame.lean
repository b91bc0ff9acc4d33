import Athrill.Cpu.Run

/-!
# System registers that exceptions leave alone

Interrupts and exceptions write the registers of `entryRegs`: `PSW`, the saved
states, the causes and the priorities in service.  All other system registers
are kept by everything a core does between two of its clocks.

* `EntryFrame`: the registers outside the list are the same.
* `EntryKept`: what a relation between cores must allow to be kept as well.
* `kept_supplyClockIntc`: a clock of the interrupt controller.
* `kept_machineStep`: every step of the machine that is not a clock.
-/

namespace Athrill

open TargetCore

variable {D : Type}

/-- The registers that interrupts, exceptions and their returns write. -/
def entryRegs : List SysReg :=
  [.psw, .ispr, .icsr, .eipc, .eipsw, .eiic, .fepc, .fepsw, .feic, .ecr, .mea, .mei]

/-- The system registers outside the list are kept. -/
def EntryFrame (cpu cpu' : TargetCore) : Prop :=
  ∀ id, id ∉ entryRegs → cpu'.getSysreg2 id = cpu.getSysreg2 id

namespace EntryFrame

variable {cpu cpu' cpu'' : TargetCore}

theorem refl (cpu : TargetCore) : EntryFrame cpu cpu := fun _ _ => rfl

theorem trans (h : EntryFrame cpu cpu') (h' : EntryFrame cpu' cpu'') : EntryFrame cpu cpu'' :=
  fun id hid => (h' id hid).trans (h id hid)

theorem of_eq (hsys : cpu'.sys = cpu.sys) : EntryFrame cpu cpu' :=
  fun id _ => congrFun hsys id

theorem write {id : SysReg} (hid : id ∈ entryRegs) (data : Word) (cpu : TargetCore) :
    EntryFrame cpu (cpu.setSysreg2 id data) := by
  intro id' hid'
  refine getSysreg2_setSysreg2_of_ne _ _ ?_
  rintro rfl
  exact hid' hid

end EntryFrame

/-- A relation that allows writes to the registers of the list, and anything
that touches neither system registers nor general registers. -/
class EntryKept (R : TargetCore → TargetCore → Prop) : Prop extends
    Std.Refl R, IsTrans TargetCore R where
  write : ∀ {id}, id ∈ entryRegs → ∀ data cpu, R cpu (cpu.setSysreg2 id data)
  of_eq : ∀ {cpu cpu'}, cpu'.sys = cpu.sys → cpu'.r = cpu.r → R cpu cpu'

instance : EntryKept EntryFrame where
  refl := .refl
  trans _ _ _ h h' := h.trans h'
  write hid data cpu := .write hid data cpu
  of_eq hsys _ := .of_eq hsys

/-- The general registers are the same. -/
def SameRegs (cpu cpu' : TargetCore) : Prop :=
  cpu'.r = cpu.r

instance : EntryKept SameRegs where
  refl _ := rfl
  trans _ _ _ h h' := h'.trans h
  write _ _ _ := rfl
  of_eq _ hr := hr

section Kept

open EntryKept (write of_eq)

variable {R : TargetCore → TargetCore → Prop} [EntryKept R]

theorem kept_setPsw (bit : Nat) (cpu : TargetCore) : R cpu (cpu.setPsw bit) :=
  write (by decide) _ _

theorem kept_clrPsw (bit : Nat) (cpu : TargetCore) : R cpu (cpu.clrPsw bit) :=
  write (by decide) _ _

/-! ## The interrupt controller -/

theorem kept_intcSetCurrentUserIntrPriorityDegree (intc : Intc) (cpu : TargetCore)
    (intno : Nat) (flag : Bool) :
    R cpu (intcSetCurrentUserIntrPriorityDegree intc cpu intno flag) := by
  unfold intcSetCurrentUserIntrPriorityDegree
  dsimp only
  split_ifs
  · exact refl_of R cpu
  · exact write (by decide) _ _
  · exact refl_of R cpu
  · exact refl_of R cpu
  · exact write (by decide) _ _

theorem kept_masked (cpu : TargetCore) (flag : Bool) :
    R cpu (intcSetUserIntrStatePriorityDegreeMasked cpu flag) :=
  write (by decide) _ _

theorem kept_intcClrFe (coreId : CoreId) (s : CpuIntc) :
    R s.cpu (intcClrFe coreId s).cpu := by
  unfold intcClrFe
  split
  · exact refl_of R _
  · exact refl_of R _

theorem kept_intcClrEi (coreId : CoreId) (s : CpuIntc) :
    R s.cpu (intcClrEi coreId s).cpu := by
  unfold intcClrEi
  split
  · exact refl_of R _
  · dsimp only
    split_ifs
    · exact kept_intcSetCurrentUserIntrPriorityDegree _ _ _ _
    · exact refl_of R _

theorem kept_judgePendingUserIntr (coreId : CoreId) (s : CpuIntc) :
    R s.cpu (judgePendingUserIntr coreId s).cpu := by
  have hhalt : R s.cpu { s.cpu with isHalt := false } := of_eq rfl rfl
  unfold judgePendingUserIntr
  split
  · exact refl_of R _
  · split_ifs
    · exact refl_of R _
    · unfold judgeCpuMaskUserIntr
      dsimp only
      split_ifs
      · exact hhalt
      · exact trans_of R hhalt (kept_masked _ _)
      · exact trans_of R hhalt (kept_masked _ _)

theorem kept_judgeQueue (intc : Intc) (queue : List ExceptionRequest) (js : JudgeState) :
    R js.cpu (queue.foldl (judgeEntry intc) js).cpu := by
  induction queue generalizing js with
  | nil => exact refl_of R _
  | cons req queue ih =>
    have hentry : R js.cpu (judgeEntry intc js req).cpu := by
      unfold judgeEntry
      split_ifs
      · exact kept_masked _ _
      · exact refl_of R _
    exact trans_of R hentry (ih _)

theorem kept_judgeLevels (intc : Intc) (control : ExceptionController)
    (levels : List (Fin 16)) (js : JudgeState) :
    R js.cpu (judgeLevels intc control levels js).cpu := by
  induction levels generalizing js with
  | nil => exact refl_of R _
  | cons level levels ih =>
    have hqueue : R js.cpu _ := kept_judgeQueue intc (control.exceptionQueue level) js
    unfold judgeLevels
    dsimp only
    split_ifs
    · exact trans_of R hqueue (ih _)
    · exact hqueue
    · exact trans_of R hqueue (ih _)

theorem kept_judgePendingException (coreId : CoreId) (s : CpuIntc) :
    R s.cpu (judgePendingException coreId s).2.cpu := by
  have hstart : (judgeStart (s.intc.control coreId) s.cpu).cpu = s.cpu := by
    unfold judgeStart
    split <;> rfl
  have hsearch : R s.cpu (judgeSearch coreId s).cpu := by
    have h : R _ _ := kept_judgeLevels s.intc (s.intc.control coreId)
      (judgeLevelList (s.intc.control coreId)) (judgeStart (s.intc.control coreId) s.cpu)
    rw [hstart] at h
    exact h
  have hcan (exception : ExceptionRequest) (cpu : TargetCore) :
      R cpu (canRaiseException exception cpu).2 := by
    unfold canRaiseException
    split_ifs
    · exact refl_of R _
    · exact of_eq rfl rfl
    · exact refl_of R _
    · exact refl_of R _
  have haccept (candidate : ExceptionRequest) (s : CpuIntc) :
      R s.cpu (judgeAccept coreId candidate s).2.cpu := by
    unfold judgeAccept
    dsimp only
    split_ifs
    · exact refl_of R _
    · exact trans_of R (hcan candidate s.cpu) (kept_masked _ _)
    · exact hcan candidate s.cpu
    · exact hcan candidate s.cpu
  unfold judgePendingException
  dsimp only
  split
  · exact hsearch
  · split_ifs
    · exact hsearch
    · exact trans_of R hsearch (haccept _ { s with cpu := (judgeSearch coreId s).cpu })

theorem kept_saveContext (exception : ExceptionRequest) (cpu : TargetCore) :
    R cpu (saveContext exception cpu) := by
  unfold saveContext
  dsimp only
  split_ifs
  · exact trans_of R (trans_of R (write (by decide) _ _) (write (by decide) _ _)) (write (by decide) _ _)
  · exact trans_of R (trans_of R (write (by decide) _ _) (write (by decide) _ _)) (write (by decide) _ _)

theorem kept_updatePswInfo (info : ExceptionUpdatePswInfo) (cpu : TargetCore) :
    R cpu (updatePswInfo info cpu) := by
  have hupdate (op : ExceptionUpdatePswOp) (bit : Nat) (cpu : TargetCore) :
      R cpu (updatePsw op bit cpu) := by
    cases op with
    | clr => exact kept_clrPsw bit cpu
    | set => exact kept_setPsw bit cpu
    | save => exact refl_of R cpu
  exact trans_of R (trans_of R (trans_of R (hupdate _ _ _) (hupdate _ _ _)) (hupdate _ _ _)) (hupdate _ _ _)

theorem kept_enterException (exception : ExceptionRequest) (s : CpuState D) :
    R s.cpu (enterException exception s).cpu := by
  unfold enterException
  extract_lets ci cpu
  have hci : R s.cpu ci.cpu := by
    by_cases hexno : exception.exno = .userIntr
    · rw [show ci = _ from if_pos hexno]
      exact kept_intcSetCurrentUserIntrPriorityDegree _ _ _ _
    · rw [show ci = _ from if_neg hexno]
      exact refl_of R _
  exact trans_of R (trans_of R hci (kept_saveContext exception _)) (kept_updatePswInfo _ _)

/-- The read of a handler address changes a core in no other way. -/
def ReadKept (R : TargetCore → TargetCore → Prop) (bus : Bus D) : Prop :=
  ∀ (s : CpuState D) addr, R s.cpu (s.withView (bus.getData32 s addr).2).cpu

theorem readKept_entryFrame (bus : Bus D) : ReadKept EntryFrame bus :=
  fun _ _ => .of_eq rfl

section Read

variable {bus : Bus D} (hread : ReadKept R bus)
include hread

theorem kept_raiseException (exception : ExceptionRequest) (s : CpuState D) :
    R s.cpu (raiseException bus exception s).cpu := by
  have hstart (cpu : TargetCore) (pc : Word) : R cpu { cpu with pc := pc, isHalt := false } :=
    of_eq rfl rfl
  have hfatal (cpu : TargetCore) : R cpu { cpu with fatalError := true } := of_eq rfl rfl
  have henter : R s.cpu (enterException exception s).cpu := kept_enterException exception s
  have hbus : R (enterException exception s).cpu
      ((enterException exception s).withView
        (tableView bus (enterException exception s) exception.intno)).cpu := hread _ _
  rcases raiseException_cases bus exception s with heq | ⟨s', addr, hsearched, heq⟩
  · rw [heq]
    exact henter
  · rw [heq]
    refine trans_of R (trans_of R henter ?_) (hstart s'.cpu addr)
    cases hsearched with
    | direct => exact refl_of R _
    | table => exact hbus
    | failed => exact trans_of R hbus (hfatal _)

/-- A clock of the interrupt controller. -/
theorem kept_supplyClockIntc (coreId : CoreId) (s : CpuState D) :
    R s.cpu (supplyClockIntc bus coreId s).cpu := by
  have huser : R s.cpu _ := kept_judgePendingUserIntr coreId s.toCpuIntc
  have hjudge : R _ _ :=
    kept_judgePendingException coreId (judgePendingUserIntr coreId s.toCpuIntc)
  unfold supplyClockIntc
  dsimp only
  split
  · rename_i exception ci heq
    rw [heq] at hjudge
    exact trans_of R (trans_of R huser hjudge)
      (kept_raiseException hread exception { s with cpu := ci.cpu, intc := ci.intc })
  · rename_i ci heq
    rw [heq] at hjudge
    exact trans_of R huser hjudge

end Read

/-! ## Exceptions of instructions and returns -/

theorem kept_setPc (pc : Word) (cpu : TargetCore) : R cpu { cpu with pc := pc } :=
  of_eq rfl rfl

theorem kept_restoreEi (cpu : TargetCore) : R cpu (restoreEi cpu) :=
  trans_of R (write (by decide) _ _) (kept_setPc _ _)

theorem kept_restoreFe (cpu : TargetCore) : R cpu (restoreFe cpu) :=
  trans_of R (write (by decide) _ _) (kept_setPc _ _)

theorem kept_trapEntry (vector : Word) (cpu : TargetCore) : R cpu (trapEntry vector cpu) := by
  unfold trapEntry
  by_cases hvector : vector ≤ 0x1F#32
  · rw [if_pos hvector]
    extract_lets cpu₁ cpu₂ cpu₃ cpu₄
    have h₁ : R cpu cpu₁ := write (by decide) _ _
    have h₂ : R cpu cpu₂ := trans_of R h₁ (write (by decide) _ _)
    have h₃ : R cpu cpu₃ := trans_of R h₂ (write (by decide) _ _)
    have h₄ : R cpu cpu₄ := trans_of R h₃ (trans_of R (kept_setPsw _ _) (kept_setPsw _ _))
    exact trans_of R h₄ (kept_setPc _ _)
  · rw [if_neg hvector]
    exact refl_of R cpu

theorem kept_fetrapEntry (vector : Word) (cpu : TargetCore) :
    R cpu (fetrapEntry vector cpu) := by
  unfold fetrapEntry
  extract_lets psw fecc ecr cpu₁ cpu₂ cpu₃ cpu₄ cpu₅
  have h₁ : R cpu cpu₁ := write (by decide) _ _
  have h₂ : R cpu cpu₂ := trans_of R h₁ (write (by decide) _ _)
  have h₃ : R cpu cpu₃ := trans_of R h₂ (write (by decide) _ _)
  have h₄ : R cpu cpu₄ := trans_of R h₃ (write (by decide) _ _)
  have h₅ : R cpu₄ cpu₅ :=
    trans_of R (trans_of R (kept_setPsw _ _) (kept_setPsw _ _)) (kept_setPsw _ _)
  exact trans_of R (trans_of R h₄ h₅) (kept_setPc _ _)

theorem kept_syscallEntry (vector8 : Word) (cpu : TargetCore) :
    R cpu (syscallEntry vector8 cpu) := by
  unfold syscallEntry
  extract_lets psw eiic ecr cpu₁ cpu₂ cpu₃ cpu₄
  have h₁ : R cpu cpu₁ := write (by decide) _ _
  have h₂ : R cpu cpu₂ := trans_of R h₁ (write (by decide) _ _)
  have h₃ : R cpu cpu₃ := trans_of R h₂ (write (by decide) _ _)
  have h₄ : R cpu cpu₄ := trans_of R h₃ (write (by decide) _ _)
  have hflags : R cpu₄ (((cpu₄.clrPsw pswUM).setPsw pswEP).setPsw pswID) :=
    trans_of R (trans_of R (kept_clrPsw _ _) (kept_setPsw _ _)) (kept_setPsw _ _)
  exact trans_of R h₄ hflags

/-! ## Reports of violations -/

theorem kept_targetMpuSetError {cpu cpu' : TargetCore}
    (h : targetMpuSetError cpu = some cpu') : R cpu cpu' := by
  have hset {cpu cpu' : TargetCore} (h : mpuSetError cpu = some cpu') : R cpu cpu' := by
    unfold mpuSetError at h
    dsimp only at h
    split_ifs at h
    · cases h
      exact write (by decide) _ _
    · rw [Option.map_eq_some_iff] at h
      obtain ⟨codeId, _, rfl⟩ := h
      exact trans_of R (write (by decide) _ _) (write (by decide) _ _)
  have hinfo (info : TargetMpuErrorInfo) : R cpu (setErrorInfo cpu info) := of_eq rfl rfl
  unfold targetMpuSetError at h
  exact trans_of R (hinfo _) (hset h)

theorem kept_cpuIllegalAccess {s s' : CpuIntc} {b : Bool}
    (h : cpuIllegalAccess s = some (b, s')) : R s.cpu s'.cpu := by
  have hraise (exno : ExceptionId) {cpu : TargetCore}
      (hset : targetMpuSetError (intcRaiseException s.cpu.coreId exno s).cpu = some cpu) :
      R s.cpu cpu := by
    have hraised : R s.cpu (intcRaiseException s.cpu.coreId exno s).cpu := of_eq rfl rfl
    exact trans_of R hraised (kept_targetMpuSetError hset)
  have hclear (cpu : TargetCore) : R cpu (clearViolation cpu) := of_eq rfl rfl
  unfold cpuIllegalAccess at h
  dsimp only at h
  split_ifs at h
  · cases h
    exact refl_of R _
  · simp only [Option.map_some, Option.some.injEq, Prod.mk.injEq] at h
    rw [← h.2]
    exact of_eq rfl rfl
  · simp only [Option.map_map, Option.map_eq_some_iff, Function.comp, Prod.mk.injEq] at h
    obtain ⟨cpu, hset, _, rfl⟩ := h
    exact trans_of R (hraise _ hset) (hclear _)
  · simp only [Option.map_map, Option.map_eq_some_iff, Function.comp, Prod.mk.injEq] at h
    obtain ⟨cpu, hset, _, rfl⟩ := h
    exact trans_of R (hraise _ hset) (hclear _)
  · simp only [Option.map_some, Option.some.injEq, Prod.mk.injEq] at h
    rw [← h.2]
    exact hclear _

theorem kept_cpuIllegalOpcodeTrap (cpu : TargetCore) :
    R cpu (cpuIllegalOpcodeTrap cpu) := by
  unfold cpuIllegalOpcodeTrap
  extract_lets cpu₁ cpu₂ cpu₃ cpu₄
  have h₁ : R cpu cpu₁ := write (by decide) _ _
  have h₂ : R cpu₁ cpu₂ := write (by decide) _ _
  have h₃ : R cpu₂ cpu₃ := write (by decide) _ _
  have h₄ : R cpu₃ cpu₄ :=
    trans_of R (trans_of R (kept_setPsw _ _) (kept_setPsw _ _)) (kept_setPsw _ _)
  have h₅ : R cpu₄ { cpu₄ with pc := 0x60 } := kept_setPc _ _
  exact trans_of R (trans_of R (trans_of R (trans_of R h₁ h₂) h₃) h₄) h₅

/-- Every step of the machine but a clock. -/
theorem kept_machineStep {p : Platform D} (hread : ReadKept R p.bus) {e : MachineEvent} {m m' : Machine D}
    (hstep : MachineStep p e m m') (he : ∀ c cached, e ≠ .clock c cached) (i : CoreId) :
    R (m.cores i) (m'.cores i) := by
  cases hstep with
  | clock _ c cached h => exact absurd rfl (he c cached)
  | illegalAccess _ c h =>
    rw [cores_putCpuState]
    split_ifs with hi
    · subst hi
      exact kept_cpuIllegalAccess h
    · exact refl_of R _
  | illegalOpcodeTrap _ c =>
    show R _ (Function.update m.cores c _ i)
    rw [Function.update_apply]
    split_ifs with hi
    · subst hi
      exact kept_cpuIllegalOpcodeTrap _
    · exact refl_of R _
  | intc _ c =>
    rw [cores_putCpuState]
    split_ifs with hi
    · subst hi
      exact kept_supplyClockIntc hread i (m.clockState i).toCpuState
    · exact refl_of R _
  | raiseIntr _ intno => exact refl_of R _
  | device _ dev => exact refl_of R _

end Kept

end Athrill
