import Athrill.Cpu.Step
import Athrill.Exec.Plain

/-!
# Who writes the MPU registers

The registers of `SYS_GRP_5` to `SYS_GRP_7` and their decoded copy are written
by `LDSR` alone.  No other instruction, no exception entry and no function of
the interrupt controller touches them.

The floating-point registers have one more writer, the floating-point
instructions; the other steps keep both groups.

* `SameMpu`: the MPU registers and the decoded copy are kept.
* `SameUnits`: and so are the floating-point registers.
* `sameUnits_supplyClockIntc` and the lemmas before it: the interrupt controller.
* `keeps_sameUnits`, `keeps_sameMpu`: the instructions but `LDSR`.
* `configSynced_ldsrWrite`: after `LDSR` the copy is made again.
-/

namespace Athrill

open TargetCore Routine

variable {D : Type}

/-- The MPU registers and the decoded regions are the same. -/
structure SameMpu (cpu cpu' : TargetCore) : Prop where
  sys : ∀ id : SysReg, 5 ≤ id.selid → cpu'.getSysreg2 id = cpu.getSysreg2 id
  mpu : ∃ info, cpu'.mpu = { cpu.mpu with exceptionErrorInfo := info }
  coreId : cpu'.coreId = cpu.coreId

namespace SameMpu

variable {cpu cpu' cpu'' : TargetCore}

theorem refl (cpu : TargetCore) : SameMpu cpu cpu :=
  ⟨fun _ _ => rfl, ⟨_, rfl⟩, rfl⟩

theorem trans (h : SameMpu cpu cpu') (h' : SameMpu cpu' cpu'') : SameMpu cpu cpu'' := by
  obtain ⟨info, hmpu⟩ := h.mpu
  obtain ⟨info', hmpu'⟩ := h'.mpu
  refine ⟨fun id hid => ?_, ⟨info', ?_⟩, ?_⟩
  · rw [h'.sys id hid, h.sys id hid]
  · rw [hmpu', hmpu]
  · rw [h'.coreId, h.coreId]

theorem of_eq (hsys : cpu'.sys = cpu.sys) (hmpu : cpu'.mpu = cpu.mpu)
    (hcore : cpu'.coreId = cpu.coreId) : SameMpu cpu cpu' := by
  refine ⟨fun id _ => ?_, ⟨cpu.mpu.exceptionErrorInfo, ?_⟩, hcore⟩
  · simp only [getSysreg2, hsys]
  · rw [hmpu]

theorem configSynced (h : SameMpu cpu cpu') (hsync : ConfigSynced cpu) : ConfigSynced cpu' := by
  obtain ⟨info, hmpu⟩ := h.mpu
  have hmpm : cpu'.getSysreg2 .mpm = cpu.getSysreg2 .mpm := h.sys .mpm (by decide)
  have hregion (index : Fin 16) (off : Fin 3) :
      cpu'.getSysreg2 (regionReg index off) = cpu.getSysreg2 (regionReg index off) := by
    refine h.sys _ ?_
    revert index off
    decide
  have hobj : mpuConfigObj cpu' = mpuConfigObj cpu := by
    funext index
    simp only [mpuConfigObj, hregion]
  have hcopy : (mpuSetConfig cpu).mpu = cpu.mpu := congrArg TargetCore.mpu hsync
  have hcopy' : (mpuSetConfig cpu').mpu = cpu'.mpu := by
    show { cpu'.mpu with
      isEnableMpu := (cpu'.getSysreg2 .mpm).getLsbD mpmMPE
      isEnableSv := (cpu'.getSysreg2 .mpm).getLsbD mpmSVP
      isEnableOutsideProtectionRegion := { read := false, write := false, exec := false }
      permissionRegion := mpuConfigObj cpu' } = cpu'.mpu
    rw [hmpm, hobj, hmpu]
    conv_rhs => rw [← hcopy]
    rfl
  show { cpu' with mpu := (mpuSetConfig cpu').mpu } = cpu'
  rw [hcopy']

end SameMpu

theorem sameMpu_setSysreg2 {id : SysReg} (hid : id.selid < 5) (data : Word) (cpu : TargetCore) :
    SameMpu cpu (cpu.setSysreg2 id data) := by
  refine ⟨fun id' hid' => getSysreg2_setSysreg2_of_ne _ _ ?_, ⟨_, rfl⟩, rfl⟩
  intro h
  subst h
  exact absurd hid' (Fin.not_le.mpr hid)

/-- The floating-point registers that hold fields of `FPSR`. -/
def fpuRegs : List SysReg := [.fpsr, .fpst, .fpcc, .fpcfg]

/-- The floating-point registers are the same as well. -/
structure SameUnits (cpu cpu' : TargetCore) : Prop extends SameMpu cpu cpu' where
  fpu : ∀ id ∈ fpuRegs, cpu'.getSysreg2 id = cpu.getSysreg2 id

namespace SameUnits

variable {cpu cpu' cpu'' : TargetCore}

theorem refl (cpu : TargetCore) : SameUnits cpu cpu :=
  ⟨SameMpu.refl cpu, fun _ _ => rfl⟩

theorem trans (h : SameUnits cpu cpu') (h' : SameUnits cpu' cpu'') : SameUnits cpu cpu'' :=
  ⟨h.toSameMpu.trans h'.toSameMpu, fun id hid => (h'.fpu id hid).trans (h.fpu id hid)⟩

theorem of_eq (hsys : cpu'.sys = cpu.sys) (hmpu : cpu'.mpu = cpu.mpu)
    (hcore : cpu'.coreId = cpu.coreId) : SameUnits cpu cpu' :=
  ⟨.of_eq hsys hmpu hcore, fun id _ => congrFun hsys id⟩

end SameUnits

theorem sameUnits_setSysreg2 {id : SysReg} (hid : id.selid < 5 ∧ id ∉ fpuRegs) (data : Word)
    (cpu : TargetCore) : SameUnits cpu (cpu.setSysreg2 id data) := by
  refine ⟨sameMpu_setSysreg2 hid.1 data cpu, fun id' hid' => getSysreg2_setSysreg2_of_ne _ _ ?_⟩
  intro h
  subst h
  exact hid.2 hid'

theorem sameUnits_setPsw (bit : Nat) (cpu : TargetCore) : SameUnits cpu (cpu.setPsw bit) :=
  sameUnits_setSysreg2 (by decide) _ _

theorem sameUnits_clrPsw (bit : Nat) (cpu : TargetCore) : SameUnits cpu (cpu.clrPsw bit) :=
  sameUnits_setSysreg2 (by decide) _ _

theorem sameUnits_withView (s : CpuState D) (v : BusView D) :
    SameUnits s.cpu (s.withView v).cpu :=
  ⟨⟨fun _ _ => rfl, ⟨_, rfl⟩, rfl⟩, fun _ _ => rfl⟩

/-! ## The interrupt controller -/

theorem sameUnits_intcSetCurrentUserIntrPriorityDegree (intc : Intc) (cpu : TargetCore)
    (intno : Nat) (flag : Bool) :
    SameUnits cpu (intcSetCurrentUserIntrPriorityDegree intc cpu intno flag) := by
  unfold intcSetCurrentUserIntrPriorityDegree
  dsimp only
  split_ifs
  · exact SameUnits.refl cpu
  · exact sameUnits_setSysreg2 (by decide) _ _
  · exact SameUnits.refl cpu
  · exact SameUnits.refl cpu
  · exact sameUnits_setSysreg2 (by decide) _ _

theorem sameUnits_masked (cpu : TargetCore) (flag : Bool) :
    SameUnits cpu (intcSetUserIntrStatePriorityDegreeMasked cpu flag) :=
  sameUnits_setSysreg2 (by decide) _ _

theorem sameUnits_intcRaiseException (coreId : CoreId) (exno : ExceptionId) (s : CpuIntc) :
    SameUnits s.cpu (intcRaiseException coreId exno s).cpu :=
  .of_eq rfl rfl rfl

theorem sameUnits_intcClrFe (coreId : CoreId) (s : CpuIntc) :
    SameUnits s.cpu (intcClrFe coreId s).cpu := by
  unfold intcClrFe
  split
  · exact SameUnits.refl _
  · exact SameUnits.refl _

theorem sameUnits_intcClrEi (coreId : CoreId) (s : CpuIntc) :
    SameUnits s.cpu (intcClrEi coreId s).cpu := by
  unfold intcClrEi
  split
  · exact SameUnits.refl _
  · dsimp only
    split_ifs
    · exact sameUnits_intcSetCurrentUserIntrPriorityDegree _ _ _ _
    · exact SameUnits.refl _

theorem sameUnits_judgePendingUserIntr (coreId : CoreId) (s : CpuIntc) :
    SameUnits s.cpu (judgePendingUserIntr coreId s).cpu := by
  have hhalt : SameUnits s.cpu { s.cpu with isHalt := false } := .of_eq rfl rfl rfl
  unfold judgePendingUserIntr
  split
  · exact SameUnits.refl _
  · split_ifs
    · exact SameUnits.refl _
    · unfold judgeCpuMaskUserIntr
      dsimp only
      split_ifs
      · exact hhalt
      · exact hhalt.trans (sameUnits_masked _ _)
      · exact hhalt.trans (sameUnits_masked _ _)

theorem sameUnits_judgeEntry (intc : Intc) (js : JudgeState) (req : ExceptionRequest) :
    SameUnits js.cpu (judgeEntry intc js req).cpu := by
  unfold judgeEntry
  split_ifs
  · exact sameUnits_masked _ _
  · exact SameUnits.refl _

theorem sameUnits_judgeQueue (intc : Intc) (queue : List ExceptionRequest) (js : JudgeState) :
    SameUnits js.cpu (queue.foldl (judgeEntry intc) js).cpu := by
  induction queue generalizing js with
  | nil => exact SameUnits.refl _
  | cons req queue ih => exact (sameUnits_judgeEntry intc js req).trans (ih _)

theorem sameUnits_judgeLevels (intc : Intc) (control : ExceptionController)
    (levels : List (Fin 16)) (js : JudgeState) :
    SameUnits js.cpu (judgeLevels intc control levels js).cpu := by
  induction levels generalizing js with
  | nil => exact SameUnits.refl _
  | cons level levels ih =>
    have hqueue := sameUnits_judgeQueue intc (control.exceptionQueue level) js
    unfold judgeLevels
    dsimp only
    split_ifs
    · exact hqueue.trans (ih _)
    · exact hqueue
    · exact hqueue.trans (ih _)

theorem sameUnits_judgeSearch (coreId : CoreId) (s : CpuIntc) :
    SameUnits s.cpu (judgeSearch coreId s).cpu := by
  have hstart : (judgeStart (s.intc.control coreId) s.cpu).cpu = s.cpu := by
    unfold judgeStart
    split <;> rfl
  have h := sameUnits_judgeLevels s.intc (s.intc.control coreId)
    (judgeLevelList (s.intc.control coreId)) (judgeStart (s.intc.control coreId) s.cpu)
  rw [hstart] at h
  exact h

theorem sameUnits_canRaiseException (exception : ExceptionRequest) (cpu : TargetCore) :
    SameUnits cpu (canRaiseException exception cpu).2 := by
  unfold canRaiseException
  split_ifs
  · exact SameUnits.refl _
  · exact .of_eq rfl rfl rfl
  · exact SameUnits.refl _
  · exact SameUnits.refl _

theorem sameUnits_judgeAccept (coreId : CoreId) (candidate : ExceptionRequest) (s : CpuIntc) :
    SameUnits s.cpu (judgeAccept coreId candidate s).2.cpu := by
  have hcan := sameUnits_canRaiseException candidate s.cpu
  unfold judgeAccept
  dsimp only
  split_ifs
  · exact SameUnits.refl _
  · exact hcan.trans (sameUnits_masked _ _)
  · exact hcan
  · exact hcan

theorem sameUnits_judgePendingException (coreId : CoreId) (s : CpuIntc) :
    SameUnits s.cpu (judgePendingException coreId s).2.cpu := by
  have hsearch := sameUnits_judgeSearch coreId s
  unfold judgePendingException
  dsimp only
  split
  · exact hsearch
  · split_ifs
    · exact hsearch
    · exact hsearch.trans
        (sameUnits_judgeAccept coreId _ { s with cpu := (judgeSearch coreId s).cpu })

theorem sameUnits_hookUserIntrRaised (exception : ExceptionRequest) (s : CpuIntc) :
    SameUnits s.cpu (hookUserIntrRaised exception s).cpu :=
  sameUnits_intcSetCurrentUserIntrPriorityDegree _ _ _ _

theorem sameUnits_saveContext (exception : ExceptionRequest) (cpu : TargetCore) :
    SameUnits cpu (saveContext exception cpu) := by
  unfold saveContext
  dsimp only
  split_ifs
  · exact ((sameUnits_setSysreg2 (by decide) _ _).trans (sameUnits_setSysreg2 (by decide) _ _)).trans
      (sameUnits_setSysreg2 (by decide) _ _)
  · exact ((sameUnits_setSysreg2 (by decide) _ _).trans (sameUnits_setSysreg2 (by decide) _ _)).trans
      (sameUnits_setSysreg2 (by decide) _ _)

theorem sameUnits_updatePsw (op : ExceptionUpdatePswOp) (bit : Nat) (cpu : TargetCore) :
    SameUnits cpu (updatePsw op bit cpu) := by
  cases op with
  | clr => exact sameUnits_clrPsw bit cpu
  | set => exact sameUnits_setPsw bit cpu
  | save => exact SameUnits.refl cpu

theorem sameUnits_updatePswInfo (info : ExceptionUpdatePswInfo) (cpu : TargetCore) :
    SameUnits cpu (updatePswInfo info cpu) :=
  (((sameUnits_updatePsw _ _ _).trans (sameUnits_updatePsw _ _ _)).trans
    (sameUnits_updatePsw _ _ _)).trans (sameUnits_updatePsw _ _ _)

theorem sameUnits_searched {s s' : CpuState D} {v : BusView D} (h : Searched s v s') :
    SameUnits s.cpu s'.cpu := by
  cases h with
  | direct => exact SameUnits.refl _
  | table => exact sameUnits_withView s v
  | failed => exact (sameUnits_withView s v).trans (.of_eq rfl rfl rfl)

theorem sameUnits_enterException (exception : ExceptionRequest) (s : CpuState D) :
    SameUnits s.cpu (enterException exception s).cpu := by
  unfold enterException
  extract_lets ci cpu
  have hci : SameUnits s.cpu ci.cpu := by
    by_cases hexno : exception.exno = .userIntr
    · rw [show ci = _ from if_pos hexno]
      exact sameUnits_hookUserIntrRaised exception s.toCpuIntc
    · rw [show ci = _ from if_neg hexno]
      exact SameUnits.refl _
  exact (hci.trans (sameUnits_saveContext exception _)).trans (sameUnits_updatePswInfo _ _)

theorem sameUnits_raiseException (bus : Bus D) (exception : ExceptionRequest) (s : CpuState D) :
    SameUnits s.cpu (raiseException bus exception s).cpu := by
  have henter := sameUnits_enterException exception s
  rcases raiseException_cases bus exception s with heq | ⟨s', addr, hsearched, heq⟩
  · rw [heq]
    exact henter
  · rw [heq]
    exact (henter.trans (sameUnits_searched hsearched)).trans (.of_eq rfl rfl rfl)

/-- A clock of the interrupt controller. -/
theorem sameUnits_supplyClockIntc (bus : Bus D) (coreId : CoreId) (s : CpuState D) :
    SameUnits s.cpu (supplyClockIntc bus coreId s).cpu := by
  have huser := sameUnits_judgePendingUserIntr coreId s.toCpuIntc
  have hjudge := sameUnits_judgePendingException coreId (judgePendingUserIntr coreId s.toCpuIntc)
  unfold supplyClockIntc
  dsimp only
  split
  · rename_i exception ci heq
    rw [heq] at hjudge
    exact (huser.trans hjudge).trans
      (sameUnits_raiseException bus exception { s with cpu := ci.cpu, intc := ci.intc })
  · rename_i ci heq
    rw [heq] at hjudge
    exact huser.trans hjudge

/-! ## The instructions -/

/-- The state is changed outside the MPU registers. -/
def MpuStep (s s' : CpuState D) : Prop :=
  SameMpu s.cpu s'.cpu

instance : Std.Refl (MpuStep (D := D)) where
  refl s := SameMpu.refl s.cpu

instance : IsTrans (CpuState D) MpuStep where
  trans _ _ _ h h' := SameMpu.trans h h'

theorem OrdinaryStep.mpuStep {s s' : CpuState D} (h : OrdinaryStep s s') : MpuStep s s' := by
  refine ⟨fun id hid => h.sys id ?_ ?_, h.mpu, h.coreId⟩
  · intro hpsw
    subst hpsw
    exact absurd hid (by decide)
  · intro hfpu
    have hsel : ∀ reg ∈ fpuStatusRegs, ¬ 5 ≤ reg.selid := by decide
    exact hsel id hfpu hid

/-- The floating-point registers are kept, too. -/
def UnitsStep (s s' : CpuState D) : Prop :=
  SameUnits s.cpu s'.cpu

instance : Std.Refl (UnitsStep (D := D)) where
  refl s := SameUnits.refl s.cpu

instance : IsTrans (CpuState D) UnitsStep where
  trans _ _ _ h h' := SameUnits.trans h h'

theorem Plain.unitsStep {s s' : CpuState D} (h : Plain s s') : UnitsStep s s' := by
  refine ⟨⟨fun id hid => h.sys id ?_, h.mpu, h.coreId⟩, fun id hid => h.sys id ?_⟩
  · intro hpsw
    subst hpsw
    exact absurd hid (by decide)
  · intro hpsw
    subst hpsw
    exact absurd hid (by decide)

namespace Exec

instance (priority := low) keeps_mpuStep_of_ordinary {α : Type} (x : Exec D α)
    [h : Keeps OrdinaryStep x] : Keeps MpuStep x :=
  h.mono fun _ _ hstep => hstep.mpuStep

instance (priority := low) keeps_unitsStep_of_plain {α : Type} (x : Exec D α)
    [h : Keeps Plain x] : Keeps UnitsStep x :=
  h.mono fun _ _ hstep => hstep.unitsStep


/-- A change of the core that keeps the registers of the units. -/
theorem keeps_unitsStep_modifyCpu {f : TargetCore → TargetCore} (h : ∀ cpu, SameUnits cpu (f cpu)) :
    Keeps UnitsStep (modifyCpu f : Exec D Unit) :=
  keeps_modify fun s => h s.cpu

theorem keeps_unitsStep_modifyIntc {f : CoreId → CpuIntc → CpuIntc}
    (h : ∀ coreId s, SameUnits s.cpu (f coreId s).cpu) :
    Keeps UnitsStep (modifyIntc f : Exec D Unit) :=
  keeps_modify fun s => h s.cpu.coreId s.toCpuIntc

instance keeps_unitsStep_setPc (pc : Word) : Keeps UnitsStep (setPc pc : Exec D Unit) :=
  keeps_unitsStep_modifyCpu fun _ => .of_eq rfl rfl rfl

instance keeps_unitsStep_addPc (n : Word) : Keeps UnitsStep (addPc n : Exec D Unit) :=
  keeps_unitsStep_modifyCpu fun _ => .of_eq rfl rfl rfl

instance keeps_unitsStep_diei (d : OpCodeFormatType10) :
    Keeps UnitsStep (opExecDiei d : Exec D Unit) := by
  have hwrite : Keeps UnitsStep
      (modifyCpu fun cpu => if d.gen1 = 0x04 then cpu.clrPsw pswID else cpu.setPsw pswID :
        Exec D Unit) := by
    refine keeps_unitsStep_modifyCpu fun cpu => ?_
    split_ifs
    · exact sameUnits_clrPsw _ _
    · exact sameUnits_setPsw _ _
  infer_instance

instance keeps_unitsStep_halt : Keeps UnitsStep (opExecHalt : Exec D Unit) := by
  have hwrite : Keeps UnitsStep
      (modifyCpu fun cpu => { cpu with isHalt := true } : Exec D Unit) :=
    keeps_unitsStep_modifyCpu fun _ => .of_eq rfl rfl rfl
  infer_instance

theorem sameUnits_restoreFe (cpu : TargetCore) : SameUnits cpu (restoreFe cpu) :=
  (sameUnits_setSysreg2 (by decide) _ _).trans (.of_eq rfl rfl rfl)

theorem sameUnits_restoreEi (cpu : TargetCore) : SameUnits cpu (restoreEi cpu) :=
  (sameUnits_setSysreg2 (by decide) _ _).trans (.of_eq rfl rfl rfl)

instance keeps_unitsStep_feret : Keeps UnitsStep (opExecFeret10 : Exec D Unit) := by
  have hcore : Keeps UnitsStep (modifyCpu restoreFe : Exec D Unit) :=
    keeps_unitsStep_modifyCpu sameUnits_restoreFe
  have hintc : Keeps UnitsStep (modifyIntc intcClrFe : Exec D Unit) :=
    keeps_unitsStep_modifyIntc sameUnits_intcClrFe
  infer_instance

instance keeps_unitsStep_eiret : Keeps UnitsStep (opExecEiret10 : Exec D Unit) := by
  have hcore : Keeps UnitsStep (modifyCpu restoreEi : Exec D Unit) :=
    keeps_unitsStep_modifyCpu sameUnits_restoreEi
  have hintc : Keeps UnitsStep (modifyIntc intcClrEi : Exec D Unit) :=
    keeps_unitsStep_modifyIntc sameUnits_intcClrEi
  infer_instance

instance keeps_unitsStep_reti : Keeps UnitsStep (opExecReti : Exec D Unit) := by
  infer_instance

theorem sameUnits_trapEntry (vector : Word) (cpu : TargetCore) :
    SameUnits cpu (trapEntry vector cpu) := by
  unfold trapEntry
  by_cases hvector : vector ≤ 0x1F#32
  · rw [if_pos hvector]
    extract_lets cpu₁ cpu₂ cpu₃ cpu₄
    have h₁ : SameUnits cpu cpu₁ := sameUnits_setSysreg2 (by decide) _ _
    have h₂ : SameUnits cpu₁ cpu₂ := sameUnits_setSysreg2 (by decide) _ _
    have h₃ : SameUnits cpu₂ cpu₃ := sameUnits_setSysreg2 (by decide) _ _
    have h₄ : SameUnits cpu₃ cpu₄ := (sameUnits_setPsw _ _).trans (sameUnits_setPsw _ _)
    exact (((h₁.trans h₂).trans h₃).trans h₄).trans (.of_eq rfl rfl rfl)
  · rw [if_neg hvector]
    exact SameUnits.refl cpu

theorem sameUnits_fetrapEntry (vector : Word) (cpu : TargetCore) :
    SameUnits cpu (fetrapEntry vector cpu) := by
  unfold fetrapEntry
  extract_lets psw fecc ecr cpu₁ cpu₂ cpu₃ cpu₄ cpu₅
  have h₁ : SameUnits cpu cpu₁ := sameUnits_setSysreg2 (by decide) _ _
  have h₂ : SameUnits cpu₁ cpu₂ := sameUnits_setSysreg2 (by decide) _ _
  have h₃ : SameUnits cpu₂ cpu₃ := sameUnits_setSysreg2 (by decide) _ _
  have h₄ : SameUnits cpu₃ cpu₄ := sameUnits_setSysreg2 (by decide) _ _
  have h₅ : SameUnits cpu₄ cpu₅ :=
    ((sameUnits_setPsw _ _).trans (sameUnits_setPsw _ _)).trans (sameUnits_setPsw _ _)
  exact ((((h₁.trans h₂).trans h₃).trans h₄).trans h₅).trans (.of_eq rfl rfl rfl)

theorem sameUnits_syscallEntry (vector8 : Word) (cpu : TargetCore) :
    SameUnits cpu (syscallEntry vector8 cpu) := by
  unfold syscallEntry
  extract_lets psw eiic ecr cpu₁ cpu₂ cpu₃ cpu₄
  have h₁ : SameUnits cpu cpu₁ := sameUnits_setSysreg2 (by decide) _ _
  have h₂ : SameUnits cpu₁ cpu₂ := sameUnits_setSysreg2 (by decide) _ _
  have h₃ : SameUnits cpu₂ cpu₃ := sameUnits_setSysreg2 (by decide) _ _
  have h₄ : SameUnits cpu₃ cpu₄ := sameUnits_setSysreg2 (by decide) _ _
  refine (((h₁.trans h₂).trans h₃).trans h₄).trans ?_
  exact ((sameUnits_clrPsw _ _).trans (sameUnits_setPsw _ _)).trans (sameUnits_setPsw _ _)

instance keeps_unitsStep_trap (d : OpCodeFormatType10) :
    Keeps UnitsStep (opExecTrap d : Exec D Unit) :=
  keeps_unitsStep_modifyCpu (sameUnits_trapEntry d.gen2)

instance keeps_unitsStep_fetrap (d : OpCodeFormatType1) :
    Keeps UnitsStep (opExecFetrap1 d : Exec D Unit) :=
  keeps_unitsStep_modifyCpu (sameUnits_fetrapEntry (d.reg2.setWidth 32))

instance keeps_unitsStep_syscall (bus : Bus D) (d : OpCodeFormatType10) :
    Keeps UnitsStep (opExecSyscall10 bus d) := by
  have hentry : Keeps UnitsStep (modifyCpu (syscallEntry (syscallVector d)) : Exec D Unit) :=
    keeps_unitsStep_modifyCpu (sameUnits_syscallEntry _)
  infer_instance

end Exec

/-- Every privileged instruction but `LDSR` keeps the registers of the units. -/
theorem keeps_sameUnits {p : Platform D} {codeId : OpCodeId}
    {executor : OpDecodedCode → Exec D Unit} (hpriv : privileged codeId = true)
    (hldsr : codeId ≠ .ldsr_9) (hexec : opExecTable p codeId = some executor)
    (d : OpDecodedCode) : Keeps UnitsStep (executor d) := by
  rcases privileged_cases hpriv with
    h | (h | h) | h | h | h | h | h | h | h
  · exact absurd h hldsr
  all_goals
    subst h
    cases hexec
    infer_instance

/-- Every instruction but `LDSR` keeps the MPU registers. -/
theorem keeps_sameMpu {p : Platform D} {codeId : OpCodeId}
    {executor : OpDecodedCode → Exec D Unit} (hldsr : codeId ≠ .ldsr_9)
    (hexec : opExecTable p codeId = some executor) (d : OpDecodedCode) :
    Keeps MpuStep (executor d) := by
  cases hpriv : privileged codeId with
  | false => exact (keeps_opExecTable hpriv hexec d).mono fun _ _ hstep => hstep.mpuStep
  | true =>
    exact (keeps_sameUnits hpriv hldsr hexec d).mono fun _ _ hstep => hstep.toSameMpu

/-! ## LDSR -/

/-- The copy stays up to date, and the core its number. -/
def SyncStep (s s' : CpuState D) : Prop :=
  (ConfigSynced s.cpu → ConfigSynced s'.cpu) ∧ s'.cpu.coreId = s.cpu.coreId

instance : Std.Refl (SyncStep (D := D)) where
  refl _ := ⟨id, rfl⟩

instance : IsTrans (CpuState D) SyncStep where
  trans _ _ _ h h' := ⟨h'.1 ∘ h.1, h'.2.trans h.2⟩

theorem MpuStep.syncStep {s s' : CpuState D} (h : MpuStep s s') : SyncStep s s' :=
  ⟨h.configSynced, h.coreId⟩

theorem coreId_mpuHookAccessWrite (data : Word) (regid selid : Nat) (cpu : TargetCore) :
    (mpuHookAccessWrite data regid selid cpu).coreId = cpu.coreId := by
  obtain ⟨sys, hsys⟩ := eq_of_mpuHookAccessWrite data regid selid cpu
  rw [hsys]

theorem sameMpu_modifySysreg {id : SysReg} (hid : id.selid < 5) (f : Word → Word)
    (cpu : TargetCore) : SameMpu cpu (modifySysreg id f cpu) :=
  sameMpu_setSysreg2 hid _ cpu

theorem sameMpu_fpuSyncSysreg (id : SysReg) (cpu : TargetCore) :
    SameMpu cpu (fpuSyncSysreg id cpu) := by
  -- every write is to a register of the first group
  have hpair (id id' : SysReg) (hid : id.selid < 5) (hid' : id'.selid < 5) (f g : Word → Word)
      (cpu : TargetCore) : SameMpu cpu (modifySysreg id' g (modifySysreg id f cpu)) :=
    (sameMpu_modifySysreg hid f cpu).trans (sameMpu_modifySysreg hid' g _)
  unfold fpuSyncSysreg
  dsimp only
  split_ifs
  · exact ((hpair _ _ (by decide) (by decide) _ _ _).trans
      (hpair _ _ (by decide) (by decide) _ _ _)).trans (hpair _ _ (by decide) (by decide) _ _ _)
  · exact hpair _ _ (by decide) (by decide) _ _ _
  · exact (hpair _ _ (by decide) (by decide) _ _ _).trans
      (hpair _ _ (by decide) (by decide) _ _ _)
  · exact SameMpu.refl cpu

/-- A register outside the MPU is written without a trace in it. -/
theorem sameMpu_ldsrWrite {id : SysReg} (hid : id.selid < 5) (data : Word) (cpu : TargetCore) :
    SameMpu cpu (ldsrWrite id data cpu) := by
  have hgroup : ¬ (id.selid = 5 ∨ id.selid = 6 ∨ id.selid = 7) := by
    have := id.selid.isLt
    omega
  have hmcc : id ≠ .mcc := by
    rintro rfl
    exact absurd hid (by decide)
  unfold ldsrWrite
  rw [if_neg hmcc, if_neg hgroup]
  split_ifs
  · exact sameMpu_setSysreg2 hid _ _
  · exact SameMpu.refl cpu
  · exact sameMpu_setSysreg2 hid _ _
  · exact sameMpu_setSysreg2 hid _ _
  · exact sameMpu_setSysreg2 hid _ _

/-- `LDSR` leaves an up-to-date copy up to date. -/
theorem ldsrWrite_synced (id : SysReg) (data : Word) (cpu : TargetCore) :
    (ConfigSynced cpu → ConfigSynced (ldsrWrite id data cpu)) ∧
      (ldsrWrite id data cpu).coreId = cpu.coreId := by
  by_cases hid : id.selid < 5
  · have h := sameMpu_ldsrWrite hid data cpu
    exact ⟨h.configSynced, h.coreId⟩
  · have hispr : id ≠ .ispr := by
      rintro rfl
      exact hid (by decide)
    have hpsw : id ≠ .psw := by
      rintro rfl
      exact hid (by decide)
    have hgroup : id.selid = 5 ∨ id.selid = 6 ∨ id.selid = 7 := by
      have := id.selid.isLt
      omega
    unfold ldsrWrite
    rw [if_neg hispr, if_neg hpsw]
    split_ifs
    · have h : SameMpu cpu (mpuCheck cpu) := sameMpu_setSysreg2 (by decide) _ _
      exact ⟨h.configSynced, h.coreId⟩
    · exact ⟨fun _ => configSynced_mpuSetConfig _, coreId_mpuHookAccessWrite _ _ _ _⟩

namespace Exec

instance (priority := low) keeps_syncStep_of_ordinary {α : Type} (x : Exec D α)
    [h : Keeps OrdinaryStep x] : Keeps SyncStep x :=
  h.mono fun _ _ hstep => hstep.mpuStep.syncStep

set_option synthInstance.maxSize 1000 in
instance keeps_syncStep_ldsr (d : OpCodeFormatType9) :
    Keeps SyncStep (opExecLdsr d : Exec D Unit) := by
  have hwrite (id : SysReg) (data : Word) : Keeps SyncStep
      (modifyCpu fun cpu => fpuSyncSysreg id (ldsrWrite id data cpu) : Exec D Unit) := by
    refine keeps_modify fun s => ?_
    obtain ⟨hsync, hcore⟩ := ldsrWrite_synced id data s.cpu
    have hfpu := sameMpu_fpuSyncSysreg id (ldsrWrite id data s.cpu)
    exact ⟨fun h => hfpu.configSynced (hsync h), hfpu.coreId.trans hcore⟩
  infer_instance

end Exec

/-- Every instruction keeps the copy up to date. -/
theorem keeps_syncStep {p : Platform D} {codeId : OpCodeId}
    {executor : OpDecodedCode → Exec D Unit} (hexec : opExecTable p codeId = some executor)
    (d : OpDecodedCode) : Keeps SyncStep (executor d) := by
  by_cases hldsr : codeId = .ldsr_9
  · subst hldsr
    cases hexec
    exact Exec.keeps_syncStep_ldsr d.type9
  · exact (keeps_sameMpu hldsr hexec d).mono fun _ _ hstep => hstep.syncStep

end Athrill
