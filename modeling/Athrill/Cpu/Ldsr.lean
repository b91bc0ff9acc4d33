import Athrill.Cpu.Privilege

/-!
# LDSR as a step

What a clock that executes `LDSR` does, in terms of the register it writes.

* `ldsrTarget`: the register, when the write is made at all.
* `ldsrOf`: the same for the call of a clock, with the data.
* `result_ldsr`, `result_ldsr_none`: the state after the instruction.
-/

namespace Athrill

open TargetCore

variable {D : Type}

/-- The register that `LDSR` writes; there is none without permission, and none
for a selector past the groups. -/
def ldsrTarget (call : Call D) : Option SysReg :=
  let selid := call.decodedCode.type9.rfu2.toNat
  let regid := call.decodedCode.type9.reg2.toNat
  if sysRegAccessHasPermission call.state.cpu regid selid = true then
    if h : selid < 8 ∧ regid < 32 then some ⟨⟨selid, h.1⟩, ⟨regid, h.2⟩⟩ else none
  else none

theorem ldsrTarget_eq_some {call : Call D} {id : SysReg} (h : ldsrTarget call = some id) :
    call.decodedCode.type9.reg2.toNat = id.regid.val ∧
      call.decodedCode.type9.rfu2.toNat = id.selid.val ∧
      sysRegAccessHasPermission call.state.cpu id.regid.val id.selid.val = true := by
  unfold ldsrTarget at h
  dsimp only at h
  split_ifs at h with hgranted hbound
  cases h
  exact ⟨rfl, rfl, hgranted⟩

/-- The register that a clock writes by `LDSR`, and the data. -/
def ldsrOf (call : Option (Call D)) : Option (SysReg × Word) :=
  call.bind fun call =>
    if call.codeId = .ldsr_9 then (ldsrTarget call).map fun id => (id, ldsrData call) else none

/-- The core after `LDSR` to a register. -/
def ldsrCore (id : SysReg) (data : Word) (cpu : TargetCore) : TargetCore :=
  let cpu := fpuSyncSysreg id (ldsrWrite id data cpu)
  { cpu with pc := cpu.pc + 4 }

section Result

variable {call : Call D} (hexec : call.executor = fun d => Exec.opExecLdsr d.type9)
  (hrecord : RecordFormed call.decodedCode)

include hexec hrecord

theorem result_ldsr {id : SysReg} (htarget : ldsrTarget call = some id) :
    call.result.2 =
      { call.state with cpu := ldsrCore id (ldsrData call) call.state.cpu } := by
  obtain ⟨hreg, hsel, hgranted⟩ := ldsrTarget_eq_some htarget
  have hrun := Exec.run_opExecLdsr call.state id hrecord.gen9 hreg hsel hgranted
  have hdata : ldsrData call = call.state.cpu.r ⟨_, hrecord.gen9⟩ := dif_pos hrecord.gen9
  unfold Call.result
  rw [hexec, hdata]
  exact congrArg Prod.snd hrun

/-- An `LDSR` that writes nothing at most flags the exception. -/
theorem result_ldsr_none (htarget : ldsrTarget call = none) :
    call.result.2 = flagPie call.state ∨ call.result.2 = call.state := by
  unfold Call.result
  rw [hexec]
  unfold ldsrTarget at htarget
  dsimp only at htarget
  split_ifs at htarget with hgranted hbound
  · refine Or.inr ?_
    have hsel : ¬ (call.decodedCode.type9.rfu2.toNat < 8 ∧
        call.decodedCode.type9.reg2.toNat < 32) := hbound
    show ((Exec.opExecLdsr call.decodedCode.type9).run call.state).2 = call.state
    unfold Exec.opExecLdsr
    rw [Routine.run_bind, Exec.run_checkReg hrecord.gen9, Routine.andThen_ok, Routine.run_bind,
      Exec.run_checkReg hrecord.reg9, Routine.andThen_ok, Routine.run_bind,
      Exec.run_getGranted call.state hgranted, Routine.andThen_ok, if_neg (by simp),
      Routine.run_bind]
    unfold Exec.getSysregId
    rw [dif_neg hsel]
    rfl
  · refine Or.inl ?_
    have hdenied := Bool.not_eq_true _ ▸ hgranted
    have hrun := Exec.run_opExecLdsr_denied call.state hrecord.gen9 hrecord.reg9 hdenied
    exact congrArg Prod.snd hrun

end Result

/-- What follows the write does not touch the MPU. -/
theorem sameMpu_ldsrCore (id : SysReg) (data : Word) (cpu : TargetCore) :
    SameMpu (ldsrWrite id data cpu) (ldsrCore id data cpu) :=
  (sameMpu_fpuSyncSysreg id _).trans (.of_eq rfl rfl rfl)

end Athrill
