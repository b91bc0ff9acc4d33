import Athrill.Mpu.Config

/-!
# Hooks of the MPU registers

`target_mpu_hook_access` and `target_mpu_check`.  The enable bit of a region is
kept twice, in bit 7 of `MPAT` and in a bit of `MPRC`; the write hooks are
there to copy it from one register to the other.

* `mpuHookAccessWriteMprc`, `mpuHookAccessWriteMpta`: the two directions.
* `targetMpuHookAccess`: the hook, which takes the register number and then the
  selector.
* `mpuCheck`: the memory check command.
-/

namespace Athrill

open TargetCore Bits

/-! ## Writes -/

/-- `mpu_hook_access_write_mprc`: the enable bit of every region. -/
def mpuHookAccessWriteMprc (data : Word) (cpu : TargetCore) : TargetCore :=
  (List.finRange 16).foldl (fun cpu index =>
    cpu.setSysreg2 (mpat index)
      (putBit (cpu.getSysreg2 (mpat index)) mpatE (data.getLsbD index.val))) cpu

/-- `mpu_hook_access_write_mpta_get_config_index`. -/
def mpuHookAccessWriteMptaGetConfigIndex (regid selid : Nat) : Nat :=
  (if selid = 6 then 0 else 8) + regid / 4

/-- `mpu_hook_access_write_mpta`: one bit of `MPRC`. -/
def mpuHookAccessWriteMpta (data : Word) (regid selid : Nat) (cpu : TargetCore) : TargetCore :=
  cpu.setSysreg2 .mprc (putBit (cpu.getSysreg2 .mprc)
    (mpuHookAccessWriteMptaGetConfigIndex regid selid) (data.getLsbD mpatE))

/-- `mpu_hook_access_write`; the data is not changed. -/
def mpuHookAccessWrite (data : Word) (regid selid : Nat) (cpu : TargetCore) : TargetCore :=
  if selid = 5 ∧ regid = 1 then mpuHookAccessWriteMprc data cpu
  else if (selid = 6 ∨ selid = 7) ∧ regid % 4 = 2 then
    mpuHookAccessWriteMpta data regid selid cpu
  else cpu

/-! ## Reads -/

/-- `mpu_hook_access_read`: the data that is read. -/
def mpuHookAccessRead (data : Word) (regid selid : Nat) : Word :=
  if selid = 5 ∧ regid = 4 then 0
  else if selid = 5 ∧ regid = 5 then 16
  else if (selid = 6 ∨ selid = 7) ∧ (regid % 4 = 0 ∨ regid % 4 = 1) then
    data &&& 0xFFFFFFFC#32
  else if selid = 5 ∧ regid = 10 then 0
  else data

/-- `target_mpu_hook_access`: the data and the core after it. -/
def targetMpuHookAccess (data : Word) (accessType : TargetMpuAccess) (regid selid : Nat)
    (cpu : TargetCore) : Word × TargetCore :=
  if accessType = .read then (mpuHookAccessRead data regid selid, cpu)
  else (data, mpuHookAccessWrite data regid selid cpu)

/-! ## The memory check -/

/-- The condition of the loop of `mpu_check`; the negation binds tighter than
the conjunction. -/
def mpuCheckSkips (region : TargetMpuConfig) (addrStart addrEnd : Word) : Bool :=
  !decide (region.addrStart ≤ addrStart) && decide (addrEnd ≤ region.addrEnd)

/-- The permissions collected by the loop of `mpu_check`. -/
def mpuCheckPermission (cpu : TargetCore) (addrStart addrEnd : Word)
    (access : TargetMpuConfig → TargetMpuEnableAccess) : TargetMpuEnableAccess :=
  let regions := ((List.finRange 16).map cpu.mpu.permissionRegion).filter fun region =>
    !mpuCheckSkips region addrStart addrEnd
  { read := regions.any fun region => (access region).read
    write := regions.any fun region => (access region).write
    exec := regions.any fun region => (access region).exec }

/-- `TARGET_MPU_CHECK_SET` followed by a shift: the shift applies to the second
alternative of the macro alone. -/
def targetMpuCheckSet (permission : Bool) (off : Nat) : Word :=
  if permission then 1 else 0 <<< off

/-- `mpu_check`; the operands and the result are looked up in `SYS_GRP_2`. -/
def mpuCheck (cpu : TargetCore) : TargetCore :=
  let addrStart := cpu.getSysreg2 ⟨2, 8⟩
  let addrEnd := addrStart + cpu.getSysreg2 ⟨2, 9⟩
  let ovFlag := decide (addrEnd < addrStart) ||
    (decide (addrStart ≤ 0x7FFFFFFF#32) && decide (0x7FFFFFFF#32 < addrEnd))
  let sv := mpuCheckPermission cpu addrStart addrEnd TargetMpuConfig.isEnableAccessSv
  let um := mpuCheckPermission cpu addrStart addrEnd TargetMpuConfig.isEnableAccessUm
  cpu.setSysreg2 ⟨2, 11⟩
    (targetMpuCheckSet ovFlag 8 ||| targetMpuCheckSet sv.exec 5 ||| targetMpuCheckSet sv.read 3 |||
      targetMpuCheckSet sv.write 4 ||| targetMpuCheckSet um.exec 2 ||| targetMpuCheckSet um.read 0 |||
      targetMpuCheckSet um.write 1)

/-! ## What the hooks keep -/

/-- A hook writes system registers and nothing else. -/
theorem eq_of_mpuHookAccessWrite (data : Word) (regid selid : Nat) (cpu : TargetCore) :
    ∃ sys, mpuHookAccessWrite data regid selid cpu = { cpu with sys := sys } := by
  have hfold : ∀ (l : List (Fin 16)) (cpu' : TargetCore),
      (∃ sys, cpu' = { cpu with sys := sys }) →
      ∃ sys, l.foldl (fun cpu index => cpu.setSysreg2 (mpat index)
        (putBit (cpu.getSysreg2 (mpat index)) mpatE (data.getLsbD index.val))) cpu' =
          { cpu with sys := sys } := by
    intro l
    induction l with
    | nil => exact fun _ h => h
    | cons index l ih =>
      intro cpu' h
      obtain ⟨sys, hsys⟩ := h
      apply ih
      rw [hsys]
      exact ⟨_, rfl⟩
  unfold mpuHookAccessWrite
  split_ifs
  · exact hfold _ cpu ⟨_, rfl⟩
  · exact ⟨_, rfl⟩
  · exact ⟨_, rfl⟩

end Athrill
