import Athrill.Mpu.Config

/-!
# The permission check

`target_mpu_has_permission` and the functions it calls.  A check collects the
regions that are enabled, apply to the access and permit its type in the
current mode.  A data access must lie in one of these regions, an instruction
access must have each of its bytes in one of them.

The addresses are `uint32`, and so are `addr + size` and `addr + size - 1`:
the sums wrap.

* `mpuHasPermissionAccessRegionMdp`, `mpuHasPermissionAccessRegionMip`: the
  two region checks.
* `targetMpuHasPermission`: the check with its effect on the error
  information.
* `cpuHasPermission`: the entry point of the external bus.
-/

namespace Athrill

open TargetCore

/-! ## Which regions count -/

/-- `mpu_is_enable_protection_region`. -/
def mpuIsEnableProtectionRegion (region : TargetMpuConfig) : Bool :=
  region.isEnable && !decide (region.addrEnd < region.addrStart)

/-- `mpu_is_apply_protection_region`. -/
def mpuIsApplyProtectionRegion (cpu : TargetCore) (region : TargetMpuConfig) : Bool :=
  region.isEnableApplyConfig &&
    decide (region.asid.setWidth 32 = cpu.getSysreg2 .asid)

/-- The `switch` of `mpu_has_permission_access_type`. -/
def TargetMpuEnableAccess.permits (access : TargetMpuEnableAccess) :
    TargetMpuAccess → Bool
  | .read => access.read
  | .write => access.write
  | .exec => access.exec
  | .none => false

/-- `mpu_has_permission_access_type`. -/
def mpuHasPermissionAccessType (cpu : TargetCore) (accessType : TargetMpuAccess)
    (region : TargetMpuConfig) : Bool :=
  (if cpu.issetUM then region.isEnableAccessUm else region.isEnableAccessSv).permits accessType

/-- The regions that the loop of `target_mpu_has_permission` collects. -/
def enableRegionConfig (cpu : TargetCore) (accessType : TargetMpuAccess) :
    List TargetMpuConfig :=
  ((List.finRange 16).map cpu.mpu.permissionRegion).filter fun region =>
    mpuIsEnableProtectionRegion region && mpuIsApplyProtectionRegion cpu region &&
      mpuHasPermissionAccessType cpu accessType region

/-! ## Region checks -/

/-- `mpu_has_permission_access_region_mdp`: one region holds the first and the
last byte. -/
def mpuHasPermissionAccessRegionMdp (addr size : Word) (regions : List TargetMpuConfig) : Bool :=
  regions.any fun region =>
    decide (region.addrStart ≤ addr) && decide (addr + size - 1 ≤ region.addrEnd)

/-- The inner loop of `mpu_has_permission_access_region_mip`. -/
def mipCheckAddr (checkAddr : Word) (regions : List TargetMpuConfig) : Bool :=
  regions.any fun region =>
    decide (region.addrStart ≤ checkAddr) && decide (checkAddr ≤ region.addrEnd)

/-- The outer loop of `mpu_has_permission_access_region_mip` with `n` passes
to go. -/
def mipLoop : Nat → Word → List TargetMpuConfig → Bool
  | 0, _, _ => true
  | n + 1, checkAddr, regions =>
    mipCheckAddr checkAddr regions && mipLoop n (checkAddr + 1) regions

/-- `mpu_has_permission_access_region_mip`: the loop runs while
`check_addr < addr + size`, which is no pass at all when the sum wraps. -/
def mpuHasPermissionAccessRegionMip (addr size : Word) (regions : List TargetMpuConfig) : Bool :=
  mipLoop ((addr + size).toNat - addr.toNat) addr regions

/-- `mpu_has_permission_access_region`. -/
def mpuHasPermissionAccessRegion (accessType : TargetMpuAccess) (addr size : Word)
    (regions : List TargetMpuConfig) : Bool :=
  if accessType = .exec then mpuHasPermissionAccessRegionMip addr size regions
  else mpuHasPermissionAccessRegionMdp addr size regions

/-! ## The check -/

/-- `target_mpu_has_permission_set_error`. -/
def targetMpuHasPermissionSetError (cpu : TargetCore) (accessType : TargetMpuAccess)
    (addr : Word) (info : TargetMpuErrorInfo) : TargetMpuErrorInfo :=
  { info with
    errorAddr := addr
    intcErrorInfo :=
      { info.intcErrorInfo with
        accessType := accessType
        exceptionErrorCode := if accessType = .exec then .mip else .mdp
        isSvMode := !cpu.issetUM } }

/-- The error flag of the check is written, the rest of the core is kept. -/
def setErrorInfo (cpu : TargetCore) (info : TargetMpuErrorInfo) : TargetCore :=
  { cpu with mpu := { cpu.mpu with exceptionErrorInfo := info } }

/-- `target_mpu_has_permission`. -/
def targetMpuHasPermission (cpu : TargetCore) (accessType : TargetMpuAccess)
    (addr size : Word) : Bool × TargetCore :=
  let info := cpu.mpu.exceptionErrorInfo
  if cpu.mpu.isEnableMpu = false then (true, cpu)
  else if cpu.issetUM = false ∧ cpu.mpu.isEnableSv = false then (true, cpu)
  else if mpuHasPermissionAccessRegion accessType addr size
      (enableRegionConfig cpu accessType) then
    (true, setErrorInfo cpu { info with isErrorOccurred := false })
  else
    (false, setErrorInfo cpu
      (targetMpuHasPermissionSetError cpu accessType addr { info with isErrorOccurred := true }))

/-- The check protects the current mode. -/
def mpuApplied (cpu : TargetCore) : Bool :=
  cpu.mpu.isEnableMpu && (cpu.issetUM || cpu.mpu.isEnableSv)

/-- Without protection the check grants the access and changes nothing. -/
theorem targetMpuHasPermission_of_not_applied {cpu : TargetCore} (h : mpuApplied cpu = false)
    (accessType : TargetMpuAccess) (addr size : Word) :
    targetMpuHasPermission cpu accessType addr size = (true, cpu) := by
  unfold targetMpuHasPermission
  unfold mpuApplied at h
  cases hm : cpu.mpu.isEnableMpu with
  | false => simp
  | true =>
    rw [hm, Bool.true_and, Bool.or_eq_false_iff] at h
    simp [h.1, h.2]

/-- With protection the region check decides. -/
theorem targetMpuHasPermission_fst_of_applied {cpu : TargetCore} (h : mpuApplied cpu = true)
    (accessType : TargetMpuAccess) (addr size : Word) :
    (targetMpuHasPermission cpu accessType addr size).1 =
      mpuHasPermissionAccessRegion accessType addr size (enableRegionConfig cpu accessType) := by
  unfold mpuApplied at h
  rw [Bool.and_eq_true, Bool.or_eq_true] at h
  unfold targetMpuHasPermission
  rw [if_neg (by simp [h.1]), if_neg (by rintro ⟨hu, hs⟩; simp [hu, hs] at h)]
  split_ifs with hreg
  · exact hreg.symm
  · exact (Bool.eq_false_iff.mpr hreg).symm

/-- The check writes nothing but the error information. -/
theorem targetMpuHasPermission_snd (cpu : TargetCore) (accessType : TargetMpuAccess)
    (addr size : Word) :
    ∃ info, (targetMpuHasPermission cpu accessType addr size).2 = setErrorInfo cpu info := by
  unfold targetMpuHasPermission
  split_ifs
  · exact ⟨cpu.mpu.exceptionErrorInfo, rfl⟩
  · exact ⟨cpu.mpu.exceptionErrorInfo, rfl⟩
  · exact ⟨_, rfl⟩
  · exact ⟨_, rfl⟩

/-- Two cores look alike to the check. -/
structure SameProtection (cpu cpu' : TargetCore) : Prop where
  sys : cpu'.sys = cpu.sys
  mpu : ∃ info, cpu'.mpu = { cpu.mpu with exceptionErrorInfo := info }

namespace SameProtection

variable {cpu cpu' cpu'' : TargetCore}

theorem refl (cpu : TargetCore) : SameProtection cpu cpu :=
  ⟨rfl, ⟨_, rfl⟩⟩

theorem trans (h : SameProtection cpu cpu') (h' : SameProtection cpu' cpu'') :
    SameProtection cpu cpu'' := by
  obtain ⟨info, hmpu⟩ := h.mpu
  obtain ⟨info', hmpu'⟩ := h'.mpu
  refine ⟨h'.sys.trans h.sys, ⟨info', ?_⟩⟩
  rw [hmpu', hmpu]

theorem granted (h : SameProtection cpu cpu') (accessType : TargetMpuAccess) (addr size : Word) :
    (targetMpuHasPermission cpu' accessType addr size).1 =
      (targetMpuHasPermission cpu accessType addr size).1 := by
  obtain ⟨info, hmpu⟩ := h.mpu
  have happlied : mpuApplied cpu' = mpuApplied cpu := by
    unfold mpuApplied issetUM issetPsw psw getSysreg2
    rw [h.sys, hmpu]
  cases hcpu : mpuApplied cpu with
  | false =>
    rw [targetMpuHasPermission_of_not_applied hcpu,
      targetMpuHasPermission_of_not_applied (happlied.trans hcpu)]
  | true =>
    have hregions : enableRegionConfig cpu' accessType = enableRegionConfig cpu accessType := by
      unfold enableRegionConfig mpuIsApplyProtectionRegion mpuHasPermissionAccessType issetUM
        issetPsw psw getSysreg2
      rw [h.sys, hmpu]
    rw [targetMpuHasPermission_fst_of_applied hcpu,
      targetMpuHasPermission_fst_of_applied (happlied.trans hcpu), hregions]

end SameProtection

/-- A data access to the front of a range that one access may reach. -/
theorem granted_front {cpu : TargetCore} {accessType : TargetMpuAccess} {addr size size' : Word}
    (hdata : accessType ≠ .exec) (hlast : addr + size' - 1 ≤ addr + size - 1)
    (h : (targetMpuHasPermission cpu accessType addr size).1 = true) :
    (targetMpuHasPermission cpu accessType addr size').1 = true := by
  cases hcpu : mpuApplied cpu with
  | false => rw [targetMpuHasPermission_of_not_applied hcpu]
  | true =>
    rw [targetMpuHasPermission_fst_of_applied hcpu] at h ⊢
    unfold mpuHasPermissionAccessRegion mpuHasPermissionAccessRegionMdp at h ⊢
    rw [if_neg hdata, List.any_eq_true] at h ⊢
    obtain ⟨region, hmem, hregion⟩ := h
    rw [Bool.and_eq_true, decide_eq_true_eq, decide_eq_true_eq] at hregion
    refine ⟨region, hmem, ?_⟩
    rw [Bool.and_eq_true, decide_eq_true_eq, decide_eq_true_eq]
    exact ⟨hregion.1, BitVec.le_trans hlast hregion.2⟩

/-- `CpuMemoryAccessType`. -/
inductive CpuMemoryAccess where
  | none | read | write | exec
  deriving DecidableEq, Repr

/-- The `switch` of `cpu_has_permission`. -/
def CpuMemoryAccess.toMpu : CpuMemoryAccess → TargetMpuAccess
  | .read => .read
  | .write => .write
  | .exec => .exec
  | .none => .none

/-- `cpu_has_permission`. -/
def cpuHasPermission (cpu : TargetCore) (accessType : CpuMemoryAccess) (addr size : Word) :
    Bool × TargetCore :=
  targetMpuHasPermission cpu accessType.toMpu addr size

end Athrill
