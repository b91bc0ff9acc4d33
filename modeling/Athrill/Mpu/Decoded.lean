import Athrill.Cpu.Run

/-!
# The decoded MPU state

The permission checks read a decoded copy of the MPU registers.  In every
reachable state of the machine the copy is the decoding of the registers as
they are, for each region from the region's own three registers.

* `MpuDecoded`: the copy, field by field, in terms of the registers.
* `mpuDecoded_iff_configSynced`: it is the state that `mpu_set_config` leaves.
* `mpuDecoded_of_reachable`: every run.
-/

namespace Athrill

open TargetCore

variable {D : Type}

/-- The access bits of one mode: read, write and execute. -/
structure AccessDecoded (access : TargetMpuEnableAccess) (attributes : Word)
    (read write exec : Nat) : Prop where
  read : access.read = attributes.getLsbD read
  write : access.write = attributes.getLsbD write
  exec : access.exec = attributes.getLsbD exec

/-- Region `n`, decoded from `MPLAn`, `MPUAn` and `MPATn`. -/
structure RegionDecoded (cpu : TargetCore) (n : Fin 16) : Prop where
  addrStart : (cpu.mpu.permissionRegion n).addrStart = cpu.getSysreg2 (mpla n) &&& 0xFFFFFFFC#32
  addrEnd : (cpu.mpu.permissionRegion n).addrEnd = cpu.getSysreg2 (mpua n) ||| 0x3#32
  isEnable : (cpu.mpu.permissionRegion n).isEnable = (cpu.getSysreg2 (mpat n)).getLsbD 7
  isEnableApplyConfig :
    (cpu.mpu.permissionRegion n).isEnableApplyConfig = (cpu.getSysreg2 (mpat n)).getLsbD 6
  asid : (cpu.mpu.permissionRegion n).asid =
    ((cpu.getSysreg2 (mpat n)).extractLsb' 16 10).setWidth 16
  supervisor : AccessDecoded (cpu.mpu.permissionRegion n).isEnableAccessSv
    (cpu.getSysreg2 (mpat n)) 3 4 5
  user : AccessDecoded (cpu.mpu.permissionRegion n).isEnableAccessUm
    (cpu.getSysreg2 (mpat n)) 0 1 2

/-- The copy is the decoding of the registers; no access outside the regions is
ever enabled. -/
structure MpuDecoded (cpu : TargetCore) : Prop where
  isEnableMpu : cpu.mpu.isEnableMpu = (cpu.getSysreg2 .mpm).getLsbD 0
  isEnableSv : cpu.mpu.isEnableSv = (cpu.getSysreg2 .mpm).getLsbD 1
  outside : cpu.mpu.isEnableOutsideProtectionRegion = ⟨false, false, false⟩
  region : ∀ n, RegionDecoded cpu n

/-- The address space identifier of `MPAT`. -/
theorem mpatGetAsid_eq (data : Word) : mpatGetAsid data = (data.extractLsb' 16 10).setWidth 16 := by
  have hmask : ∀ i : Fin 16, (0x03FF0000#32).getLsbD (16 + i.val) = decide (i.val < 10) := by
    decide
  apply BitVec.eq_of_getLsbD_eq
  intro i hi
  unfold mpatGetAsid
  rw [BitVec.truncate, BitVec.getLsbD_setWidth, BitVec.getLsbD_ushiftRight, BitVec.getLsbD_and,
    BitVec.getLsbD_setWidth, BitVec.getLsbD_extractLsb', hmask ⟨i, hi⟩]
  rw [Bool.and_comm (data.getLsbD (16 + i))]

/-- The copy that `mpu_set_config` makes. -/
theorem mpuDecoded_iff_configSynced (cpu : TargetCore) : MpuDecoded cpu ↔ ConfigSynced cpu := by
  constructor
  · intro h
    have hregion : mpuConfigObj cpu = cpu.mpu.permissionRegion := by
      funext n
      obtain ⟨hstart, hend, hen, hg, hasid, ⟨hsr, hsw, hsx⟩, ⟨hur, huw, hux⟩⟩ := h.region n
      generalize cpu.mpu.permissionRegion n = region at *
      obtain ⟨addrStart, addrEnd, isEnable, ⟨sr, sw, sx⟩, ⟨ur, uw, ux⟩, g, asid⟩ := region
      dsimp only at *
      subst hstart hend hen hg hasid hsr hsw hsx hur huw hux
      unfold mpuConfigObj
      dsimp only
      rw [mpatGetAsid_eq]
      rfl
    have houtside := h.outside
    show { cpu with mpu := { cpu.mpu with
      isEnableMpu := (cpu.getSysreg2 .mpm).getLsbD 0
      isEnableSv := (cpu.getSysreg2 .mpm).getLsbD 1
      isEnableOutsideProtectionRegion := ⟨false, false, false⟩
      permissionRegion := mpuConfigObj cpu } } = cpu
    rw [hregion, ← h.isEnableMpu, ← h.isEnableSv, ← houtside]
  · intro h
    have hmpu : cpu.mpu = (mpuSetConfig cpu).mpu := (congrArg TargetCore.mpu h).symm
    have hregion (n : Fin 16) : cpu.mpu.permissionRegion n = mpuConfigObj cpu n := by
      rw [hmpu]
      rfl
    refine ⟨by rw [hmpu]; rfl, by rw [hmpu]; rfl, by rw [hmpu]; rfl, fun n => ?_⟩
    have hasid : (mpuConfigObj cpu n).asid =
        ((cpu.getSysreg2 (mpat n)).extractLsb' 16 10).setWidth 16 := mpatGetAsid_eq _
    refine ⟨?_, ?_, ?_, ?_, ?_, ⟨?_, ?_, ?_⟩, ⟨?_, ?_, ?_⟩⟩
    all_goals
      rw [hregion n]
      first | exact hasid | rfl

/-- In every reachable state, the copy of each core is the decoding of its
registers. -/
theorem mpuDecoded_of_reachable {p : Platform D} {m : Machine D}
    (h : (machine p).Reachable m) (c : CoreId) : MpuDecoded (m.cores c) :=
  (mpuDecoded_iff_configSynced _).mpr ((wellFormed_of_reachable h).synced c)

/-- A program that sets up region 9 and turns protection on. -/
def protectProgram : List HalfWord :=
  -- MOVEA 0xC5, r0, r1; LDSR r1, MPAT9; LDSR r1, MPUA9; LDSR r1, MPM
  [0x0E20, 0x00C5, 0x37E1, 0x3820, 0x2FE1, 0x3820, 0x07E1, 0x2820]

/-- The decoding after four instructions. -/
theorem mpuDecoded_of_reachable_protect :
    (((Machine.reset ()).clocks (romPlatform protectProgram) 0 (fun _ => false) 4).cores
        0).mpu.isEnableMpu = true ∧
      (((Machine.reset ()).clocks (romPlatform protectProgram) 0 (fun _ => false) 4).cores
        0).getSysreg2 (mpat 9) = 0xC5#32 ∧
      MpuDecoded
        (((Machine.reset ()).clocks (romPlatform protectProgram) 0 (fun _ => false) 4).cores 0) :=
  ⟨by decide +kernel, by decide +kernel,
    mpuDecoded_of_reachable (p := romPlatform protectProgram)
      (reachable_clocks (reachable_reset _ ()) (by decide +kernel)) 0⟩

end Athrill
