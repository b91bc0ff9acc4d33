import Athrill.Cpu.Reset
import Athrill.Mpu.Permission

/-!
# What the permission check grants

The protection regions as sets of byte addresses, addresses being integers,
and the access rule they stand for: a data access lies in one applicable
region, each byte of an instruction access in some applicable region.

The check computes with `uint32` sums, so it follows the rule as long as the
access does not run past the end of the address space:

* `mdp_iff`, `mip_iff`: what the two region checks compute, in integers.
* `checkExact_iff`: the check is exact, if and only if `CheckExactWhen`.
-/

namespace Athrill

open TargetCore

/-! ## The rule -/

/-- `MPM.MPE` is set, and the mode is user mode or `MPM.SVP` is set. -/
def ProtectionApplied (cpu : TargetCore) : Prop :=
  (cpu.getSysreg2 .mpm).getLsbD mpmMPE = true ∧
    (cpu.issetUM = true ∨ (cpu.getSysreg2 .mpm).getLsbD mpmSVP = true)

/-- The first byte of region `index`. -/
def regionLower (cpu : TargetCore) (index : Fin 16) : Nat :=
  (addrStartMask (cpu.getSysreg2 (mpla index))).toNat

/-- The last byte of region `index`. -/
def regionUpper (cpu : TargetCore) (index : Fin 16) : Nat :=
  (addrEndMask (cpu.getSysreg2 (mpua index))).toNat

/-- The attribute bits of a region permit the access type in the current mode. -/
def AttributePermits (cpu : TargetCore) (accessType : TargetMpuAccess) (attr : Word) : Prop :=
  match accessType with
  | .read => attr.getLsbD (if cpu.issetUM then mpatUR else mpatSR) = true
  | .write => attr.getLsbD (if cpu.issetUM then mpatUW else mpatSW) = true
  | .exec => attr.getLsbD (if cpu.issetUM then mpatUX else mpatSX) = true
  | .none => False

/-- Region `index` applies to an access of this type. -/
structure Applicable (cpu : TargetCore) (accessType : TargetMpuAccess) (index : Fin 16) :
    Prop where
  enabled : (cpu.getSysreg2 (mpat index)).getLsbD mpatE = true
  ordered : regionLower cpu index ≤ regionUpper cpu index
  applied : (cpu.getSysreg2 (mpat index)).getLsbD mpatG = true
  asid : (mpatGetAsid (cpu.getSysreg2 (mpat index))).setWidth 32 = cpu.getSysreg2 .asid
  permits : AttributePermits cpu accessType (cpu.getSysreg2 (mpat index))

/-- Region `index` contains the byte at address `byte`. -/
def InRegion (cpu : TargetCore) (index : Fin 16) (byte : Nat) : Prop :=
  regionLower cpu index ≤ byte ∧ byte ≤ regionUpper cpu index

/-- Every byte of the access lies in some applicable region. -/
def EveryByteCovered (cpu : TargetCore) (accessType : TargetMpuAccess) (addr size : Word) :
    Prop :=
  ∀ k < size.toNat, ∃ index, Applicable cpu accessType index ∧ InRegion cpu index (addr.toNat + k)

/-- One applicable region contains every byte of the access. -/
def OneRegionCovers (cpu : TargetCore) (accessType : TargetMpuAccess) (addr size : Word) :
    Prop :=
  ∃ index, Applicable cpu accessType index ∧
    ∀ k < size.toNat, InRegion cpu index (addr.toNat + k)

/-- The rule for one access. -/
def AccessAllowed (cpu : TargetCore) (accessType : TargetMpuAccess) (addr size : Word) : Prop :=
  ¬ ProtectionApplied cpu ∨
    if accessType = .exec then EveryByteCovered cpu accessType addr size
    else OneRegionCovers cpu accessType addr size

/-- The check on the decoded copy of the registers of `cpu`. -/
def checkGrants (cpu : TargetCore) (accessType : TargetMpuAccess) (addr size : Word) : Bool :=
  (targetMpuHasPermission (mpuSetConfig cpu) accessType addr size).1

/-- The check grants exactly what the rule allows; in particular it grants no
access with a byte outside every applicable region. -/
def CheckExact (cpu : TargetCore) (accessType : TargetMpuAccess) (addr size : Word) : Prop :=
  (checkGrants cpu accessType addr size = true ↔ AccessAllowed cpu accessType addr size) ∧
    (ProtectionApplied cpu → checkGrants cpu accessType addr size = true →
      EveryByteCovered cpu accessType addr size)

/-- The inputs on which the `uint32` sums do no harm.  A data access may wrap
as long as no applicable region starts at or below its address and ends at or
above its wrapped end.  An instruction access must end below `2 ^ 32`, or end
there with all its bytes covered. -/
def CheckExactWhen (cpu : TargetCore) (accessType : TargetMpuAccess) (addr size : Word) : Prop :=
  ¬ ProtectionApplied cpu ∨
    if accessType = .exec then
      addr.toNat + size.toNat < 2 ^ 32 ∨
        addr.toNat + size.toNat = 2 ^ 32 ∧ EveryByteCovered cpu accessType addr size
    else
      addr.toNat + size.toNat ≤ 2 ^ 32 ∨
        ∀ index, Applicable cpu accessType index →
          ¬ (regionLower cpu index ≤ addr.toNat ∧
            addr.toNat + size.toNat - 1 - 2 ^ 32 ≤ regionUpper cpu index)

/-! ## The regions that the loop collects -/

theorem mpuApplied_iff (cpu : TargetCore) :
    mpuApplied (mpuSetConfig cpu) = true ↔ ProtectionApplied cpu := by
  unfold mpuApplied ProtectionApplied
  rw [Bool.and_eq_true, Bool.or_eq_true]
  exact Iff.rfl

/-- A collected region is the decoded copy of an applicable one. -/
theorem mem_enableRegionConfig {cpu : TargetCore} {accessType : TargetMpuAccess}
    {region : TargetMpuConfig} :
    region ∈ enableRegionConfig (mpuSetConfig cpu) accessType ↔
      ∃ index, Applicable cpu accessType index ∧ mpuConfigObj cpu index = region := by
  have hpermits (index : Fin 16) :
      mpuHasPermissionAccessType (mpuSetConfig cpu) accessType (mpuConfigObj cpu index) = true ↔
        AttributePermits cpu accessType (cpu.getSysreg2 (mpat index)) := by
    unfold mpuHasPermissionAccessType AttributePermits
    rw [show (mpuSetConfig cpu).issetUM = cpu.issetUM from rfl]
    cases accessType <;> split_ifs <;>
      simp [TargetMpuEnableAccess.permits, mpuConfigObj]
  have hmem (index : Fin 16) :
      (mpuIsEnableProtectionRegion (mpuConfigObj cpu index) &&
        mpuIsApplyProtectionRegion (mpuSetConfig cpu) (mpuConfigObj cpu index) &&
        mpuHasPermissionAccessType (mpuSetConfig cpu) accessType (mpuConfigObj cpu index)) = true
      ↔ Applicable cpu accessType index := by
    simp only [Bool.and_eq_true, hpermits, mpuIsEnableProtectionRegion,
      mpuIsApplyProtectionRegion, Bool.not_eq_true', decide_eq_false_iff_not,
      BitVec.not_lt, getSysreg2_mpuSetConfig]
    constructor
    · rintro ⟨⟨⟨henabled, hordered⟩, happlied, hasid⟩, hattr⟩
      exact ⟨henabled, hordered, happlied, of_decide_eq_true hasid, hattr⟩
    · rintro ⟨henabled, hordered, happlied, hasid, hattr⟩
      exact ⟨⟨⟨henabled, hordered⟩, happlied, decide_eq_true hasid⟩, hattr⟩
  unfold enableRegionConfig
  rw [List.mem_filter, List.mem_map]
  constructor
  · rintro ⟨⟨index, _, rfl⟩, hkeep⟩
    exact ⟨index, (hmem index).mp hkeep, rfl⟩
  · rintro ⟨index, happ, rfl⟩
    exact ⟨⟨index, List.mem_finRange index, rfl⟩, (hmem index).mpr happ⟩

/-! ## The region checks in integers -/

/-- The data check compares the first byte and the wrapped last byte. -/
theorem mdp_iff (cpu : TargetCore) (accessType : TargetMpuAccess) (addr size : Word) :
    mpuHasPermissionAccessRegionMdp addr size
        (enableRegionConfig (mpuSetConfig cpu) accessType) = true ↔
      ∃ index, Applicable cpu accessType index ∧ regionLower cpu index ≤ addr.toNat ∧
        (addr + size - 1).toNat ≤ regionUpper cpu index := by
  unfold mpuHasPermissionAccessRegionMdp
  rw [List.any_eq_true]
  constructor
  · rintro ⟨region, hmem, hbound⟩
    obtain ⟨index, happ, rfl⟩ := mem_enableRegionConfig.mp hmem
    rw [Bool.and_eq_true, decide_eq_true_eq, decide_eq_true_eq] at hbound
    exact ⟨index, happ, hbound⟩
  · rintro ⟨index, happ, hbound⟩
    refine ⟨_, mem_enableRegionConfig.mpr ⟨index, happ, rfl⟩, ?_⟩
    rw [Bool.and_eq_true, decide_eq_true_eq, decide_eq_true_eq]
    exact hbound

/-- One pass of the instruction check. -/
theorem mipCheckAddr_iff (cpu : TargetCore) (accessType : TargetMpuAccess) (checkAddr : Word) :
    mipCheckAddr checkAddr (enableRegionConfig (mpuSetConfig cpu) accessType) = true ↔
      ∃ index, Applicable cpu accessType index ∧ InRegion cpu index checkAddr.toNat := by
  unfold mipCheckAddr
  rw [List.any_eq_true]
  constructor
  · rintro ⟨region, hmem, hbound⟩
    obtain ⟨index, happ, rfl⟩ := mem_enableRegionConfig.mp hmem
    rw [Bool.and_eq_true, decide_eq_true_eq, decide_eq_true_eq] at hbound
    exact ⟨index, happ, hbound⟩
  · rintro ⟨index, happ, hbound⟩
    refine ⟨_, mem_enableRegionConfig.mpr ⟨index, happ, rfl⟩, ?_⟩
    rw [Bool.and_eq_true, decide_eq_true_eq, decide_eq_true_eq]
    exact hbound

theorem checkAddr_succ (checkAddr : Word) (k : Nat) :
    checkAddr + 1 + BitVec.ofNat 32 k = checkAddr + BitVec.ofNat 32 (k + 1) := by
  rw [BitVec.ofNat_add, BitVec.add_assoc, BitVec.add_comm (1 : Word)]
  rfl

/-- The loop of the instruction check passes when each of its bytes does. -/
theorem mipLoop_iff (regions : List TargetMpuConfig) (n : Nat) (checkAddr : Word) :
    mipLoop n checkAddr regions = true ↔
      ∀ k < n, mipCheckAddr (checkAddr + BitVec.ofNat 32 k) regions = true := by
  induction n generalizing checkAddr with
  | zero => simp [mipLoop]
  | succ n ih =>
    rw [mipLoop, Bool.and_eq_true, ih]
    constructor
    · rintro ⟨hhead, htail⟩ k hk
      cases k with
      | zero => simpa using hhead
      | succ k =>
        have hbyte := htail k (by omega)
        rwa [checkAddr_succ] at hbyte
    · intro hall
      refine ⟨by simpa using hall 0 (by omega), fun k hk => ?_⟩
      rw [checkAddr_succ]
      exact hall (k + 1) (by omega)

/-- The instruction check looks at the bytes up to the wrapped end. -/
theorem mip_iff (cpu : TargetCore) (accessType : TargetMpuAccess) (addr size : Word) :
    mpuHasPermissionAccessRegionMip addr size
        (enableRegionConfig (mpuSetConfig cpu) accessType) = true ↔
      ∀ k < (addr + size).toNat - addr.toNat,
        ∃ index, Applicable cpu accessType index ∧ InRegion cpu index (addr.toNat + k) := by
  unfold mpuHasPermissionAccessRegionMip
  rw [mipLoop_iff]
  refine forall_congr' fun k => forall_congr' fun hk => ?_
  have hnowrap : (addr + BitVec.ofNat 32 k).toNat = addr.toNat + k := by
    have := (addr + size).isLt
    rw [BitVec.toNat_add, BitVec.toNat_ofNat]
    omega
  rw [mipCheckAddr_iff, hnowrap]

/-! ## The bytes of an access -/

/-- A region contains every byte of a non-empty access when it contains the
first and the last. -/
theorem inRegion_all_iff (cpu : TargetCore) (index : Fin 16) {addr size : Nat} (hsize : 0 < size) :
    (∀ k < size, InRegion cpu index (addr + k)) ↔
      regionLower cpu index ≤ addr ∧ addr + size - 1 ≤ regionUpper cpu index := by
  unfold InRegion
  constructor
  · intro hall
    have hfirst := hall 0 hsize
    have hlast := hall (size - 1) (by omega)
    omega
  · rintro ⟨hfirst, hlast⟩ k hk
    omega

theorem regionUpper_lt (cpu : TargetCore) (index : Fin 16) : regionUpper cpu index < 2 ^ 32 :=
  BitVec.isLt _

/-- An access that one region covers ends inside the address space. -/
theorem everyByteCovered_end {cpu : TargetCore} {accessType : TargetMpuAccess} {addr size : Word}
    (hsize : 0 < size.toNat) (hall : EveryByteCovered cpu accessType addr size) :
    addr.toNat + size.toNat ≤ 2 ^ 32 := by
  obtain ⟨index, _, hin⟩ := hall (size.toNat - 1) (by omega)
  have := regionUpper_lt cpu index
  have := hin.2
  omega

theorem OneRegionCovers.everyByteCovered {cpu : TargetCore} {accessType : TargetMpuAccess}
    {addr size : Word} (h : OneRegionCovers cpu accessType addr size) :
    EveryByteCovered cpu accessType addr size := by
  obtain ⟨index, happ, hall⟩ := h
  exact fun k hk => ⟨index, happ, hall k hk⟩

/-- What the rule allows under protection has every byte covered. -/
theorem AccessAllowed.everyByteCovered {cpu : TargetCore} {accessType : TargetMpuAccess}
    {addr size : Word} (h : AccessAllowed cpu accessType addr size)
    (happlied : ProtectionApplied cpu) : EveryByteCovered cpu accessType addr size := by
  rcases h with hoff | hrule
  · exact absurd happlied hoff
  · split_ifs at hrule
    · exact hrule
    · exact hrule.everyByteCovered

/-! ## When the check is exact -/

/-- Under protection the check is the region check. -/
theorem checkGrants_of_applied {cpu : TargetCore} (happlied : ProtectionApplied cpu)
    (accessType : TargetMpuAccess) (addr size : Word) :
    checkGrants cpu accessType addr size =
      mpuHasPermissionAccessRegion accessType addr size
        (enableRegionConfig (mpuSetConfig cpu) accessType) :=
  targetMpuHasPermission_fst_of_applied ((mpuApplied_iff cpu).mpr happlied) accessType addr size

theorem checkGrants_of_not_applied {cpu : TargetCore} (hoff : ¬ ProtectionApplied cpu)
    (accessType : TargetMpuAccess) (addr size : Word) :
    checkGrants cpu accessType addr size = true := by
  have h : mpuApplied (mpuSetConfig cpu) = false := by
    rw [← Bool.not_eq_true, mpuApplied_iff]
    exact hoff
  unfold checkGrants
  rw [targetMpuHasPermission_of_not_applied h]

/-- Exactness is the equivalence with the rule; the second half follows. -/
theorem checkExact_of_iff {cpu : TargetCore} {accessType : TargetMpuAccess} {addr size : Word}
    (h : checkGrants cpu accessType addr size = true ↔ AccessAllowed cpu accessType addr size) :
    CheckExact cpu accessType addr size :=
  ⟨h, fun happlied hgrant => (h.mp hgrant).everyByteCovered happlied⟩

/-- The sum of `addr` and `size` wraps at most once. -/
theorem toNat_add_cases (addr size : Word) :
    addr.toNat + size.toNat < 2 ^ 32 ∧ (addr + size).toNat = addr.toNat + size.toNat ∨
      2 ^ 32 ≤ addr.toNat + size.toNat ∧
        (addr + size).toNat = addr.toNat + size.toNat - 2 ^ 32 := by
  have := addr.isLt
  have := size.isLt
  rw [BitVec.toNat_add]
  omega

/-- The last byte of a data access, wrapped. -/
theorem toNat_last_cases (addr : Word) {size : Word} (hsize : 0 < size.toNat) :
    addr.toNat + size.toNat ≤ 2 ^ 32 ∧
        (addr + size - 1).toNat = addr.toNat + size.toNat - 1 ∨
      2 ^ 32 < addr.toNat + size.toNat ∧
        (addr + size - 1).toNat = addr.toNat + size.toNat - 1 - 2 ^ 32 := by
  have := addr.isLt
  have := size.isLt
  rw [BitVec.toNat_sub, BitVec.toNat_add, show (1 : Word).toNat = 1 from rfl]
  omega

/-- Instruction accesses. -/
theorem checkExact_exec_iff {cpu : TargetCore} (happlied : ProtectionApplied cpu)
    (addr : Word) {size : Word} (hsize : 0 < size.toNat) :
    CheckExact cpu .exec addr size ↔
      addr.toNat + size.toNat < 2 ^ 32 ∨
        addr.toNat + size.toNat = 2 ^ 32 ∧ EveryByteCovered cpu .exec addr size := by
  have hcheck : checkGrants cpu .exec addr size = true ↔
      ∀ k < (addr + size).toNat - addr.toNat,
        ∃ index, Applicable cpu .exec index ∧ InRegion cpu index (addr.toNat + k) := by
    rw [checkGrants_of_applied happlied]
    exact mip_iff cpu .exec addr size
  have hrule : AccessAllowed cpu .exec addr size ↔ EveryByteCovered cpu .exec addr size := by
    unfold AccessAllowed
    simp [happlied]
  have hsizelt := size.isLt
  rcases toNat_add_cases addr size with ⟨hlt, hsum⟩ | ⟨hge, hsum⟩
  · -- no wrap: the loop visits every byte
    have hpasses : (addr + size).toNat - addr.toNat = size.toNat := by omega
    rw [hpasses] at hcheck
    exact iff_of_true (checkExact_of_iff (hcheck.trans hrule.symm)) (Or.inl hlt)
  · -- wrap: the loop makes no pass and grants the access
    have hpasses : (addr + size).toNat - addr.toNat = 0 := by omega
    have hgrant : checkGrants cpu .exec addr size = true := by
      rw [hcheck, hpasses]
      exact fun k hk => absurd hk (Nat.not_lt_zero k)
    constructor
    · intro hexact
      have hall := hexact.2 happlied hgrant
      have := everyByteCovered_end hsize hall
      exact Or.inr ⟨by omega, hall⟩
    · rintro (hlt | ⟨_, hall⟩)
      · omega
      · exact checkExact_of_iff (iff_of_true hgrant (hrule.mpr hall))

/-- Data accesses. -/
theorem checkExact_data_iff {cpu : TargetCore} (happlied : ProtectionApplied cpu)
    {accessType : TargetMpuAccess} (hdata : accessType ≠ .exec) (addr : Word) {size : Word}
    (hsize : 0 < size.toNat) :
    CheckExact cpu accessType addr size ↔
      addr.toNat + size.toNat ≤ 2 ^ 32 ∨
        ∀ index, Applicable cpu accessType index →
          ¬ (regionLower cpu index ≤ addr.toNat ∧
            addr.toNat + size.toNat - 1 - 2 ^ 32 ≤ regionUpper cpu index) := by
  have hcheck : checkGrants cpu accessType addr size = true ↔
      ∃ index, Applicable cpu accessType index ∧ regionLower cpu index ≤ addr.toNat ∧
        (addr + size - 1).toNat ≤ regionUpper cpu index := by
    rw [checkGrants_of_applied happlied, mpuHasPermissionAccessRegion, if_neg hdata]
    exact mdp_iff cpu accessType addr size
  have hrule : AccessAllowed cpu accessType addr size ↔
      ∃ index, Applicable cpu accessType index ∧ regionLower cpu index ≤ addr.toNat ∧
        addr.toNat + size.toNat - 1 ≤ regionUpper cpu index := by
    unfold AccessAllowed OneRegionCovers
    simp only [happlied, not_true_eq_false, false_or, if_neg hdata,
      inRegion_all_iff cpu _ hsize]
  rcases toNat_last_cases addr hsize with ⟨hle, hlast⟩ | ⟨hgt, hlast⟩
  · rw [hlast] at hcheck
    exact iff_of_true (checkExact_of_iff (hcheck.trans hrule.symm)) (Or.inl hle)
  · -- the access wraps: the rule forbids it, the check compares the wrapped end
    rw [hlast] at hcheck
    have hforbid : ¬ AccessAllowed cpu accessType addr size := by
      rw [hrule]
      rintro ⟨index, _, _, hupper⟩
      have := regionUpper_lt cpu index
      omega
    constructor
    · intro hexact
      refine Or.inr fun index happ hbound => hforbid (hexact.1.mp ?_)
      exact hcheck.mpr ⟨index, happ, hbound⟩
    · rintro (hle | hnone)
      · omega
      · refine checkExact_of_iff (iff_of_false ?_ hforbid)
        rw [hcheck]
        rintro ⟨index, happ, hbound⟩
        exact hnone index happ hbound

/-- For every register content, mode, address and positive size, the check is
exact if and only if the access is not harmed by the wrap. -/
theorem checkExact_iff (cpu : TargetCore) (accessType : TargetMpuAccess) (addr size : Word)
    (hsize : 0 < size.toNat) :
    CheckExact cpu accessType addr size ↔ CheckExactWhen cpu accessType addr size := by
  unfold CheckExactWhen
  by_cases happlied : ProtectionApplied cpu
  · simp only [happlied, not_true_eq_false, false_or]
    split_ifs with hexec
    · subst hexec
      exact checkExact_exec_iff happlied addr hsize
    · exact checkExact_data_iff happlied hexec addr hsize
  · have hgrant := checkGrants_of_not_applied happlied accessType addr size
    refine iff_of_true (checkExact_of_iff ?_) (Or.inl happlied)
    exact iff_of_true hgrant (Or.inl happlied)

/-- User mode with the single region 0 to 3, readable. -/
def lowRegionCore : TargetCore :=
  let cpu := (cpuInit 0).setPsw pswUM
  let cpu := cpu.setSysreg2 .mpm 1
  let cpu := cpu.setSysreg2 (mpla 0) 0
  let cpu := cpu.setSysreg2 (mpua 0) 0
  cpu.setSysreg2 (mpat 0) 0xC1

theorem protectionApplied_lowRegionCore : ProtectionApplied lowRegionCore := by
  unfold ProtectionApplied
  decide

/-- The check is exact on a read that leaves the region at its end. -/
theorem checkExact_lowRegion :
    ProtectionApplied lowRegionCore ∧ 0 < (4 : Word).toNat ∧
      CheckExact lowRegionCore .read 2 4 := by
  refine ⟨protectionApplied_lowRegionCore, by decide,
    (checkExact_iff lowRegionCore .read 2 4 (by decide)).mpr (Or.inr ?_)⟩
  rw [if_neg (by decide)]
  exact Or.inl (by decide)

/-- A four-byte read at `0xFFFFFFFE` wraps to address 1 and is granted by the
region 0 to 3, which does not contain its first byte. -/
theorem not_checkExact_wrapped : ¬ CheckExact lowRegionCore .read 0xFFFFFFFE 4 := by
  rw [checkExact_data_iff protectionApplied_lowRegionCore (by decide) _ (by decide)]
  rintro (hend | hnone)
  · exact absurd hend (by decide)
  · refine hnone 0 ⟨by decide, by decide, by decide, by decide, ?_⟩ (by decide)
    unfold AttributePermits
    decide

end Athrill
