import Athrill.Cpu.Run
import Athrill.Mpu.Coverage

/-!
# The memory check command

`LDSR` to `MCC` checks the range from `MCA` to `MCA + MCS` against the regions.
The source looks all three registers up in `SYS_GRP_2`, where their numbers
belong to `MEI`, a reserved register and `PMR`; the loop takes in regions that
the ordinary check leaves out; the shift of a result applies to the zero of the
conditional alone.

* `OneRegionPermits`: the rule of the ordinary check, for both modes.
* `CommandAgrees`: what the command should do.
* `mpuCheck_eq`: what it does.
* `mpuCheck_exact`: the states in which the two agree.
-/

namespace Athrill

open TargetCore Routine

/-! ## The rule -/

/-- The access permissions of a region for user or supervisor mode. -/
def TargetMpuConfig.access (region : TargetMpuConfig) (um : Bool) : TargetMpuEnableAccess :=
  if um then region.isEnableAccessUm else region.isEnableAccessSv

/-- One region that the ordinary check counts permits the access type in the mode
and contains every address from `first` to `last`. -/
def OneRegionPermits (cpu : TargetCore) (um : Bool) (accessType : TargetMpuAccess)
    (first last : Nat) : Prop :=
  ∃ index, mpuIsEnableProtectionRegion (cpu.mpu.permissionRegion index) = true ∧
    mpuIsApplyProtectionRegion cpu (cpu.mpu.permissionRegion index) = true ∧
    ((cpu.mpu.permissionRegion index).access um).permits accessType = true ∧
    ∀ byte, first ≤ byte → byte ≤ last →
      (cpu.mpu.permissionRegion index).addrStart.toNat ≤ byte ∧
        byte ≤ (cpu.mpu.permissionRegion index).addrEnd.toNat

/-- The bits `SXE`, `SWE`, `SRE`, `UXE`, `UWE` and `URE` of `MCR`. -/
def mcrBit (um : Bool) : TargetMpuAccess → Nat
  | .exec => if um then 2 else 5
  | .write => if um then 1 else 4
  | .read => if um then 0 else 3
  | .none => 6

/-- The six bits of a result are the verdicts on the range of `cpu`. -/
def Verdicts (cpu : TargetCore) (result : Word) : Prop :=
  ∀ um accessType, accessType ≠ .none →
    (result.getLsbD (mcrBit um accessType) = true ↔
      OneRegionPermits cpu um accessType (cpu.getSysreg2 .mca).toNat
        ((cpu.getSysreg2 .mca).toNat + (cpu.getSysreg2 .mcs).toNat))

/-- From `cpu` to `cpu'` the command leaves the verdicts in `MCR` and changes no
other system register. -/
structure CommandAgrees (cpu cpu' : TargetCore) : Prop where
  verdicts : Verdicts cpu (cpu'.getSysreg2 .mcr)
  others : ∀ id, id ≠ .mcr → cpu'.getSysreg2 id = cpu.getSysreg2 id

/-! ## What the command does -/

/-- A region with some permission, in either mode. -/
def PermitsSomething (region : TargetMpuConfig) : Prop :=
  ∃ um accessType, (region.access um).permits accessType = true

/-- With `first` and `last` from `SYS_GRP_2`, the range is flagged, or the loop
takes in a region with some permission. -/
def CommandFinds (cpu : TargetCore) : Prop :=
  let first := cpu.getSysreg2 .mei
  let last := first + cpu.getSysreg2 ⟨2, 9⟩
  last < first ∨ first ≤ 0x7FFFFFFF#32 ∧ 0x7FFFFFFF#32 < last ∨
    ∃ index, ¬ (first < (cpu.mpu.permissionRegion index).addrStart ∧
      last ≤ (cpu.mpu.permissionRegion index).addrEnd) ∧
      PermitsSomething (cpu.mpu.permissionRegion index)

theorem targetMpuCheckSet_eq (permission : Bool) (off : Nat) :
    targetMpuCheckSet permission off = if permission then 1 else 0 := by
  unfold targetMpuCheckSet
  rw [Nat.zero_shiftLeft]
  rfl

/-- Flags that are all shifted by nothing. -/
theorem ite_or_ite (a b : Bool) :
    ((if a then 1 else 0) ||| (if b then 1 else 0) : Word) = if a || b then 1 else 0 := by
  cases a <;> cases b <;> rfl

theorem mpuCheckSkips_eq_false {region : TargetMpuConfig} {first last : Word} :
    mpuCheckSkips region first last = false ↔
      ¬ (first < region.addrStart ∧ last ≤ region.addrEnd) := by
  unfold mpuCheckSkips
  rw [Bool.eq_false_iff, ne_eq, Bool.and_eq_true, Bool.not_eq_true', decide_eq_false_iff_not,
    decide_eq_true_eq, BitVec.not_le]

/-- The permissions that the command collects for a mode. -/
def collected (cpu : TargetCore) (um : Bool) : TargetMpuEnableAccess :=
  mpuCheckPermission cpu (cpu.getSysreg2 .mei) (cpu.getSysreg2 .mei + cpu.getSysreg2 ⟨2, 9⟩)
    fun region => region.access um

/-- A permission that is collected comes from a region. -/
theorem permits_collected {cpu : TargetCore} {um : Bool} {accessType : TargetMpuAccess} :
    (collected cpu um).permits accessType = true ↔
      ∃ index, ¬ (cpu.getSysreg2 .mei < (cpu.mpu.permissionRegion index).addrStart ∧
          cpu.getSysreg2 .mei + cpu.getSysreg2 ⟨2, 9⟩ ≤
            (cpu.mpu.permissionRegion index).addrEnd) ∧
        ((cpu.mpu.permissionRegion index).access um).permits accessType = true := by
  have hany (f : TargetMpuConfig → Bool) :
      ((((List.finRange 16).map cpu.mpu.permissionRegion).filter fun region =>
          !mpuCheckSkips region (cpu.getSysreg2 .mei)
            (cpu.getSysreg2 .mei + cpu.getSysreg2 ⟨2, 9⟩)).any f) = true ↔
        ∃ index, ¬ (cpu.getSysreg2 .mei < (cpu.mpu.permissionRegion index).addrStart ∧
            cpu.getSysreg2 .mei + cpu.getSysreg2 ⟨2, 9⟩ ≤
              (cpu.mpu.permissionRegion index).addrEnd) ∧
          f (cpu.mpu.permissionRegion index) = true := by
    simp only [List.any_eq_true, List.mem_filter, List.mem_map, List.mem_finRange, true_and,
      Bool.not_eq_true', mpuCheckSkips_eq_false]
    constructor
    · rintro ⟨_, ⟨⟨index, rfl⟩, hskip⟩, hf⟩
      exact ⟨index, hskip, hf⟩
    · rintro ⟨index, hskip, hf⟩
      exact ⟨_, ⟨⟨index, rfl⟩, hskip⟩, hf⟩
  cases accessType with
  | read => exact hany fun region => (region.access um).read
  | write => exact hany fun region => (region.access um).write
  | exec => exact hany fun region => (region.access um).exec
  | none =>
    simp only [TargetMpuEnableAccess.permits, Bool.false_eq_true, and_false, exists_false]

/-- The command finds something when the range is flagged or a permission is
collected. -/
theorem commandFinds_iff {cpu : TargetCore} :
    CommandFinds cpu ↔
      (cpu.getSysreg2 .mei + cpu.getSysreg2 ⟨2, 9⟩ < cpu.getSysreg2 .mei ∨
        cpu.getSysreg2 .mei ≤ 0x7FFFFFFF#32 ∧
          0x7FFFFFFF#32 < cpu.getSysreg2 .mei + cpu.getSysreg2 ⟨2, 9⟩) ∨
        ∃ um accessType, (collected cpu um).permits accessType = true := by
  constructor
  · rintro (hov | hcross | ⟨index, hskip, um, accessType, hp⟩)
    · exact Or.inl (Or.inl hov)
    · exact Or.inl (Or.inr hcross)
    · exact Or.inr ⟨um, accessType, permits_collected.mpr ⟨index, hskip, hp⟩⟩
  · rintro ((hov | hcross) | ⟨um, accessType, hp⟩)
    · exact Or.inl hov
    · exact Or.inr (Or.inl hcross)
    · obtain ⟨index, hskip, hp'⟩ := permits_collected.mp hp
      exact Or.inr (Or.inr ⟨index, hskip, um, accessType, hp'⟩)

/-- The result of the command: 1 when it finds something, else 0, and it goes to
`PMR`. -/
theorem mpuCheck_eq (cpu : TargetCore) :
    ∃ found : Bool, mpuCheck cpu = cpu.setSysreg2 .pmr (if found then 1 else 0) ∧
      (found = true ↔ CommandFinds cpu) := by
  have heq : mpuCheck cpu = cpu.setSysreg2 .pmr
      (targetMpuCheckSet (decide (cpu.getSysreg2 .mei + cpu.getSysreg2 ⟨2, 9⟩ <
            cpu.getSysreg2 .mei) ||
          (decide (cpu.getSysreg2 .mei ≤ 0x7FFFFFFF#32) &&
            decide (0x7FFFFFFF#32 < cpu.getSysreg2 .mei + cpu.getSysreg2 ⟨2, 9⟩))) 8 |||
        targetMpuCheckSet (collected cpu false).exec 5 |||
        targetMpuCheckSet (collected cpu false).read 3 |||
        targetMpuCheckSet (collected cpu false).write 4 |||
        targetMpuCheckSet (collected cpu true).exec 2 |||
        targetMpuCheckSet (collected cpu true).read 0 |||
        targetMpuCheckSet (collected cpu true).write 1) := rfl
  simp only [targetMpuCheckSet_eq, ite_or_ite] at heq
  refine ⟨_, heq, ?_⟩
  rw [commandFinds_iff]
  simp only [Bool.or_eq_true, Bool.and_eq_true, decide_eq_true_eq]
  constructor
  · rintro ((((((hflag | h) | h) | h) | h) | h) | h)
    · exact Or.inl hflag
    · exact Or.inr ⟨false, .exec, h⟩
    · exact Or.inr ⟨false, .read, h⟩
    · exact Or.inr ⟨false, .write, h⟩
    · exact Or.inr ⟨true, .exec, h⟩
    · exact Or.inr ⟨true, .read, h⟩
    · exact Or.inr ⟨true, .write, h⟩
  · rintro (hflag | ⟨um, accessType, h⟩)
    · exact Or.inl (Or.inl (Or.inl (Or.inl (Or.inl (Or.inl hflag)))))
    · match um, accessType, h with
      | false, .exec, h => exact Or.inl (Or.inl (Or.inl (Or.inl (Or.inl (Or.inr h)))))
      | false, .read, h => exact Or.inl (Or.inl (Or.inl (Or.inl (Or.inr h))))
      | false, .write, h => exact Or.inl (Or.inl (Or.inl (Or.inr h)))
      | true, .exec, h => exact Or.inl (Or.inl (Or.inr h))
      | true, .read, h => exact Or.inl (Or.inr h)
      | true, .write, h => exact Or.inr h

/-! ## The instruction -/

variable {D : Type} {s s' : CpuState D} {d : OpCodeFormatType9}

/-- `LDSR` to `MCC`. -/
structure IsMccCommand (d : OpCodeFormatType9) : Prop where
  gen : d.gen.toNat < 32
  regid : d.reg2.toNat = SysReg.mcc.regid.val
  selid : d.rfu2.toNat = SysReg.mcc.selid.val

/-- In supervisor mode the instruction runs the command. -/
theorem getSysreg2_of_mccCommand (hd : IsMccCommand d) (hsv : s.cpu.issetUM = false)
    (hrun : (Exec.opExecLdsr d).run s = (.ok (), s')) (id : SysReg) :
    s'.cpu.getSysreg2 id = (mpuCheck s.cpu).getSysreg2 id := by
  have hgranted : sysRegAccessHasPermission s.cpu SysReg.mcc.regid.val SysReg.mcc.selid.val =
      true := by
    unfold sysRegAccessHasPermission
    rw [hsv]
    rfl
  rw [Exec.run_opExecLdsr s .mcc hd.gen hd.regid hd.selid hgranted] at hrun
  obtain rfl := (Prod.mk.inj hrun).2
  rfl

/-- After the command, `MCR` has its old content and `PMR` the result.  So the
command agrees with the ordinary check exactly when `MCR` holds the verdicts
beforehand and `PMR` the number that the command stores. -/
theorem mpuCheck_exact (hd : IsMccCommand d) (hsv : s.cpu.issetUM = false)
    (hrun : (Exec.opExecLdsr d).run s = (.ok (), s')) :
    CommandAgrees s.cpu s'.cpu ↔
      Verdicts s.cpu (s.cpu.getSysreg2 .mcr) ∧
        (CommandFinds s.cpu ∧ s.cpu.getSysreg2 .pmr = 1 ∨
          ¬ CommandFinds s.cpu ∧ s.cpu.getSysreg2 .pmr = 0) := by
  obtain ⟨found, hcheck, hfound⟩ := mpuCheck_eq s.cpu
  have hget (id : SysReg) := getSysreg2_of_mccCommand hd hsv hrun id
  rw [hcheck] at hget
  have hmcr : s'.cpu.getSysreg2 .mcr = s.cpu.getSysreg2 .mcr :=
    (hget .mcr).trans (getSysreg2_setSysreg2_of_ne _ _ (by decide))
  have hpmr : s'.cpu.getSysreg2 .pmr = if found then 1 else 0 :=
    (hget .pmr).trans (getSysreg2_setSysreg2 _ _ _)
  constructor
  · intro h
    refine ⟨hmcr ▸ h.verdicts, ?_⟩
    have hsame := hpmr.symm.trans (h.others .pmr (by decide))
    cases found with
    | true => exact Or.inl ⟨hfound.mp rfl, hsame.symm⟩
    | false => exact Or.inr ⟨fun hfinds => Bool.false_ne_true (hfound.mpr hfinds), hsame.symm⟩
  · rintro ⟨hverdicts, hstored⟩
    refine ⟨hmcr ▸ hverdicts, fun id _ => ?_⟩
    by_cases hid : id = .pmr
    · subst hid
      rw [hpmr]
      rcases hstored with ⟨hfinds, hone⟩ | ⟨hnot, hzero⟩
      · rw [hfound.mpr hfinds, hone]
        rfl
      · have hfalse : found = false := Bool.eq_false_iff.mpr fun h => hnot (hfound.mp h)
        rw [hfalse, hzero]
        rfl
    · exact (hget id).trans (getSysreg2_setSysreg2_of_ne _ _ hid)

/-- `LDSR r0, MCC`. -/
def mccInsn : OpCodeFormatType9 := ⟨0, 0, 0, 10, 5, 0⟩

/-- Region 0 from address 0 to `0xFF` may be read in supervisor mode, and the
range to check has 17 bytes. -/
def readableState : CpuState Unit :=
  { resetState with
    cpu := mpuSetConfig (((resetState.cpu.setSysreg2 (mpua 0) 0xFC).setSysreg2 (mpat 0)
      0xC8).setSysreg2 .mcs 0x10) }

theorem readable_of_region {cpu : TargetCore}
    (h : mpuIsEnableProtectionRegion (cpu.mpu.permissionRegion 0) = true ∧
      mpuIsApplyProtectionRegion cpu (cpu.mpu.permissionRegion 0) = true ∧
      ((cpu.mpu.permissionRegion 0).access false).permits .read = true ∧
      (cpu.mpu.permissionRegion 0).addrStart.toNat = 0 ∧
      (cpu.mpu.permissionRegion 0).addrEnd.toNat = 0xFF) :
    OneRegionPermits cpu false .read 0 0x10 := by
  obtain ⟨henabled, happlied, hpermits, hstart, hend⟩ := h
  exact ⟨0, henabled, happlied, hpermits, fun byte _ hle => ⟨by omega, by omega⟩⟩

/-- The result of an earlier command is still right. -/
def settledState : CpuState Unit :=
  { readableState with
    cpu := (readableState.cpu.setSysreg2 .mcr 0x8).setSysreg2 .pmr 1 }

theorem verdicts_settledState :
    Verdicts settledState.cpu (settledState.cpu.getSysreg2 .mcr) := by
  have hmcr : ∀ um, ∀ accessType ∈ [TargetMpuAccess.read, .write, .exec],
      ((settledState.cpu.getSysreg2 .mcr).getLsbD (mcrBit um accessType) = true ↔
        um = false ∧ accessType = .read) := by
    decide +kernel
  have hpermits : ∀ index um, ∀ accessType ∈ [TargetMpuAccess.read, .write, .exec],
      ((settledState.cpu.mpu.permissionRegion index).access um).permits accessType = true →
        um = false ∧ accessType = .read := by
    decide +kernel
  have hmca : (settledState.cpu.getSysreg2 .mca).toNat = 0 := by decide +kernel
  have hmcs : (settledState.cpu.getSysreg2 .mcs).toNat = 0x10 := by decide +kernel
  intro um accessType hsome
  have hmem : accessType ∈ [TargetMpuAccess.read, .write, .exec] := by
    cases accessType <;> simp at hsome ⊢
  rw [hmcr um accessType hmem, hmca, hmcs]
  constructor
  · rintro ⟨rfl, rfl⟩
    exact readable_of_region (by decide +kernel)
  · rintro ⟨index, _, _, hpermitted, _⟩
    exact hpermits index um accessType hmem hpermitted

/-- The command finds the readable region and leaves what is there already. -/
theorem mpuCheck_exact_settled :
    CommandFinds settledState.cpu ∧
      CommandAgrees settledState.cpu ((Exec.opExecLdsr mccInsn).run settledState).2.cpu := by
  have hfinds : CommandFinds settledState.cpu :=
    Or.inr (Or.inr ⟨0, by decide +kernel, false, .read, by decide +kernel⟩)
  refine ⟨hfinds, (mpuCheck_exact ⟨by decide, rfl, rfl⟩ (by decide +kernel)
    (show (Exec.opExecLdsr mccInsn).run settledState =
      (.ok (), ((Exec.opExecLdsr mccInsn).run settledState).2) from rfl)).mpr ?_⟩
  exact ⟨verdicts_settledState, Or.inl ⟨hfinds, by decide +kernel⟩⟩

/-- The range is readable, `SRE` of `MCR` stays 0 and `PMR` is set. -/
theorem mpuCheck_writes_pmr :
    OneRegionPermits readableState.cpu false .read 0 0x10 ∧
      ((Exec.opExecLdsr mccInsn).run readableState).2.cpu.getSysreg2 .mcr = 0 ∧
      readableState.cpu.getSysreg2 .pmr = 0 ∧
      ((Exec.opExecLdsr mccInsn).run readableState).2.cpu.getSysreg2 .pmr = 1 ∧
      ¬ CommandAgrees readableState.cpu
        ((Exec.opExecLdsr mccInsn).run readableState).2.cpu := by
  have hpmr : ((Exec.opExecLdsr mccInsn).run readableState).2.cpu.getSysreg2 .pmr = 1 := by
    decide +kernel
  have hbefore : readableState.cpu.getSysreg2 .pmr = 0 := by decide +kernel
  refine ⟨readable_of_region (by decide +kernel), by decide +kernel, hbefore, hpmr, fun h => ?_⟩
  have hsame := h.others .pmr (by decide)
  rw [hpmr, hbefore] at hsame
  exact absurd hsame (by decide)

end Athrill
