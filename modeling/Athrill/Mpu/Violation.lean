import Athrill.Cpu.Run
import Athrill.Mpu.Report

/-!
# What a violation report says

A denied access goes through three places: the check keeps its type, mode and
address, the report makes `MEA` and `MEI` from them and from the table of the
instructions, and the start of the exception makes `FEIC`.  `FEIC` has no bit
for instruction accesses: they are reported as writes.  The register in `MEI`
is the number of an operand field, not the register in that field.

* `MeiDescribes`, `ReportExact`: what a report should say.
* `feic_of_report`, `mei_of_report`: what it says.
* `violation_exact`: the denied accesses that are reported right.
-/

namespace Athrill

open TargetCore

/-! ## The report -/

/-- The exception of a denied access. -/
def violationExno (accessType : TargetMpuAccess) : ExceptionId :=
  if accessType = .exec then .mip else .mdp

/-- The field `DS` for an access of some bytes. -/
def dsCode (size : Word) : Option Nat :=
  if size = 1 then some 0
  else if size = 2 then some 1
  else if size = 4 then some 2
  else if size = 8 then some 3
  else none

/-- The general register that an instruction loads or stores; `none` for the
instructions with another target or with a list of registers. -/
def dataRegister (codeId : OpCodeId) (d : OpDecodedCode) : Option HalfWord :=
  match codeId with
  | .sld_b_4 | .sld_h_4 | .sld_w_4 | .sst_b_4 | .sst_h_4 | .sst_w_4 => some d.type4A.reg2
  | .sld_bu_4 | .sld_hu_4 => some d.type4B.reg2
  | .ld_b_7 | .ld_bu_7 | .ld_h_7 | .ld_hu_7 | .ld_w_7 | .ldl_w_7 => some d.type7.reg2
  | .st_b_7 | .st_h_7 | .st_w_7 | .stc_w_7 => some d.type7.reg2
  | .ld_b_14 | .ld_bu_14 | .ld_h_14 | .ld_hu_14 | .ld_w_14 | .ld_dw_14 => some d.type14.reg3
  | .st_b_14 | .st_h_14 | .st_w_14 | .st_dw_14 => some d.type14.reg3
  | .caxi_11 => some d.type11.reg3
  | _ => none

/-- The bits of `FEIC` for an access type in a mode: `UR`, `UW`, `UX`, `SR`, `SW`
and `SX`. -/
def feicBit (um : Bool) : TargetMpuAccess → Nat
  | .read => if um then 16 else 19
  | .write => if um then 17 else 20
  | .exec => if um then 18 else 21
  | .none => 25

/-- `MEI` encodes the size, the direction and the register of an access. -/
structure MeiDescribes (accessType : TargetMpuAccess) (size : Word) (register : Option HalfWord)
    (mei : Word) : Prop where
  size : dsCode size = some ((mei >>> 9) &&& 7#32).toNat
  direction : mei.getLsbD 0 = true ↔ accessType = .write
  register : ((mei >>> 16) &&& 0x1F#32).toNat = (register.getD 0).toNat

/-- The report describes the access: `FEIC` has the cause and of the six bits
that of the access, `MEA` has the address, and for a data access `MEI` describes
it. -/
structure ReportExact (accessType : TargetMpuAccess) (addr size : Word) (um : Bool)
    (register : Option HalfWord) (mea mei feic : Word) : Prop where
  cause : feic &&& 0xFFFF#32 = if accessType = .exec then 0x90 else 0x91
  named : ∀ um' accessType', accessType' ≠ .none →
    (feic.getLsbD (feicBit um' accessType') = true ↔ um' = um ∧ accessType' = accessType)
  mea : mea = addr
  mei : accessType ≠ .exec → MeiDescribes accessType size register mei

/-- The entry of the instruction fits the access: it has its size and direction,
and its operand number is the number of the register. -/
structure EntryFits (codeId : OpCodeId) (d : OpDecodedCode) (accessType : TargetMpuAccess)
    (size : Word) : Prop where
  size : dsCode size = some (memoryErrorInfo codeId).dataType
  direction : (memoryErrorInfo codeId).rw = 1 ↔ accessType = .write
  register : ((memoryErrorInfo codeId).reg.getD 0).val = ((dataRegister codeId d).getD 0).toNat

/-! ## MEI -/

/-- The fields of `MEI`; an entry without a size gives a code above that of
eight bytes. -/
theorem meiData_fields (codeId : OpCodeId) :
    let info := memoryErrorInfo codeId
    let mei := meiData info
    (((mei >>> 9) &&& 7#32).toNat = info.dataType ∨
        3 < ((mei >>> 9) &&& 7#32).toNat ∧ 3 < info.dataType) ∧
      (mei.getLsbD 0 = true ↔ info.rw = 1) ∧
      ((mei >>> 16) &&& 0x1F#32).toNat = (info.reg.getD 0).val := by
  unfold memoryErrorInfo
  split <;> decide

theorem dsCode_le {size : Word} {code : Nat} (h : dsCode size = some code) : code ≤ 3 := by
  unfold dsCode at h
  split_ifs at h <;> simp_all <;> omega

/-- `MEI` describes an access when the entry fits it. -/
theorem meiDescribes_iff {codeId : OpCodeId} {d : OpDecodedCode} {accessType : TargetMpuAccess}
    {size : Word} :
    MeiDescribes accessType size (dataRegister codeId d) (meiData (memoryErrorInfo codeId)) ↔
      EntryFits codeId d accessType size := by
  obtain ⟨hds, hrw, hreg⟩ := meiData_fields codeId
  constructor
  · rintro ⟨hsize, hdirection, hregister⟩
    refine ⟨?_, hrw.symm.trans hdirection, hreg.symm.trans hregister⟩
    have hle := dsCode_le hsize
    rcases hds with heq | ⟨hlt, -⟩
    · rw [hsize, heq]
    · omega
  · rintro ⟨hsize, hdirection, hregister⟩
    refine ⟨?_, hrw.trans hdirection, hreg.trans hregister⟩
    have hle := dsCode_le hsize
    rcases hds with heq | ⟨-, hlt⟩
    · rw [hsize, heq]
    · omega

/-! ## FEIC -/

/-- `intc_get_exception_code_mpu` from the parts of the error information. -/
def mpuCause (isBl isRmw um : Bool) (accessType : TargetMpuAccess) : Word :=
  ((if isBl then BitVec.twoPow 32 23 else if isRmw then BitVec.twoPow 32 22 else 0) |||
    (if um then BitVec.twoPow 32 (if accessType = .read then 16 else 17)
      else BitVec.twoPow 32 (if accessType = .read then 19 else 20))) |||
    (if accessType = .exec then 0x90 else 0x91)

theorem mpuCause_cause (isBl isRmw um : Bool) {accessType : TargetMpuAccess} :
    mpuCause isBl isRmw um accessType &&& 0xFFFF#32 =
      if accessType = .exec then 0x90 else 0x91 := by
  cases accessType <;> cases isBl <;> cases isRmw <;> cases um <;> decide

/-- A data access is named by its bit alone. -/
theorem mpuCause_named (isBl isRmw um um' : Bool) {accessType accessType' : TargetMpuAccess}
    (hdata : accessType = .read ∨ accessType = .write) (htype : accessType' ≠ .none) :
    (mpuCause isBl isRmw um accessType).getLsbD (feicBit um' accessType') = true ↔
      um' = um ∧ accessType' = accessType := by
  rcases hdata with rfl | rfl
  · cases accessType' with
    | none => exact absurd rfl htype
    | _ => cases isBl <;> cases isRmw <;> cases um <;> cases um' <;> decide
  · cases accessType' with
    | none => exact absurd rfl htype
    | _ => cases isBl <;> cases isRmw <;> cases um <;> cases um' <;> decide

/-- Any other access is named as a write. -/
theorem mpuCause_write (isBl isRmw um : Bool) {accessType : TargetMpuAccess}
    (hread : accessType ≠ .read) :
    (mpuCause isBl isRmw um accessType).getLsbD (feicBit um .write) = true := by
  cases accessType with
  | read => exact absurd rfl hread
  | _ => cases isBl <;> cases isRmw <;> cases um <;> decide

/-! ## The three places -/

variable {cpu : TargetCore} {accessType : TargetMpuAccess} {addr size : Word}

/-- What the check keeps of a denied access. -/
theorem exceptionErrorInfo_of_denied
    (hdenied : (targetMpuHasPermission cpu accessType addr size).1 = false) :
    (targetMpuHasPermission cpu accessType addr size).2 =
      setErrorInfo cpu (targetMpuHasPermissionSetError cpu accessType addr
        { cpu.mpu.exceptionErrorInfo with isErrorOccurred := true }) := by
  unfold targetMpuHasPermission at hdenied ⊢
  dsimp only at hdenied ⊢
  split_ifs at hdenied ⊢ with hoff hsv hregion
  rfl

/-- The report of a flagged violation. -/
theorem targetMpuSetError_eq {codeId : OpCodeId}
    (hcode : cpu.mpu.exceptionErrorInfo.opCodeid = some codeId) :
    ∃ cpu', targetMpuSetError cpu = some cpu' ∧
      cpu'.getSysreg2 .mea = cpu.mpu.exceptionErrorInfo.errorAddr ∧
      (cpu.mpu.exceptionErrorInfo.intcErrorInfo.accessType ≠ .exec →
        cpu'.getSysreg2 .mei = meiData (memoryErrorInfo codeId)) ∧
      cpu'.mpu.exceptionErrorInfo.intcErrorInfo =
        { cpu.mpu.exceptionErrorInfo.intcErrorInfo with
          isBlError := isBlCode codeId, isRmwError := isRmwCode codeId, isMsError := false } := by
  have hmea : ∀ data : Word, ((cpu.setSysreg2 .mea cpu.mpu.exceptionErrorInfo.errorAddr).setSysreg2
      .mei data).getSysreg2 .mea = cpu.mpu.exceptionErrorInfo.errorAddr := fun data => by
    rw [getSysreg2_setSysreg2_of_ne _ _ (by decide), getSysreg2_setSysreg2]
  unfold targetMpuSetError mpuSetError
  dsimp only
  rw [hcode]
  by_cases hexec : cpu.mpu.exceptionErrorInfo.intcErrorInfo.accessType = .exec
  · rw [if_pos hexec]
    exact ⟨_, rfl, getSysreg2_setSysreg2 _ _ _, fun hne => absurd hexec hne, rfl⟩
  · rw [if_neg hexec]
    exact ⟨_, rfl, hmea _, fun _ => getSysreg2_setSysreg2 _ _ _, rfl⟩

/-- The cause of a violation, from the error information. -/
theorem intcGetExceptionCodeMpu_eq {isBl isRmw um : Bool}
    (h : cpu.mpu.exceptionErrorInfo.intcErrorInfo =
      ⟨accessType, if accessType = .exec then .mip else .mdp, !um, isBl, false, isRmw⟩) :
    intcGetExceptionCodeMpu cpu = mpuCause isBl isRmw um accessType := by
  unfold intcGetExceptionCodeMpu mpuCause
  rw [h]
  cases accessType <;> cases um <;> rfl

/-- The state after the report of a denied access: `MEA`, `MEI` for a data
access, and the cause that the start of the exception will write. -/
theorem report_of_denied (codeId : OpCodeId) (intc : Intc)
    (hdenied : (targetMpuHasPermission cpu accessType addr size).1 = false) :
    ∃ s', cpuIllegalAccess
        ⟨flagViolation codeId (violationExno accessType)
          (targetMpuHasPermission cpu accessType addr size).2, intc⟩ = some (true, s') ∧
      s'.cpu.getSysreg2 .mea = addr ∧
      (accessType ≠ .exec → s'.cpu.getSysreg2 .mei = meiData (memoryErrorInfo codeId)) ∧
      intcGetExceptionCodeMpu s'.cpu =
        mpuCause (isBlCode codeId) (isRmwCode codeId) cpu.issetUM accessType := by
  rw [exceptionErrorInfo_of_denied hdenied]
  generalize hflagged : flagViolation codeId (violationExno accessType) (setErrorInfo cpu
    (targetMpuHasPermissionSetError cpu accessType addr
      { cpu.mpu.exceptionErrorInfo with isErrorOccurred := true })) = flagged
  have hcode : flagged.mpu.exceptionErrorInfo.opCodeid = some codeId := by
    rw [← hflagged]
    rfl
  have hexception : flagged.currentCodeException = ⟨true, some (violationExno accessType)⟩ := by
    rw [← hflagged]
    rfl
  obtain ⟨cpu', hset, hmea, hmei, hinfo⟩ :=
    @targetMpuSetError_eq { flagged with isHalt := false } codeId hcode
  have hexno : violationExno accessType = .mip ∨ violationExno accessType = .mdp := by
    unfold violationExno
    split_ifs
    · exact Or.inl rfl
    · exact Or.inr rfl
  refine ⟨⟨clearViolation cpu', (intcRaiseException flagged.coreId (violationExno accessType)
    ⟨flagged, intc⟩).intc⟩, ?_, ?_, ?_, ?_⟩
  · unfold cpuIllegalAccess
    dsimp only
    rw [hexception]
    rcases hexno with hmip | hmdp
    · rw [hmip]
      show Option.map _ (Option.map _ (targetMpuSetError { flagged with isHalt := false })) = _
      rw [hset]
      rfl
    · rw [hmdp]
      show Option.map _ (Option.map _ (targetMpuSetError { flagged with isHalt := false })) = _
      rw [hset]
      rfl
  · rw [← hflagged] at hmea
    exact hmea
  · rw [← hflagged] at hmei
    exact hmei
  · rw [← hflagged] at hinfo
    exact intcGetExceptionCodeMpu_eq hinfo

/-- `FEIC` at the start of the exception. -/
theorem feic_saveContext {request : ExceptionRequest}
    (hexno : request.exno = violationExno accessType) :
    (saveContext request cpu).getSysreg2 .feic = intcGetExceptionCodeMpu cpu := by
  unfold saveContext ExceptionRequest.req
  rw [hexno]
  have hmpu : intcGetExceptionCodeMpu ((cpu.setSysreg2 .fepc cpu.pc).setSysreg2 .fepsw
      (cpu.setSysreg2 .fepc cpu.pc).psw) = intcGetExceptionCodeMpu cpu := rfl
  unfold violationExno
  split_ifs with hexec hlevel hlevel
  · rw [← hmpu]
    exact getSysreg2_setSysreg2 _ _ _
  · exact absurd rfl hlevel
  · rw [← hmpu]
    exact getSysreg2_setSysreg2 _ _ _
  · exact absurd rfl hlevel

/-- The report of a denied access describes it exactly when the access is a data
access and the entry of the instruction fits. -/
theorem violation_exact (codeId : OpCodeId) (d : OpDecodedCode) (intc : Intc)
    {request : ExceptionRequest} (hexno : request.exno = violationExno accessType)
    (hdenied : (targetMpuHasPermission cpu accessType addr size).1 = false) :
    ∃ s', cpuIllegalAccess
        ⟨flagViolation codeId (violationExno accessType)
          (targetMpuHasPermission cpu accessType addr size).2, intc⟩ = some (true, s') ∧
      (ReportExact accessType addr size cpu.issetUM (dataRegister codeId d)
          (s'.cpu.getSysreg2 .mea) (s'.cpu.getSysreg2 .mei)
          ((saveContext request s'.cpu).getSysreg2 .feic) ↔
        (accessType = .read ∨ accessType = .write) ∧ EntryFits codeId d accessType size) := by
  obtain ⟨s', hreport, hmea, hmei, hcause⟩ := report_of_denied codeId intc hdenied
  refine ⟨s', hreport, ?_⟩
  rw [hmea, feic_saveContext hexno, hcause]
  constructor
  · intro h
    -- an access that is not read is named as a write
    have hdata : accessType = .read ∨ accessType = .write := by
      by_cases hread : accessType = .read
      · exact Or.inl hread
      · have hwrite := (h.named cpu.issetUM .write (by decide)).mp
          (mpuCause_write (isBlCode codeId) (isRmwCode codeId) cpu.issetUM hread)
        exact Or.inr hwrite.2.symm
    have hexec : accessType ≠ .exec := by
      rcases hdata with rfl | rfl
      · decide
      · decide
    refine ⟨hdata, meiDescribes_iff.mp ?_⟩
    rw [← hmei hexec]
    exact h.mei hexec
  · rintro ⟨hdata, hfits⟩
    refine ⟨mpuCause_cause _ _ _, fun um' accessType' htype => mpuCause_named _ _ _ _ hdata htype,
      rfl, fun hexec => ?_⟩
    rw [hmei hexec]
    exact meiDescribes_iff.mpr hfits

/-! ## User mode without a region -/

/-- User mode with the protection on and no region enabled. -/
def lockedCpu : TargetCore :=
  mpuSetConfig ((resetState.cpu.setSysreg2 .mpm 1).setPsw pswUM)

/-- `LD.W` with a destination. -/
def ldwCode (reg2 : HalfWord) : OpDecodedCode :=
  { OpDecodedCode.bss with type7 := { OpDecodedCode.bss.type7 with reg2 := reg2 } }

/-- The request of an exception. -/
def requestOf (exno : ExceptionId) : ExceptionRequest := ⟨0, .runnable, 0, exno, 0, 0⟩

/-- A denied load to `r2`. -/
theorem violation_exact_ldw :
    ∃ s', cpuIllegalAccess
        ⟨flagViolation .ld_w_7 (violationExno .read)
          (targetMpuHasPermission lockedCpu .read 0x1000 4).2, deviceInitIntc⟩ = some (true, s') ∧
      (ReportExact .read 0x1000 4 lockedCpu.issetUM (dataRegister .ld_w_7 (ldwCode 2))
          (s'.cpu.getSysreg2 .mea) (s'.cpu.getSysreg2 .mei)
          ((saveContext (requestOf .mdp) s'.cpu).getSysreg2 .feic) ↔
        (TargetMpuAccess.read = .read ∨ TargetMpuAccess.read = .write) ∧
          EntryFits .ld_w_7 (ldwCode 2) .read 4) :=
  violation_exact .ld_w_7 (ldwCode 2) deviceInitIntc rfl (by decide +kernel)

/-- A denied fetch is reported as a write, and the report of a denied load to
`r5` names register 2. -/
theorem violation_misreported :
    (∃ s', cpuIllegalAccess
        ⟨flagViolation .nop_1 (violationExno .exec)
          (targetMpuHasPermission lockedCpu .exec 0x1000 2).2, deviceInitIntc⟩ = some (true, s') ∧
      (saveContext (requestOf .mip) s'.cpu).getSysreg2 .feic = 0x00020090 ∧
      ¬ ReportExact .exec 0x1000 2 lockedCpu.issetUM none
        (s'.cpu.getSysreg2 .mea) (s'.cpu.getSysreg2 .mei)
        ((saveContext (requestOf .mip) s'.cpu).getSysreg2 .feic)) ∧
    ∃ s', cpuIllegalAccess
        ⟨flagViolation .ld_w_7 (violationExno .read)
          (targetMpuHasPermission lockedCpu .read 0x1000 4).2, deviceInitIntc⟩ = some (true, s') ∧
      s'.cpu.getSysreg2 .mei = 0x00020402 ∧
      ¬ ReportExact .read 0x1000 4 lockedCpu.issetUM (dataRegister .ld_w_7 (ldwCode 5))
        (s'.cpu.getSysreg2 .mea) (s'.cpu.getSysreg2 .mei)
        ((saveContext (requestOf .mdp) s'.cpu).getSysreg2 .feic) := by
  refine ⟨?_, ?_⟩
  · obtain ⟨s', hreport, -, -, hcause⟩ := @report_of_denied lockedCpu .exec 0x1000 2 .nop_1
      deviceInitIntc (by decide +kernel)
    have hfeic : (saveContext (requestOf .mip) s'.cpu).getSysreg2 .feic = 0x00020090 := by
      rw [@feic_saveContext s'.cpu .exec (requestOf .mip) rfl, hcause]
      decide
    refine ⟨s', hreport, hfeic, fun h => ?_⟩
    have hnamed := (h.named true .exec (by decide)).mpr ⟨rfl, rfl⟩
    rw [hfeic] at hnamed
    exact absurd hnamed (by decide)
  · obtain ⟨s', hreport, -, hmei, -⟩ := @report_of_denied lockedCpu .read 0x1000 4 .ld_w_7
      deviceInitIntc (by decide +kernel)
    have hdata : s'.cpu.getSysreg2 .mei = 0x00020402 := hmei (by decide)
    refine ⟨s', hreport, hdata, fun h => ?_⟩
    have hregister := (h.mei (by decide)).register
    rw [hdata] at hregister
    exact absurd hregister (by decide)

end Athrill
