import Athrill.Mpu.Config

/-!
# The report of a violation

`target_mpu_set_error`: the kind of access and the registers `MEA` and `MEI`
that describe a denied access to its handler.

* `memoryErrorInfo`: the table of `target_mpu_mei.c`.
* `targetMpuSetError`: the report.
-/

namespace Athrill

open TargetCore

/-- `TargetMpuExceptionErrorMemoryErrorInfoType`; the register is `none` for
`TARGET_MPU_MEI_REG_NONE`. -/
structure MemoryErrorInfo where
  reg : Option (Fin 4)
  dataType : Nat
  sign : Nat
  rw : Nat
  itype : Nat
  deriving DecidableEq, Repr

/-- `TARGET_MPU_MEI_NONE`. -/
def MemoryErrorInfo.none : MemoryErrorInfo := ⟨Option.none, 4, 2, 2, 0x1F⟩

/-- `memory_error_info`. -/
def memoryErrorInfo : OpCodeId → MemoryErrorInfo
  | .callt_2 => ⟨some 0, 1, 1, 0, 0x11⟩
  | .caxi_11 => ⟨some 3, 2, 0, 0, 0x08⟩
  | .clr1_8 | .clr1_9 | .not1_8 | .not1_9 | .set1_8 | .set1_9 | .tst1_8 | .tst1_9 => ⟨some 0, 0, 0, 0, 0x09⟩
  | .dispose_13 => ⟨some 0, 2, 0, 0, 0x0C⟩
  | .ldl_w_7 => ⟨some 3, 2, 0, 0, 0x07⟩
  | .ld_b_7 => ⟨some 2, 0, 0, 0, 0x01⟩
  | .ld_b_14 => ⟨some 3, 0, 0, 0, 0x02⟩
  | .ld_bu_7 => ⟨some 2, 0, 1, 0, 0x01⟩
  | .ld_bu_14 => ⟨some 3, 0, 1, 0, 0x02⟩
  | .ld_dw_14 => ⟨some 3, 3, 0, 0, 0x02⟩
  | .ld_h_7 => ⟨some 2, 1, 0, 0, 0x01⟩
  | .ld_h_14 => ⟨some 3, 1, 0, 0, 0x02⟩
  | .ld_hu_14 => ⟨some 3, 1, 1, 0, 0x02⟩
  | .ld_hu_7 => ⟨some 2, 1, 1, 0, 0x01⟩
  | .ld_w_7 => ⟨some 2, 2, 0, 0, 0x01⟩
  | .ld_w_14 => ⟨some 3, 2, 0, 0, 0x02⟩
  | .popsp_11 => ⟨some 0, 2, 0, 0, 0x0D⟩
  | .prepare_13 => ⟨some 0, 2, 0, 1, 0x0C⟩
  | .pushsp_11 => ⟨some 0, 2, 0, 1, 0x0D⟩
  | .sld_b_4 => ⟨some 2, 0, 0, 0, 0x00⟩
  | .sld_bu_4 => ⟨some 2, 0, 1, 0, 0x00⟩
  | .sld_h_4 => ⟨some 2, 1, 0, 0, 0x00⟩
  | .sld_hu_4 => ⟨some 2, 1, 1, 0, 0x00⟩
  | .sld_w_4 => ⟨some 2, 2, 0, 0, 0x00⟩
  | .sst_b_4 => ⟨some 2, 0, 0, 1, 0x00⟩
  | .sst_h_4 => ⟨some 2, 1, 0, 1, 0x00⟩
  | .sst_w_4 => ⟨some 2, 2, 0, 1, 0x00⟩
  | .stc_w_7 => ⟨some 3, 2, 0, 1, 0x07⟩
  | .st_b_7 => ⟨some 2, 0, 0, 1, 0x01⟩
  | .st_b_14 => ⟨some 3, 0, 0, 1, 0x02⟩
  | .st_dw_14 => ⟨some 3, 3, 0, 1, 0x02⟩
  | .st_h_7 => ⟨some 2, 1, 0, 1, 0x01⟩
  | .st_h_14 => ⟨some 3, 1, 0, 1, 0x02⟩
  | .st_w_7 => ⟨some 2, 2, 0, 1, 0x01⟩
  | .st_w_14 => ⟨some 3, 2, 0, 1, 0x02⟩
  | .switch_1 => ⟨some 0, 1, 0, 0, 0x10⟩
  | .syscall_10 => ⟨some 0, 2, 0, 0, 0x12⟩
  | _ => .none

/-- The value of `MEI`. -/
def meiData (info : MemoryErrorInfo) : Word :=
  let reg : Word := match info.reg with
    | some n => BitVec.ofNat 32 n.val <<< 16
    | none => 0
  reg ||| (BitVec.ofNat 32 info.dataType <<< 9) ||| (BitVec.ofNat 32 info.sign <<< 8) |||
    (BitVec.ofNat 32 info.itype <<< 1) ||| BitVec.ofNat 32 info.rw

/-- `mpu_set_error`; without a code the table would be read past its end. -/
def mpuSetError (cpu : TargetCore) : Option TargetCore :=
  let info := cpu.mpu.exceptionErrorInfo
  let cpu := cpu.setSysreg2 .mea info.errorAddr
  if info.intcErrorInfo.accessType = .exec then some cpu
  else info.opCodeid.map fun codeId => cpu.setSysreg2 .mei (meiData (memoryErrorInfo codeId))

/-- The instructions that access a block. -/
def isBlCode : OpCodeId → Bool
  | .prepare_13 | .dispose_13 | .pushsp_11 | .popsp_11 => true
  | _ => false

/-- The instructions that read, modify and write. -/
def isRmwCode : OpCodeId → Bool
  | .set1_8 | .set1_9 | .not1_8 | .not1_9 | .clr1_8 | .clr1_9 => true
  | _ => false

/-- `target_mpu_set_error`. -/
def targetMpuSetError (cpu : TargetCore) : Option TargetCore :=
  let info := cpu.mpu.exceptionErrorInfo
  let intcErrorInfo :=
    { info.intcErrorInfo with
      isBlError := info.opCodeid.any isBlCode
      isRmwError := info.opCodeid.any isRmwCode
      isMsError := false }
  mpuSetError
    { cpu with
      mpu :=
        { cpu.mpu with exceptionErrorInfo := { info with intcErrorInfo := intcErrorInfo } } }

end Athrill
