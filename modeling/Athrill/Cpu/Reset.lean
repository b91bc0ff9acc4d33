import Athrill.Mpu.Config

/-!
# Reset of a core

`cpu_init` and `cpu_reset`.  The cores are static storage, so before the first
reset every field is zero (`TargetCore.bss`).  `private_sys_init` writes one
clock register over the bus; it touches no field of a core and is part of the
machine, not of this file.
-/

namespace Athrill

open TargetCore

/-- Static storage before the first reset. -/
def TargetCore.bss : TargetCore where
  realElaps := 0
  coreId := 0
  pc := 0
  r := fun _ => 0
  sys := fun _ => 0
  isHalt := false
  currentCodeException := { isCodeException := false, exceptionType := some .reset }
  fatalError := false
  mpu :=
    { exceptionErrorInfo :=
        { intcErrorInfo :=
            { accessType := .none, exceptionErrorCode := .none, isSvMode := false
              isBlError := false, isMsError := false, isRmwError := false }
          errorAddr := 0
          opCodeid := some .absf_d_F
          isErrorOccurred := false }
      permissionRegion := fun _ =>
        { addrStart := 0, addrEnd := 0, isEnable := false
          isEnableAccessSv := { read := false, write := false, exec := false }
          isEnableAccessUm := { read := false, write := false, exec := false }
          isEnableApplyConfig := false, asid := 0 }
      isEnableMpu := false
      isEnableSv := false
      isEnableOutsideProtectionRegion := { read := false, write := false, exec := false } }

/-- The value of `HTCFG0` after reset. -/
def htcfg0Reset (coreId : CoreId) : Word :=
  ((BitVec.ofNat 32 coreId.val + 1) <<< 16) ||| 0x8000#32

/-- `private_cpu_reset`: the registers of `SYS_GRP_0` are cleared, those of the
other groups are kept, except `HTCFG0`. -/
def privateCpuReset (cpu : TargetCore) : TargetCore :=
  let cpu :=
    { cpu with
      pc := 0
      r := Function.update cpu.r 0 0
      sys := fun id => if id.selid = 0 then 0 else cpu.sys id }
  let cpu := cpu.setSysreg2 .psw 0x20
  let cpu := cpu.setSysreg2 .fpsr (BitVec.twoPow 32 17)
  let cpu := cpu.setSysreg2 .htcfg0 (htcfg0Reset cpu.coreId)
  { cpu with
    isHalt := false
    currentCodeException := { isCodeException := false, exceptionType := none } }

/-- `cpu_reset`. -/
def cpuReset (cpu : TargetCore) : TargetCore :=
  { targetMpuInit (privateCpuReset cpu) with
    fatalError := false
    currentCodeException := { isCodeException := false, exceptionType := none } }

/-- One pass of `cpu_init`. -/
def cpuInit (coreId : CoreId) : TargetCore :=
  cpuReset { TargetCore.bss with coreId := coreId }

end Athrill
