import Athrill.Dec.OpCodeId
import Athrill.Lib.Bits
import Athrill.Lib.Sizes
import Mathlib.Logic.Function.Basic

/-!
# The processor core

`TargetCoreType` of `target_cpu.h` with the types it is made of: the general
registers, the system registers, the MPU unit and the exception flags.

The register bank of the source (`current_grp`, `current_bnk`) is 0 from reset
on and nothing writes it, so a system register is addressed by its selector
and its number alone.  The pointers `current_code` and `decoded_code` are
arguments of the functions that read through them.

* `SysReg`: the selector and number of each named system register.
* `TargetCore`: the state of one core.
* `TargetCore.getSysreg2`, `TargetCore.setSysreg2`: access to one register.
* `TargetCore.psw` and the `CPU_ISSET`, `CPU_SET` and `CPU_CLR` macros.
-/

namespace Athrill

open Bits

/-! ## Machine words -/

abbrev Byte := BitVec 8
abbrev HalfWord := BitVec 16
abbrev Word := BitVec 32
abbrev DoubleWord := BitVec 64

/-- `CoreIdType`, with `CPU_CONFIG_CORE_NUM` cores. -/
abbrev CoreId := Fin 2

/-! ## System registers -/

/-- A system register: its selector (`SYS_GRP_0` to `SYS_GRP_7`) and number. -/
structure SysReg where
  selid : Fin 8
  regid : Fin 32
  deriving DecidableEq, Repr

namespace SysReg

def eipc : SysReg := ⟨0, 0⟩
def eipsw : SysReg := ⟨0, 1⟩
def fepc : SysReg := ⟨0, 2⟩
def fepsw : SysReg := ⟨0, 3⟩
def psw : SysReg := ⟨0, 5⟩
def fpsr : SysReg := ⟨0, 6⟩
def fpepc : SysReg := ⟨0, 7⟩
def fpst : SysReg := ⟨0, 8⟩
def fpcc : SysReg := ⟨0, 9⟩
def fpcfg : SysReg := ⟨0, 10⟩
def fpec : SysReg := ⟨0, 11⟩
def eiic : SysReg := ⟨0, 13⟩
def feic : SysReg := ⟨0, 14⟩
def ctpc : SysReg := ⟨0, 16⟩
def ctpsw : SysReg := ⟨0, 17⟩
def ctbp : SysReg := ⟨0, 20⟩

/-- `SYS_REG_ECR` is the old name of `SYS_REG_EIIC`. -/
abbrev ecr : SysReg := eiic

def rbase : SysReg := ⟨1, 2⟩
def ebase : SysReg := ⟨1, 3⟩
def intbp : SysReg := ⟨1, 4⟩
def mctl : SysReg := ⟨1, 5⟩
def sccfg : SysReg := ⟨1, 11⟩
def scbp : SysReg := ⟨1, 12⟩

def htcfg0 : SysReg := ⟨2, 0⟩
def mea : SysReg := ⟨2, 6⟩
def asid : SysReg := ⟨2, 7⟩
def mei : SysReg := ⟨2, 8⟩
def ispr : SysReg := ⟨2, 10⟩
def pmr : SysReg := ⟨2, 11⟩
def icsr : SysReg := ⟨2, 12⟩
def intcfg : SysReg := ⟨2, 13⟩

def mpm : SysReg := ⟨5, 0⟩
def mprc : SysReg := ⟨5, 1⟩
def mpbrgn : SysReg := ⟨5, 4⟩
def mptrgn : SysReg := ⟨5, 5⟩
def mca : SysReg := ⟨5, 8⟩
def mcs : SysReg := ⟨5, 9⟩
def mcc : SysReg := ⟨5, 10⟩
def mcr : SysReg := ⟨5, 11⟩

end SysReg

/-! ## Exceptions raised by code -/

/-- `ExceptionIdType`. -/
inductive ExceptionId where
  | reset | fenmi | syserr1 | feint | fpi | userIntr | mip | syserr2 | rie | ucpop | pie
  | mae | mdp | fpp | syscall | fetrap | trap0 | trap1
  deriving DecidableEq, Repr

/-- `CodeExceptionType`; the type is `none` for `ExceptionId_Num`. -/
structure CodeException where
  isCodeException : Bool
  exceptionType : Option ExceptionId
  deriving DecidableEq, Repr

/-! ## MPU state -/

/-- `TargetMpuAccessType`. -/
inductive TargetMpuAccess where
  | none | read | write | exec
  deriving DecidableEq, Repr

/-- `TargetMpuExceptionErrorCodeType`. -/
inductive TargetMpuErrorCode where
  | none | mip | mdp
  deriving DecidableEq, Repr

/-- `TargetMpuEnableAccessType`. -/
structure TargetMpuEnableAccess where
  read : Bool
  write : Bool
  exec : Bool
  deriving DecidableEq, Repr

/-- `TargetMpuConfigType`: one decoded protection region. -/
structure TargetMpuConfig where
  addrStart : Word
  addrEnd : Word
  isEnable : Bool
  isEnableAccessSv : TargetMpuEnableAccess
  isEnableAccessUm : TargetMpuEnableAccess
  isEnableApplyConfig : Bool
  asid : HalfWord
  deriving DecidableEq, Repr

/-- `TargetMpuExceptionErrorintcInfoType`. -/
structure TargetMpuErrorIntcInfo where
  accessType : TargetMpuAccess
  exceptionErrorCode : TargetMpuErrorCode
  isSvMode : Bool
  isBlError : Bool
  isMsError : Bool
  isRmwError : Bool
  deriving DecidableEq, Repr

/-- `TargetMpuExceptionErrorInfoType`; the code is `none` for `OpCodeId_Num`. -/
structure TargetMpuErrorInfo where
  intcErrorInfo : TargetMpuErrorIntcInfo
  errorAddr : Word
  opCodeid : Option OpCodeId
  isErrorOccurred : Bool
  deriving DecidableEq, Repr

/-- `TargetMpuType`; the object container is the array of its elements. -/
structure TargetMpu where
  exceptionErrorInfo : TargetMpuErrorInfo
  permissionRegion : Fin 16 → TargetMpuConfig
  isEnableMpu : Bool
  isEnableSv : Bool
  isEnableOutsideProtectionRegion : TargetMpuEnableAccess

/-! ## One core -/

/-- `TargetCoreType`. -/
structure TargetCore where
  realElaps : Word
  coreId : CoreId
  pc : Word
  r : Fin 32 → Word
  sys : SysReg → Word
  isHalt : Bool
  currentCodeException : CodeException
  fatalError : Bool
  mpu : TargetMpu

namespace TargetCore

/-- Reading through `cpu_get_sysreg2`. -/
def getSysreg2 (cpu : TargetCore) (id : SysReg) : Word :=
  cpu.sys id

/-- Writing through `cpu_get_sysreg2`. -/
def setSysreg2 (cpu : TargetCore) (id : SysReg) (data : Word) : TargetCore :=
  { cpu with sys := Function.update cpu.sys id data }

section Access

variable (cpu : TargetCore) (id id' : SysReg) (data : Word)

@[simp] theorem getSysreg2_setSysreg2 :
    (cpu.setSysreg2 id data).getSysreg2 id = data := by
  simp [getSysreg2, setSysreg2]

theorem getSysreg2_setSysreg2_of_ne {id id' : SysReg} (h : id' ≠ id) :
    (cpu.setSysreg2 id data).getSysreg2 id' = cpu.getSysreg2 id' := by
  simp [getSysreg2, setSysreg2, Function.update_of_ne h]

@[simp] theorem pc_setSysreg2 : (cpu.setSysreg2 id data).pc = cpu.pc := rfl
@[simp] theorem r_setSysreg2 : (cpu.setSysreg2 id data).r = cpu.r := rfl
@[simp] theorem mpu_setSysreg2 : (cpu.setSysreg2 id data).mpu = cpu.mpu := rfl
@[simp] theorem isHalt_setSysreg2 : (cpu.setSysreg2 id data).isHalt = cpu.isHalt := rfl
@[simp] theorem coreId_setSysreg2 : (cpu.setSysreg2 id data).coreId = cpu.coreId := rfl
@[simp] theorem currentCodeException_setSysreg2 :
    (cpu.setSysreg2 id data).currentCodeException = cpu.currentCodeException := rfl

end Access

/-! ## The program status word -/

def psw (cpu : TargetCore) : Word :=
  cpu.getSysreg2 .psw

/-- The bit positions of `cpu_ops.h`. -/
def pswZ : Nat := 0
def pswS : Nat := 1
def pswOV : Nat := 2
def pswCY : Nat := 3
def pswSAT : Nat := 4
def pswID : Nat := 5
def pswEP : Nat := 6
def pswNP : Nat := 7
def pswEBV : Nat := 15
def pswUM : Nat := 30

/-- `CPU_ISSET_*`. -/
def issetPsw (cpu : TargetCore) (bit : Nat) : Bool :=
  cpu.psw.getLsbD bit

/-- `CPU_SET_*`. -/
def setPsw (cpu : TargetCore) (bit : Nat) : TargetCore :=
  cpu.setSysreg2 .psw (setBit cpu.psw bit)

/-- `CPU_CLR_*`. -/
def clrPsw (cpu : TargetCore) (bit : Nat) : TargetCore :=
  cpu.setSysreg2 .psw (clearBit cpu.psw bit)

@[simp] theorem psw_setPsw (cpu : TargetCore) (bit : Nat) :
    (cpu.setPsw bit).psw = setBit cpu.psw bit :=
  getSysreg2_setSysreg2 cpu .psw _

@[simp] theorem psw_clrPsw (cpu : TargetCore) (bit : Nat) :
    (cpu.clrPsw bit).psw = clearBit cpu.psw bit :=
  getSysreg2_setSysreg2 cpu .psw _

section PswFrame

variable (cpu : TargetCore) (bit : Nat)

@[simp] theorem pc_setPsw : (cpu.setPsw bit).pc = cpu.pc := rfl
@[simp] theorem r_setPsw : (cpu.setPsw bit).r = cpu.r := rfl
@[simp] theorem currentCodeException_setPsw :
    (cpu.setPsw bit).currentCodeException = cpu.currentCodeException := rfl

@[simp] theorem pc_clrPsw : (cpu.clrPsw bit).pc = cpu.pc := rfl
@[simp] theorem r_clrPsw : (cpu.clrPsw bit).r = cpu.r := rfl
@[simp] theorem currentCodeException_clrPsw :
    (cpu.clrPsw bit).currentCodeException = cpu.currentCodeException := rfl

end PswFrame

abbrev issetUM (cpu : TargetCore) : Bool := cpu.issetPsw pswUM
abbrev issetEP (cpu : TargetCore) : Bool := cpu.issetPsw pswEP
abbrev issetNP (cpu : TargetCore) : Bool := cpu.issetPsw pswNP
abbrev issetID (cpu : TargetCore) : Bool := cpu.issetPsw pswID
abbrev issetEBV (cpu : TargetCore) : Bool := cpu.issetPsw pswEBV

end TargetCore

end Athrill
