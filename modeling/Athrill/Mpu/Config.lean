import Athrill.Cpu.Registers

/-!
# The MPU registers and their decoded copy

`mpu_init`, `mpu_set_config` and `target_mpu_init`.  The MPU keeps a decoded
copy of the region registers in `cpu->mpu`; the permission checks read that
copy, and `mpuSetConfig` makes it from the registers.

* `mpla`, `mpua`, `mpat`: the registers of each of the 16 regions.
* `mpuSetConfig`: the whole copy, made again from the registers.
* `ConfigSynced`: the copy is up to date.
-/

namespace Athrill

open TargetCore

/-! ## Region registers -/

/-- Register `off` of the block of four registers of region `index`: regions
0 to 7 are in `SYS_GRP_6`, regions 8 to 15 in `SYS_GRP_7`. -/
def regionReg (index : Fin 16) (off : Fin 3) : SysReg where
  selid := if index.val < 8 then 6 else 7
  regid := ⟨index.val % 8 * 4 + off.val, by omega⟩

abbrev mpla (index : Fin 16) : SysReg := regionReg index 0
abbrev mpua (index : Fin 16) : SysReg := regionReg index 1
abbrev mpat (index : Fin 16) : SysReg := regionReg index 2

theorem regionReg_inj {i j : Fin 16} {a b : Fin 3} :
    regionReg i a = regionReg j b ↔ i = j ∧ a = b := by
  refine ⟨fun h => ?_, fun ⟨hi, ha⟩ => by rw [hi, ha]⟩
  revert i j a b
  decide

/-! ## Bits of the MPU registers -/

def mpmMPE : Nat := 0
def mpmSVP : Nat := 1

def mpatUR : Nat := 0
def mpatUW : Nat := 1
def mpatUX : Nat := 2
def mpatSR : Nat := 3
def mpatSW : Nat := 4
def mpatSX : Nat := 5
def mpatG : Nat := 6
def mpatE : Nat := 7

/-- `TARGET_MPU_SYSREG_MPAT_GET_ASID`, stored in a `uint16`. -/
def mpatGetAsid (data : Word) : HalfWord :=
  ((data &&& 0x03FF0000#32) >>> 16).truncate 16

/-- `TARGET_MPU_ADDR_START_MASK`. -/
def addrStartMask (addr : Word) : Word := addr &&& 0xFFFFFFFC#32

/-- `TARGET_MPU_ADDR_END_MASK`. -/
def addrEndMask (addr : Word) : Word := addr ||| 0x3#32

/-! ## Initial values -/

/-- `mpu_init`: the lower and upper bounds keep the values they have. -/
def mpuInit (cpu : TargetCore) : TargetCore :=
  let cpu := cpu.setSysreg2 .mpm 0
  let cpu := cpu.setSysreg2 .mprc 0
  let cpu := cpu.setSysreg2 .mpbrgn 0
  let cpu := cpu.setSysreg2 .mptrgn 0x10
  let cpu := (List.finRange 16).foldl (fun cpu index => cpu.setSysreg2 (mpat index) 0) cpu
  cpu.setSysreg2 .mcc 0

/-! ## Decoding -/

/-- One pass of the loop of `mpu_set_config`. -/
def mpuConfigObj (cpu : TargetCore) (index : Fin 16) : TargetMpuConfig :=
  let at' := cpu.getSysreg2 (mpat index)
  { addrStart := addrStartMask (cpu.getSysreg2 (mpla index))
    addrEnd := addrEndMask (cpu.getSysreg2 (mpua index))
    isEnable := at'.getLsbD mpatE
    isEnableApplyConfig := at'.getLsbD mpatG
    isEnableAccessSv :=
      { exec := at'.getLsbD mpatSX, write := at'.getLsbD mpatSW, read := at'.getLsbD mpatSR }
    isEnableAccessUm :=
      { exec := at'.getLsbD mpatUX, write := at'.getLsbD mpatUW, read := at'.getLsbD mpatUR }
    asid := mpatGetAsid at' }

/-- `mpu_set_config`. -/
def mpuSetConfig (cpu : TargetCore) : TargetCore :=
  { cpu with
    mpu :=
      { cpu.mpu with
        isEnableMpu := (cpu.getSysreg2 .mpm).getLsbD mpmMPE
        isEnableSv := (cpu.getSysreg2 .mpm).getLsbD mpmSVP
        isEnableOutsideProtectionRegion := { read := false, write := false, exec := false }
        permissionRegion := mpuConfigObj cpu } }

/-- `target_mpu_init`. -/
def targetMpuInit (cpu : TargetCore) : TargetCore :=
  let cpu := mpuSetConfig (mpuInit cpu)
  { cpu with
    mpu :=
      { cpu.mpu with
        exceptionErrorInfo :=
          { intcErrorInfo :=
              { accessType := .none, exceptionErrorCode := .none, isSvMode := false
                isBlError := false, isMsError := false, isRmwError := false }
            errorAddr := 0
            opCodeid := none
            isErrorOccurred := false } } }

section Frame

variable (cpu : TargetCore)

@[simp] theorem sys_mpuSetConfig : (mpuSetConfig cpu).sys = cpu.sys := rfl
@[simp] theorem getSysreg2_mpuSetConfig (id : SysReg) :
    (mpuSetConfig cpu).getSysreg2 id = cpu.getSysreg2 id := rfl
@[simp] theorem psw_mpuSetConfig : (mpuSetConfig cpu).psw = cpu.psw := rfl
@[simp] theorem issetPsw_mpuSetConfig (bit : Nat) :
    (mpuSetConfig cpu).issetPsw bit = cpu.issetPsw bit := rfl
@[simp] theorem pc_mpuSetConfig : (mpuSetConfig cpu).pc = cpu.pc := rfl
@[simp] theorem r_mpuSetConfig : (mpuSetConfig cpu).r = cpu.r := rfl

end Frame

/-! ## The copy agrees with the registers -/

/-- The decoded copy is the one `mpu_set_config` makes from the registers. -/
def ConfigSynced (cpu : TargetCore) : Prop :=
  mpuSetConfig cpu = cpu

theorem configSynced_mpuSetConfig (cpu : TargetCore) : ConfigSynced (mpuSetConfig cpu) :=
  rfl

end Athrill
