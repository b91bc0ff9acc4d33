import Athrill.Exec.Ops
import Athrill.Mpu.Permission

/-!
# Steps that keep the privileged state

`OrdinaryStep` says what an instruction without privilege leaves alone: every
system register but the flags of `PSW` and the floating-point status registers,
the protection regions and the halt flag.  The steps the executors are made of
have the property, so the class `Keeps OrdinaryStep` is found for an executor
from its shape.

* `OrdinaryStep`: the relation between the states before and after.
* `platform`-independent instances for reads, writes and flags.
-/

namespace Athrill

open TargetCore Routine Bits

variable {D : Type}

/-- The flags of `PSW` that every instruction may write: `Z`, `S`, `OV`, `CY`
and `SAT`. -/
def pswUmMask : Word := 0x0000001F

/-- The floating-point registers that instructions write as a side effect. -/
def fpuStatusRegs : List SysReg := [.fpsr, .fpst, .fpcc]

/-- What an unprivileged step keeps. -/
structure OrdinaryStep (s s' : CpuState D) : Prop where
  sys : ∀ id, id ≠ .psw → id ∉ fpuStatusRegs → s'.cpu.getSysreg2 id = s.cpu.getSysreg2 id
  psw : AgreeOff pswUmMask s.cpu.psw s'.cpu.psw
  mpu : ∃ info, s'.cpu.mpu = { s.cpu.mpu with exceptionErrorInfo := info }
  isHalt : s'.cpu.isHalt = s.cpu.isHalt
  coreId : s'.cpu.coreId = s.cpu.coreId

instance : Std.Refl (OrdinaryStep (D := D)) where
  refl _ := ⟨fun _ _ _ => rfl, AgreeOff.refl _ _, ⟨_, rfl⟩, rfl, rfl⟩

instance : IsTrans (CpuState D) OrdinaryStep where
  trans a b c hab hbc := by
    obtain ⟨info, hmpu⟩ := hab.mpu
    obtain ⟨info', hmpu'⟩ := hbc.mpu
    refine ⟨fun id hpsw hfpu => ?_, hab.psw.trans hbc.psw, ⟨info', ?_⟩, ?_, ?_⟩
    · rw [hbc.sys id hpsw hfpu, hab.sys id hpsw hfpu]
    · rw [hmpu', hmpu]
    · rw [hbc.isHalt, hab.isHalt]
    · rw [hbc.coreId, hab.coreId]

namespace Exec

/-! ## Steps that write no system register -/

/-- A change of the core outside its system registers and protection regions. -/
theorem keeps_modifyCpu {f : TargetCore → TargetCore} (hsys : ∀ cpu, (f cpu).sys = cpu.sys)
    (hmpu : ∀ cpu, (f cpu).mpu = cpu.mpu) (hhalt : ∀ cpu, (f cpu).isHalt = cpu.isHalt)
    (hcore : ∀ cpu, (f cpu).coreId = cpu.coreId) :
    Keeps OrdinaryStep (modifyCpu f : Exec D Unit) := by
  refine keeps_modify fun s => ⟨fun id _ _ => ?_, ?_, ⟨s.cpu.mpu.exceptionErrorInfo, ?_⟩, ?_, ?_⟩
  · simp only [getSysreg2, hsys]
  · simp only [TargetCore.psw, getSysreg2, hsys]
    exact AgreeOff.refl _ _
  · rw [hmpu]
  · rw [hhalt]
  · rw [hcore]

instance keeps_fail {α : Type} : Keeps OrdinaryStep (fail : Exec D α) :=
  keeps_stop _

instance keeps_undefined {α : Type} : Keeps OrdinaryStep (undefined : Exec D α) :=
  keeps_stop _

instance keeps_getCpu {α : Type} (f : TargetCore → α) :
    Keeps OrdinaryStep (getCpu f : Exec D α) :=
  keeps_gets _

instance keeps_getR (n : Nat) : Keeps OrdinaryStep (getR n : Exec D Word) := by
  unfold getR
  infer_instance

instance keeps_setR (n : Nat) (data : Word) : Keeps OrdinaryStep (setR n data : Exec D Unit) := by
  have hwrite : ∀ i : Fin 32, Keeps OrdinaryStep
      (modifyCpu fun cpu => { cpu with r := Function.update cpu.r i data } : Exec D Unit) :=
    fun i => keeps_modifyCpu (fun _ => rfl) (fun _ => rfl) (fun _ => rfl) fun _ => rfl
  unfold setR
  infer_instance

instance keeps_getPc : Keeps OrdinaryStep (getPc : Exec D Word) :=
  keeps_gets _

instance keeps_getPcAdd (n : Word) : Keeps OrdinaryStep (getPcAdd n : Exec D Word) :=
  keeps_gets _

instance keeps_setPc (pc : Word) : Keeps OrdinaryStep (setPc pc : Exec D Unit) :=
  keeps_modifyCpu (fun _ => rfl) (fun _ => rfl) (fun _ => rfl) fun _ => rfl

instance keeps_addPc (n : Word) : Keeps OrdinaryStep (addPc n : Exec D Unit) :=
  keeps_modifyCpu (fun _ => rfl) (fun _ => rfl) (fun _ => rfl) fun _ => rfl

instance keeps_failIf (c : Prop) [Decidable c] : Keeps OrdinaryStep (failIf c : Exec D Unit) := by
  unfold failIf
  infer_instance

instance keeps_checkReg (n : Nat) : Keeps OrdinaryStep (checkReg n : Exec D Unit) :=
  keeps_failIf _

/-! ## Flags -/

/-- A write to one of the five flags. -/
theorem keeps_putPsw {bit : Nat} (hbit : pswUmMask.getLsbD bit = true) (flag : Bool) :
    Keeps OrdinaryStep (putPsw bit flag : Exec D Unit) := by
  refine keeps_modify fun s => ?_
  cases flag with
  | true =>
    refine ⟨fun id hid _ => getSysreg2_setSysreg2_of_ne _ _ hid, ?_, ⟨_, rfl⟩, rfl, rfl⟩
    simp only [if_true, setPsw, TargetCore.psw, getSysreg2_setSysreg2]
    exact agreeOff_setBit hbit
  | false =>
    refine ⟨fun id hid _ => getSysreg2_setSysreg2_of_ne _ _ hid, ?_, ⟨_, rfl⟩, rfl, rfl⟩
    simp only [Bool.false_eq_true, if_false, clrPsw, TargetCore.psw, getSysreg2_setSysreg2]
    exact agreeOff_clearBit hbit

instance keeps_setZ (flag : Bool) : Keeps OrdinaryStep (setZ flag : Exec D Unit) :=
  keeps_putPsw rfl flag

instance keeps_setS (flag : Bool) : Keeps OrdinaryStep (setS flag : Exec D Unit) :=
  keeps_putPsw rfl flag

instance keeps_setOV (flag : Bool) : Keeps OrdinaryStep (setOV flag : Exec D Unit) :=
  keeps_putPsw rfl flag

instance keeps_setCY (flag : Bool) : Keeps OrdinaryStep (setCY flag : Exec D Unit) :=
  keeps_putPsw rfl flag

instance keeps_setSAT (flag : Bool) : Keeps OrdinaryStep (setSAT flag : Exec D Unit) :=
  keeps_putPsw rfl flag

/-! ## The bus -/

/-- A bus access changes nothing but its view of the state. -/
theorem ordinaryStep_withView (s : CpuState D) (v : BusView D) :
    OrdinaryStep s (s.withView v) :=
  ⟨fun _ _ _ => rfl, AgreeOff.refl _ _, ⟨_, rfl⟩, rfl, rfl⟩

instance keeps_busAccess {α : Type} (access : CpuState D → Option α × BusView D) :
    Keeps OrdinaryStep (busAccess access : Exec D α) := by
  refine keeps_lift fun s => ?_
  cases access s with
  | mk result v => cases result <;> exact ordinaryStep_withView s v

section Bus

variable (bus : Bus D) (addr : Word)

instance : Keeps OrdinaryStep (busGetData8 bus addr) := keeps_busAccess _
instance : Keeps OrdinaryStep (busGetData16 bus addr) := keeps_busAccess _
instance : Keeps OrdinaryStep (busGetData32 bus addr) := keeps_busAccess _
instance (data : Byte) : Keeps OrdinaryStep (busPutData8 bus addr data) := keeps_busAccess _
instance (data : HalfWord) : Keeps OrdinaryStep (busPutData16 bus addr data) := keeps_busAccess _
instance (data : Word) : Keeps OrdinaryStep (busPutData32 bus addr data) := keeps_busAccess _
instance : Keeps OrdinaryStep (busGetPointer bus addr) := keeps_busAccess _
instance (data : Word) : Keeps OrdinaryStep (busStorePointer bus addr data) := keeps_busAccess _

end Bus

end Exec

end Athrill
