import Athrill.Cpu.Machine
import Athrill.Dec.Format

/-!
# Flags, extensions and conditions

`cpu_ops.h` and the helpers at the head of `op_exec_arithm.c` and
`op_exec_branch.c`: what the executors share.  General registers are `sint32`
in the source; a register that is widened is read with `toInt`, one that went
through a `uint32` with `toNat`.

* `setCY` to `setSAT`: the flags of `PSW`.
* `opChkAndSetCarry` and the other flag helpers.
* `opAddi` to `opXori`: the operations of `cpu_ops.h`.
* `opExecCond`, `setfChkCond`: the two evaluators of a condition code.
-/

namespace Athrill

open TargetCore Routine

namespace Exec

variable {D : Type}

/-! ## Flags -/

/-- A bit of `PSW` is set or cleared. -/
def putPsw (bit : Nat) (flag : Bool) : Exec D Unit :=
  modifyCpu fun cpu => if flag then cpu.setPsw bit else cpu.clrPsw bit

def setZ (flag : Bool) : Exec D Unit := putPsw pswZ flag
def setS (flag : Bool) : Exec D Unit := putPsw pswS flag
def setOV (flag : Bool) : Exec D Unit := putPsw pswOV flag
def setCY (flag : Bool) : Exec D Unit := putPsw pswCY flag
def setSAT (flag : Bool) : Exec D Unit := putPsw pswSAT flag

/-- `CPU_REG_PLUS_MAX`. -/
def cpuRegPlusMax : Int := 2147483647

/-- `CPU_REG_MINUS_MAX`. -/
def cpuRegMinusMax : Int := -2147483648

abbrev opChkAndSetCarry (a b : Word) : Exec D Unit :=
  setCY (decide (0xFFFFFFFF < a.toNat + b.toNat))

abbrev opChkAndSetCarry3 (a b c : Word) : Exec D Unit :=
  setCY (decide (0xFFFFFFFF < a.toNat + b.toNat + c.toNat))

/-- Bit 32 of the difference, computed in 64 bits. -/
abbrev opChkAndSetBorrow (a b : Word) : Exec D Unit :=
  setCY ((a.setWidth 64 - b.setWidth 64).getLsbD 32)

abbrev opChkAndSetBorrow3 (a b c : Word) : Exec D Unit :=
  setCY ((a.setWidth 64 - b.setWidth 64 - c.setWidth 64).getLsbD 32)

abbrev opChkAndSetOverflow (a b : Int) : Exec D Unit :=
  setOV (decide (cpuRegPlusMax < a + b) || decide (a + b < cpuRegMinusMax))

abbrev opChkAndSetOverflow3 (a b c : Int) : Exec D Unit :=
  setOV (decide (cpuRegPlusMax < a + b + c) || decide (a + b + c < cpuRegMinusMax))

abbrev opChkAndSetZero (result : Word) : Exec D Unit :=
  setZ (decide (result = 0))

abbrev opChkAndSetSign (result : Word) : Exec D Unit :=
  setS result.msb

end Exec

/-! ## Extensions -/

/-- `op_sign_extend`: with bit `bit` set, the bits from there on are set. -/
def opSignExtend (bit : Nat) (data : Word) : Word :=
  if data.getLsbD bit then data ||| (BitVec.allOnes 32 <<< bit) else data

/-- `op_zero_extend`: the bits from `bit` on are cleared. -/
def opZeroExtend (bit : Nat) (data : Word) : Word :=
  data &&& ~~~(BitVec.allOnes 32 <<< bit)

/-- `OP_FORMAT2_IMM_SIGN_EXTEND`. -/
def opFormat2ImmSignExtend (data : Word) : Word := opSignExtend 4 data

/-- `OP_FORMAT2_IMM_ZERO_EXTEND`. -/
def opFormat2ImmZeroExtend (data : Word) : Word := opZeroExtend 5 data

/-- `(sint32)(sint16)data`. -/
def signExtend16 (data : Word) : Word := (data.setWidth 16).signExtend 32

namespace Exec

variable {D : Type}

/-! ## Operations -/

abbrev opAddi (imm reg1 : Word) : Exec D Word := do
  let result := reg1 + imm
  opChkAndSetCarry imm reg1
  opChkAndSetOverflow imm.toInt reg1.toInt
  opChkAndSetZero result
  opChkAndSetSign result
  pure result

abbrev opAndi (imm reg1 : Word) : Exec D Word := do
  let result := reg1 &&& imm
  opChkAndSetZero result
  opChkAndSetSign result
  setOV false
  pure result

abbrev opAnd (reg2 reg1 : Word) : Exec D Word := do
  let result := reg1 &&& reg2
  opChkAndSetZero result
  opChkAndSetSign result
  setOV false
  pure result

abbrev opOr (reg2 reg1 : Word) : Exec D Word := do
  let result := reg1 ||| reg2
  opChkAndSetZero result
  opChkAndSetSign result
  setOV false
  pure result

def opMovea (imm reg1 : Word) : Word := reg1 + imm

def opMovhi (imm reg1 : Word) : Word := reg1 + (imm <<< 16)

def opMulhi (imm reg1 : Word) : Word := reg1 * imm

/-- `op_ori`; the overflow flag is kept. -/
abbrev opOri (imm : HalfWord) (reg1 : Word) : Exec D Word := do
  let result := reg1 ||| imm.setWidth 32
  setZ (decide (result = 0))
  setS result.msb
  pure result

abbrev opXori (imm : HalfWord) (reg1 : Word) : Exec D Word := do
  let result := reg1 ^^^ imm.setWidth 32
  setZ (decide (result = 0))
  setS result.msb
  setOV false
  pure result

/-- `op_satadd`; the right operand is a `sint64`, and the saturation flag is
never cleared. -/
abbrev opSatadd (dataL : Word) (dataR : Int) : Exec D Word := do
  let ret64 := dataL.toInt + dataR
  opChkAndSetCarry dataL (BitVec.ofInt 32 dataR)
  opChkAndSetOverflow dataL.toInt dataR
  (if cpuRegPlusMax < ret64 ∨ ret64 < cpuRegMinusMax then setSAT true else pure ())
  setS (decide (ret64 < 0))
  setZ (decide (ret64 = 0))
  pure (if cpuRegPlusMax < ret64 then BitVec.ofInt 32 cpuRegPlusMax
    else if ret64 < cpuRegMinusMax then BitVec.ofInt 32 cpuRegMinusMax
    else BitVec.ofInt 32 ret64)

/-! ## Conditions -/

/-- `op_exec_cond`. -/
def opExecCond (cpu : TargetCore) (cond : HalfWord) : Bool :=
  let flgS := cpu.issetPsw pswS
  let flgOv := cpu.issetPsw pswOV
  let flgZ := cpu.issetPsw pswZ
  let flgCy := cpu.issetPsw pswCY
  let flgSat := cpu.issetPsw pswSAT
  match cond.toNat with
  | 0b1110 => !(flgS ^^ flgOv)
  | 0b1111 => !((flgS ^^ flgOv) || flgZ)
  | 0b0111 => (flgS ^^ flgOv) || flgZ
  | 0b0110 => flgS ^^ flgOv
  | 0b1011 => !(flgCy || flgZ)
  | 0b0001 => flgCy
  | 0b0011 => flgCy || flgZ
  | 0b1001 => !flgCy
  | 0b0010 => flgZ
  | 0b1010 => !flgZ
  | 0b0100 => flgS
  | 0b1000 => !flgOv
  | 0b1100 => !flgS
  | 0b0101 => true
  | 0b1101 => flgSat
  | 0b0000 => flgOv
  | _ => false

/-- `setf_chk_cond`; it differs from `op_exec_cond` on the condition `SA`. -/
def setfChkCond (cpu : TargetCore) (cond : HalfWord) : Bool :=
  let flgS := cpu.issetPsw pswS
  let flgOv := cpu.issetPsw pswOV
  let flgZ := cpu.issetPsw pswZ
  let flgCy := cpu.issetPsw pswCY
  let flgSat := cpu.issetPsw pswSAT
  match cond.toNat with
  | 0b0000 => flgOv
  | 0b0001 => flgCy
  | 0b0010 => flgZ
  | 0b0011 => flgCy || flgZ
  | 0b0100 => flgS
  | 0b0101 => true
  | 0b0110 => flgS ^^ flgOv
  | 0b0111 => (flgS ^^ flgOv) || flgZ
  | 0b1000 => !flgOv
  | 0b1001 => !flgCy
  | 0b1010 => !flgZ
  | 0b1011 => !(flgCy || flgZ)
  | 0b1100 => !flgS
  | 0b1101 => !flgSat
  | 0b1110 => !(flgS ^^ flgOv)
  | 0b1111 => !((flgS ^^ flgOv) || flgZ)
  | _ => false

/-! ## Shared steps -/

theorem run_failIf {c : Prop} [Decidable c] (hc : ¬ c) (s : CpuState D) :
    (failIf c).run s = (.ok (), s) := by
  unfold failIf
  rw [if_neg hc]
  rfl

/-- The check of a register number that opens most executors. -/
def checkReg (n : Nat) : Exec D Unit :=
  failIf (32 ≤ n)

theorem run_checkReg {n : Nat} (hn : n < 32) (s : CpuState D) :
    (checkReg n).run s = (.ok (), s) :=
  run_failIf (Nat.not_le.mpr hn) s

/-- An executor that ends has passed its checks. -/
theorem checkReg_ok {n : Nat} {x : Exec D Unit} {s s' : CpuState D}
    (h : (checkReg n >>= fun _ => x).run s = (.ok (), s')) : n < 32 ∧ x.run s = (.ok (), s') := by
  by_cases hn : n < 32
  · rw [run_bind, run_checkReg hn] at h
    exact ⟨hn, h⟩
  · unfold checkReg failIf at h
    rw [if_pos (by omega)] at h
    cases h

/-- `cpu->reg.pc` plus an offset. -/
def getPcAdd (n : Word) : Exec D Word :=
  getCpu fun cpu => cpu.pc + n

end Exec

end Athrill
