import Athrill.Exec.Ops

/-!
# Logical, shift and byte-order instructions

`op_exec_logic.c`.  The three-operand shifts set `Z` and `S` from `reg2`, not
from the result, and the one of `SAR` shifts a `uint32`.  The byte-order
instructions of format 12 go on by two bytes.
-/

namespace Athrill

namespace Exec

variable {D : Type}

/-! ## Format 1 -/

abbrev opExecOr (d : OpCodeFormatType1) : Exec D Unit := do
  checkReg d.reg1.toNat
  checkReg d.reg2.toNat
  let reg2 ← getR d.reg2.toNat
  let reg1 ← getR d.reg1.toNat
  let result ← opOr reg2 reg1
  setR d.reg2.toNat result
  addPc 2

/-- The shape of `ZXB`, `ZXH`, `SXB` and `SXH`: `reg1` is extended in place. -/
abbrev opExecExtend (extend : Word → Word) (d : OpCodeFormatType1) : Exec D Unit := do
  checkReg d.reg1.toNat
  let reg1 ← getR d.reg1.toNat
  setR d.reg1.toNat (extend reg1)
  addPc 2

abbrev opExecZxb (d : OpCodeFormatType1) : Exec D Unit :=
  opExecExtend (fun reg1 => (reg1.setWidth 8).setWidth 32) d

abbrev opExecZxh (d : OpCodeFormatType1) : Exec D Unit :=
  opExecExtend (fun reg1 => (reg1.setWidth 16).setWidth 32) d

abbrev opExecSxb (d : OpCodeFormatType1) : Exec D Unit :=
  opExecExtend (fun reg1 => (reg1.setWidth 8).signExtend 32) d

abbrev opExecSxh (d : OpCodeFormatType1) : Exec D Unit :=
  opExecExtend (fun reg1 => (reg1.setWidth 16).signExtend 32) d

abbrev opExecTst (d : OpCodeFormatType1) : Exec D Unit := do
  checkReg d.reg1.toNat
  checkReg d.reg2.toNat
  let reg2 ← getR d.reg2.toNat
  let reg1 ← getR d.reg1.toNat
  let _ ← opAnd reg2 reg1
  addPc 2

abbrev opExecAnd (d : OpCodeFormatType1) : Exec D Unit := do
  checkReg d.reg1.toNat
  checkReg d.reg2.toNat
  let reg2 ← getR d.reg2.toNat
  let reg1 ← getR d.reg1.toNat
  let result ← opAnd reg2 reg1
  setR d.reg2.toNat result
  addPc 2

abbrev opExecNot (d : OpCodeFormatType1) : Exec D Unit := do
  checkReg d.reg1.toNat
  checkReg d.reg2.toNat
  let reg1 ← getR d.reg1.toNat
  let result := ~~~reg1
  setR d.reg2.toNat result
  opChkAndSetZero result
  opChkAndSetSign result
  setOV false
  addPc 2

abbrev opExecXor (d : OpCodeFormatType1) : Exec D Unit := do
  checkReg d.reg1.toNat
  checkReg d.reg2.toNat
  let reg2 ← getR d.reg2.toNat
  let reg1 ← getR d.reg1.toNat
  let result := reg2 ^^^ reg1
  setR d.reg2.toNat result
  opChkAndSetZero result
  opChkAndSetSign result
  setOV false
  addPc 2

/-! ## Shifts -/

/-- `op_chk_and_set_shl_carry`. -/
abbrev opChkAndSetShlCarry (data : Word) (sh : Nat) : Exec D Unit :=
  setCY (decide (0 < sh) && data.getLsbD (32 - sh))

/-- `op_chk_and_set_shr_carry`. -/
abbrev opChkAndSetShrCarry (data : Word) (sh : Nat) : Exec D Unit :=
  setCY (decide (0 < sh) && data.getLsbD (sh - 1))

/-- A shift with its carry. -/
structure Shift (D : Type) where
  shift : Word → Nat → Word
  carry : Word → Nat → Exec D Unit

abbrev shl : Shift D := ⟨fun data sh => data <<< sh, opChkAndSetShlCarry⟩
abbrev shr : Shift D := ⟨fun data sh => data >>> sh, opChkAndSetShrCarry⟩
abbrev sar : Shift D := ⟨BitVec.sshiftRight, opChkAndSetShrCarry⟩

/-- The shifts by an immediate. -/
abbrev opExecShift2 (sh : Shift D) (d : OpCodeFormatType2) : Exec D Unit := do
  checkReg d.reg2.toNat
  let reg2 ← getR d.reg2.toNat
  let imm := (opFormat2ImmZeroExtend d.imm).toNat
  let result := sh.shift reg2 imm
  setR d.reg2.toNat result
  setOV false
  sh.carry reg2 imm
  opChkAndSetZero result
  opChkAndSetSign result
  addPc 2

abbrev opExecShl2 (d : OpCodeFormatType2) : Exec D Unit := opExecShift2 shl d
abbrev opExecShr2 (d : OpCodeFormatType2) : Exec D Unit := opExecShift2 shr d
abbrev opExecSar2 (d : OpCodeFormatType2) : Exec D Unit := opExecShift2 sar d

/-- The shifts by a register. -/
abbrev opExecShift9 (sh : Shift D) (d : OpCodeFormatType9) : Exec D Unit := do
  checkReg d.gen.toNat
  checkReg d.reg2.toNat
  let reg2 ← getR d.reg2.toNat
  let reg1 ← getR d.gen.toNat
  let count := (reg1 &&& 0x1F).toNat
  let result := sh.shift reg2 count
  setR d.reg2.toNat result
  setOV false
  sh.carry reg2 count
  opChkAndSetZero result
  opChkAndSetSign result
  addPc 4

abbrev opExecShl9 (d : OpCodeFormatType9) : Exec D Unit := opExecShift9 shl d
abbrev opExecShr9 (d : OpCodeFormatType9) : Exec D Unit := opExecShift9 shr d
abbrev opExecSar9 (d : OpCodeFormatType9) : Exec D Unit := opExecShift9 sar d

/-- The shifts into a third register; `Z` and `S` are set from `reg2`. -/
abbrev opExecShift11 (sh : Shift D) (d : OpCodeFormatType11) : Exec D Unit := do
  checkReg d.reg1.toNat
  checkReg d.reg2.toNat
  checkReg d.reg3.toNat
  let reg2 ← getR d.reg2.toNat
  let reg1 ← getR d.reg1.toNat
  let count := (reg1 &&& 0x1F).toNat
  setR d.reg3.toNat (sh.shift reg2 count)
  setOV false
  sh.carry reg2 count
  let flagData ← getR d.reg2.toNat
  opChkAndSetZero flagData
  opChkAndSetSign flagData
  addPc 4

abbrev opExecShl11 (d : OpCodeFormatType11) : Exec D Unit := opExecShift11 shl d
abbrev opExecShr11 (d : OpCodeFormatType11) : Exec D Unit := opExecShift11 shr d

/-- `op_exec_sar_11`; its operand is a `uint32`, so no sign comes in. -/
abbrev opExecSar11 (d : OpCodeFormatType11) : Exec D Unit := opExecShift11 shr d

/-! ## Format 6 -/

abbrev opExecAndi (d : OpCodeFormatType6) : Exec D Unit := do
  checkReg d.reg1.toNat
  checkReg d.reg2.toNat
  let reg1 ← getR d.reg1.toNat
  let result ← opAndi (opZeroExtend 16 d.imm) reg1
  setR d.reg2.toNat result
  addPc 4

abbrev opExecOri (d : OpCodeFormatType6) : Exec D Unit := do
  checkReg d.reg1.toNat
  checkReg d.reg2.toNat
  let reg1 ← getR d.reg1.toNat
  let result ← opOri ((opZeroExtend 16 d.imm).setWidth 16) reg1
  setR d.reg2.toNat result
  addPc 4

abbrev opExecXori (d : OpCodeFormatType6) : Exec D Unit := do
  checkReg d.reg1.toNat
  checkReg d.reg2.toNat
  let reg1 ← getR d.reg1.toNat
  let result ← opXori ((opZeroExtend 16 d.imm).setWidth 16) reg1
  setR d.reg2.toNat result
  addPc 4

/-! ## Format 12 -/

/-- The byte of a word that starts at bit `shift`. -/
def byteAt (data : Word) (shift : Nat) : Word :=
  (data >>> shift) &&& 0xFF

/-- `HSH`: the word is copied, the flags look at its low half. -/
abbrev opExecHsh12 (d : OpCodeFormatType12) : Exec D Unit := do
  let result ← getR d.reg2.toNat
  setCY (decide (result &&& 0x0000FFFF = 0))
  setZ (decide (result &&& 0x0000FFFF = 0))
  setOV false
  setS result.msb
  setR d.reg3.toNat result
  addPc 2

/-- `HSW`: the halves are swapped. -/
abbrev opExecHsw12 (d : OpCodeFormatType12) : Exec D Unit := do
  let reg2 ← getR d.reg2.toNat
  let resultHalfUp := (reg2 &&& 0xFFFF0000) >>> 16
  let resultHalfDw := (reg2 &&& 0x0000FFFF) <<< 16
  let result := resultHalfDw ||| resultHalfUp
  setCY (decide (resultHalfDw = 0) || decide (resultHalfUp = 0))
  setOV false
  setZ (decide (result = 0))
  setS result.msb
  setR d.reg3.toNat result
  addPc 2

/-- `BSH`: the bytes of each half are swapped. -/
abbrev opExecBsh12 (d : OpCodeFormatType12) : Exec D Unit := do
  let reg2 ← getR d.reg2.toNat
  let result := (byteAt reg2 16 <<< 24) ||| (byteAt reg2 24 <<< 16) |||
    (byteAt reg2 0 <<< 8) ||| byteAt reg2 8
  setCY (decide (result &&& 0x000000FF = 0) || decide (result &&& 0x0000FF00 = 0))
  setOV false
  setS result.msb
  setZ (decide (result &&& 0x0000FFFF = 0))
  setR d.reg3.toNat result
  addPc 2

/-- `BSW`: the four bytes are reversed. -/
abbrev opExecBsw12 (d : OpCodeFormatType12) : Exec D Unit := do
  let reg2 ← getR d.reg2.toNat
  let result := (byteAt reg2 0 <<< 24) ||| (byteAt reg2 8 <<< 16) |||
    (byteAt reg2 16 <<< 8) ||| byteAt reg2 24
  setCY (decide (result &&& 0x000000FF = 0) || decide (result &&& 0x0000FF00 = 0) ||
    decide (result &&& 0x00FF0000 = 0) || decide (result &&& 0xFF000000 = 0))
  setOV false
  setS result.msb
  setZ (decide (result &&& 0x0000FFFF = 0))
  setR d.reg3.toNat result
  addPc 2

end Exec

end Athrill
