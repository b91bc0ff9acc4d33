import Athrill.Exec.Ops

/-!
# Arithmetic instructions

`op_exec_arithm.c`, `op_exec_arithm_rh850.c` and `op_exec_sat.c`.  Each executor
keeps the name of its function and takes the operands of its format.

A division by zero after the check, and the quotient of the most negative
number and -1, have no defined value in C.
-/

namespace Athrill

namespace Exec

variable {D : Type}

/-! ## Format 1 -/

abbrev opExecSub (d : OpCodeFormatType1) : Exec D Unit := do
  checkReg d.reg1.toNat
  checkReg d.reg2.toNat
  let reg2 ← getR d.reg2.toNat
  let reg1 ← getR d.reg1.toNat
  let result := reg2 - reg1
  setR d.reg2.toNat result
  opChkAndSetBorrow reg2 reg1
  opChkAndSetOverflow reg2.toInt (-reg1.toInt)
  opChkAndSetZero result
  opChkAndSetSign result
  addPc 2

abbrev opExecSubr (d : OpCodeFormatType1) : Exec D Unit := do
  checkReg d.reg1.toNat
  checkReg d.reg2.toNat
  let reg2 ← getR d.reg2.toNat
  let reg1 ← getR d.reg1.toNat
  let result := reg1 - reg2
  setR d.reg2.toNat result
  opChkAndSetBorrow reg1 reg2
  opChkAndSetOverflow reg1.toInt (-reg2.toInt)
  opChkAndSetZero result
  opChkAndSetSign result
  addPc 2

abbrev opExecCmp1 (d : OpCodeFormatType1) : Exec D Unit := do
  checkReg d.reg1.toNat
  checkReg d.reg2.toNat
  let reg2 ← getR d.reg2.toNat
  let reg1 ← getR d.reg1.toNat
  let result := reg2 - reg1
  opChkAndSetBorrow reg2 reg1
  opChkAndSetOverflow reg2.toInt (-reg1.toInt)
  opChkAndSetZero result
  opChkAndSetSign result
  addPc 2

abbrev opExecAdd1 (d : OpCodeFormatType1) : Exec D Unit := do
  checkReg d.reg1.toNat
  checkReg d.reg2.toNat
  let reg2 ← getR d.reg2.toNat
  let reg1 ← getR d.reg1.toNat
  let result := reg2 + reg1
  setR d.reg2.toNat result
  opChkAndSetCarry reg2 reg1
  opChkAndSetOverflow reg2.toInt reg1.toInt
  opChkAndSetZero result
  opChkAndSetSign result
  addPc 2

abbrev opExecMov1 (d : OpCodeFormatType1) : Exec D Unit := do
  checkReg d.reg1.toNat
  checkReg d.reg2.toNat
  let reg1 ← getR d.reg1.toNat
  setR d.reg2.toNat reg1
  addPc 2

abbrev opExecMulh1 (d : OpCodeFormatType1) : Exec D Unit := do
  checkReg d.reg1.toNat
  checkReg d.reg2.toNat
  let reg1 ← getR d.reg1.toNat
  let reg2 ← getR d.reg2.toNat
  setR d.reg2.toNat (signExtend16 reg1 * signExtend16 reg2)
  addPc 2

/-- The quotient of two `sint32`; `none` where C leaves it undefined. -/
def divSigned (a b : Word) : Option Word :=
  if b = 0 ∨ (a = BitVec.intMin 32 ∧ b = -1) then none else some (a.sdiv b)

/-- A quotient or remainder with a defined value. -/
abbrev defined (value : Option Word) : Exec D Word :=
  if h : value.isSome then pure (value.get h) else undefined

abbrev opExecDivh1 (d : OpCodeFormatType1) : Exec D Unit := do
  let reg1 ← getR d.reg1.toNat
  let reg2 ← getR d.reg2.toNat
  checkReg d.reg1.toNat
  checkReg d.reg2.toNat
  -- the test is on the whole register, the division by its low half
  (if reg1 = 0 then setOV true else do
    setOV false
    let quot ← defined (divSigned reg2 (signExtend16 reg1))
    setR d.reg2.toNat quot)
  let result ← getR d.reg2.toNat
  opChkAndSetZero result
  opChkAndSetSign result
  addPc 2

/-! ## Format 2 -/

abbrev opExecCmp2 (d : OpCodeFormatType2) : Exec D Unit := do
  checkReg d.reg2.toNat
  let reg2 ← getR d.reg2.toNat
  let imm := opFormat2ImmSignExtend d.imm
  let result := reg2 - imm
  opChkAndSetBorrow reg2 imm
  opChkAndSetOverflow reg2.toInt (-imm.toInt)
  opChkAndSetZero result
  opChkAndSetSign result
  addPc 2

abbrev opExecAdd2 (d : OpCodeFormatType2) : Exec D Unit := do
  checkReg d.reg2.toNat
  let reg2 ← getR d.reg2.toNat
  let imm := opFormat2ImmSignExtend d.imm
  let result := reg2 + imm
  setR d.reg2.toNat result
  opChkAndSetCarry reg2 imm
  opChkAndSetOverflow reg2.toInt imm.toInt
  opChkAndSetZero result
  opChkAndSetSign result
  addPc 2

abbrev opExecMov2 (d : OpCodeFormatType2) : Exec D Unit := do
  checkReg d.reg2.toNat
  setR d.reg2.toNat (opFormat2ImmSignExtend d.imm)
  addPc 2

abbrev opExecMulh2 (d : OpCodeFormatType2) : Exec D Unit := do
  checkReg d.reg2.toNat
  let reg2 ← getR d.reg2.toNat
  setR d.reg2.toNat (opFormat2ImmSignExtend d.imm * signExtend16 reg2)
  addPc 2

/-! ## Format 6 -/

abbrev opExecAddi (d : OpCodeFormatType6) : Exec D Unit := do
  checkReg d.reg1.toNat
  checkReg d.reg2.toNat
  let reg1 ← getR d.reg1.toNat
  let result ← opAddi (opSignExtend 15 d.imm) reg1
  setR d.reg2.toNat result
  addPc 4

abbrev opExecMovea (d : OpCodeFormatType6) : Exec D Unit := do
  checkReg d.reg1.toNat
  checkReg d.reg2.toNat
  let reg1 ← getR d.reg1.toNat
  setR d.reg2.toNat (opMovea (opSignExtend 15 d.imm) reg1)
  addPc 4

/-- `op_exec_mov_6`: the high half of the immediate is read over the bus. -/
abbrev opExecMov6 (bus : Bus D) (d : OpCodeFormatType6) : Exec D Unit := do
  checkReg d.reg1.toNat
  let immHighAddr ← getPcAdd 4
  let immHigh16 ← busGetData16 bus immHighAddr
  setR d.reg1.toNat (d.imm ||| (immHigh16.setWidth 32 <<< 16))
  addPc 6

abbrev opExecMovhi (d : OpCodeFormatType6) : Exec D Unit := do
  checkReg d.reg1.toNat
  checkReg d.reg2.toNat
  let reg1 ← getR d.reg1.toNat
  setR d.reg2.toNat (opMovhi (opSignExtend 15 d.imm) reg1)
  addPc 4

abbrev opExecMulhi (d : OpCodeFormatType6) : Exec D Unit := do
  checkReg d.reg1.toNat
  checkReg d.reg2.toNat
  let reg1 ← getR d.reg1.toNat
  setR d.reg2.toNat (opMulhi (opSignExtend 15 d.imm) (signExtend16 reg1))
  addPc 4

/-! ## Format 7 -/

/-- The loops of `op_exec_rotl_7`: `data` is shifted left bit by bit, and the
bits of `reg2` come in again on the right.  The shift count `31 - i` is
defined for the first 32 passes only. -/
def rotlLoop (reg2 : Word) (rotateSize : Nat) : Word :=
  (List.range rotateSize).foldl
    (fun data i => (data <<< 1) ||| if reg2.getLsbD (31 - i) then 1 else 0) reg2

abbrev opExecRotl7 (d : OpCodeFormatType7) : Exec D Unit := do
  let reg3 := (d.disp >>> 10 &&& 0x1F).toNat
  let chk := d.disp &&& 0x03FF
  let reg2 ← getR d.reg2.toNat
  let rotateSize ←
    (if chk = 0b0001100010 then pure (opZeroExtend 5 (d.reg1.setWidth 32)).toNat
    else if chk = 0b0001100011 then do
      let reg1 ← getR d.reg1.toNat
      pure reg1.toNat
    else pure 0)
  (if 32 < rotateSize then undefined else pure ())
  let result := rotlLoop reg2 rotateSize
  setR reg3 result
  setCY (decide (0 < rotateSize) && result.getLsbD 0)
  setOV false
  opChkAndSetSign result
  opChkAndSetZero result
  addPc 4

/-! ## Format 9 -/

abbrev opExecSetf (d : OpCodeFormatType9) : Exec D Unit := do
  checkReg d.reg2.toNat
  let holds ← getCpu fun cpu => setfChkCond cpu d.gen
  setR d.reg2.toNat (if holds then 1 else 0)
  addPc 4

abbrev opExecSasf9 (d : OpCodeFormatType9) : Exec D Unit := do
  checkReg d.reg2.toNat
  let reg2 ← getR d.reg2.toNat
  let holds ← getCpu fun cpu => opExecCond cpu d.gen
  setR d.reg2.toNat ((reg2 <<< 1) ||| if holds then 1 else 0)
  addPc 4

/-- The loop of `op_exec_bins_9`: bits `lsb` to `msb` are the low bits of `reg1`. -/
def binsLoop (reg1 reg2 : Word) (lsb msb : Nat) : Word :=
  (List.range (msb + 1 - lsb)).foldl
    (fun data k => Bits.putBit data (lsb + k) (reg1.getLsbD k)) reg2

abbrev opExecBins9 (d : OpCodeFormatType9) : Exec D Unit := do
  let msb := (d.rfu2 >>> 1).toNat
  let lsb := ((d.rfu2 &&& 0x01) <<< 3 ||| (d.rfu1 &&& 0x07)).toNat
  let reg2 ← getR d.reg2.toNat
  let reg1 ← getR d.gen.toNat
  let result :=
    if d.sub = 0b100 then binsLoop reg1 reg2 (lsb + 16) (msb + 16)
    else if d.sub = 0b101 then binsLoop reg1 reg2 lsb (msb + 16)
    else binsLoop reg1 reg2 lsb msb
  setR d.reg2.toNat result
  setOV false
  opChkAndSetSign result
  opChkAndSetZero result
  addPc 4

/-! ## Format 11 -/

/-- The shape of `op_exec_divu`, `op_exec_divhu` and `op_exec_divqu_11`: the test
is on `reg1`, the division is by `divisor reg1`. -/
abbrev opExecDivUnsigned (divisor : Word → Word) (d : OpCodeFormatType11) : Exec D Unit := do
  let reg1 ← getR d.reg1.toNat
  let reg2 ← getR d.reg2.toNat
  let _ ← getR d.reg3.toNat
  checkReg d.reg1.toNat
  checkReg d.reg2.toNat
  checkReg d.reg3.toNat
  (if reg1 = 0 then setOV true else do
    setOV false
    (if divisor reg1 = 0 then undefined else do
      setR d.reg2.toNat (reg2 / divisor reg1)
      setR d.reg3.toNat (reg2 % divisor reg1)))
  let result ← getR d.reg2.toNat
  opChkAndSetZero result
  opChkAndSetSign result
  addPc 4

abbrev opExecDivu (d : OpCodeFormatType11) : Exec D Unit :=
  opExecDivUnsigned (fun reg1 => reg1) d

abbrev opExecDivhu (d : OpCodeFormatType11) : Exec D Unit :=
  opExecDivUnsigned (fun reg1 => (reg1.setWidth 16).setWidth 32) d

abbrev opExecDivqu11 (d : OpCodeFormatType11) : Exec D Unit :=
  opExecDivUnsigned (fun reg1 => reg1) d

abbrev opExecDivh11 (d : OpCodeFormatType11) : Exec D Unit := do
  let reg1 ← getR d.reg1.toNat
  let reg2 ← getR d.reg2.toNat
  let _ ← getR d.reg3.toNat
  checkReg d.reg1.toNat
  checkReg d.reg2.toNat
  checkReg d.reg3.toNat
  (if reg1 = 0 then setOV true else do
    setOV false
    let quot ← defined (divSigned reg2 (signExtend16 reg1))
    setR d.reg2.toNat quot
    setR d.reg3.toNat (reg2.srem (signExtend16 reg1)))
  let result ← getR d.reg2.toNat
  opChkAndSetZero result
  opChkAndSetSign result
  addPc 4

/-- `op_exec_div_common`; its second argument only chooses a name to print. -/
abbrev opExecDivCommon (d : OpCodeFormatType11) : Exec D Unit := do
  let reg1 ← getR d.reg1.toNat
  let reg2 ← getR d.reg2.toNat
  let _ ← getR d.reg3.toNat
  checkReg d.reg1.toNat
  checkReg d.reg2.toNat
  checkReg d.reg3.toNat
  (if reg1 = 0 then setOV true else do
    setOV (decide (reg1 = -1 ∧ reg2 = 0x80000000))
    let quot ← defined (divSigned reg2 reg1)
    setR d.reg2.toNat quot
    setR d.reg3.toNat (reg2.srem reg1))
  let result ← getR d.reg2.toNat
  opChkAndSetZero result
  opChkAndSetSign result
  addPc 4

abbrev opExecDiv (d : OpCodeFormatType11) : Exec D Unit :=
  opExecDivCommon d

/-- The shape of `op_exec_mul` and `op_exec_mulu`: the product of the widened
registers. -/
abbrev opExecMulWide (widen : Word → DoubleWord) (d : OpCodeFormatType11) : Exec D Unit := do
  let reg1 ← getR d.reg1.toNat
  let reg2 ← getR d.reg2.toNat
  let _ ← getR d.reg3.toNat
  checkReg d.reg1.toNat
  checkReg d.reg2.toNat
  checkReg d.reg3.toNat
  let result := widen reg1 * widen reg2
  setR d.reg2.toNat (result.setWidth 32)
  setR d.reg3.toNat ((result >>> 32).setWidth 32)
  addPc 4

abbrev opExecMul (d : OpCodeFormatType11) : Exec D Unit :=
  opExecMulWide (BitVec.signExtend 64) d

abbrev opExecMulu (d : OpCodeFormatType11) : Exec D Unit :=
  opExecMulWide (BitVec.setWidth 64) d

/-- The condition code of the three-operand instructions of format 11. -/
def cond11 (d : OpCodeFormatType11) : HalfWord :=
  (d.rfu <<< 1) ||| d.sub2

abbrev opExecCmov11 (d : OpCodeFormatType11) : Exec D Unit := do
  let reg1 ← getR d.reg1.toNat
  let reg2 ← getR d.reg2.toNat
  let _ ← getR d.reg3.toNat
  checkReg d.reg1.toNat
  checkReg d.reg2.toNat
  checkReg d.reg3.toNat
  let holds ← getCpu fun cpu => setfChkCond cpu (cond11 d)
  setR d.reg3.toNat (if holds then reg1 else reg2)
  addPc 4

abbrev opExecAdf11 (d : OpCodeFormatType11) : Exec D Unit := do
  checkReg d.reg1.toNat
  checkReg d.reg2.toNat
  checkReg d.reg3.toNat
  let reg1 ← getR d.reg1.toNat
  let reg2 ← getR d.reg2.toNat
  let holds ← getCpu fun cpu => opExecCond cpu (cond11 d)
  let addData : Word := if holds then 1 else 0
  let result := reg2 + reg1 + addData
  setR d.reg3.toNat result
  opChkAndSetCarry3 reg2 reg1 addData
  opChkAndSetOverflow3 reg2.toInt reg1.toInt addData.toInt
  opChkAndSetZero result
  opChkAndSetSign result
  addPc 4

abbrev opExecSbf11 (d : OpCodeFormatType11) : Exec D Unit := do
  checkReg d.reg1.toNat
  checkReg d.reg2.toNat
  checkReg d.reg3.toNat
  let holds ← getCpu fun cpu => opExecCond cpu (cond11 d)
  let addData : Word := if holds then 1 else 0
  let reg2 ← getR d.reg2.toNat
  let reg1 ← getR d.reg1.toNat
  let result := reg2 - reg1 - addData
  setR d.reg3.toNat result
  opChkAndSetBorrow3 reg2 reg1 addData
  opChkAndSetOverflow3 reg2.toInt (-reg1.toInt) (-addData.toInt)
  opChkAndSetZero result
  opChkAndSetSign result
  addPc 4

/-- The shape of `op_exec_mac_11` and `op_exec_macu_11`; the register after
`reg3` is read before the checks. -/
abbrev opExecMacWide (widen : Word → DoubleWord) (d : OpCodeFormatType11) : Exec D Unit := do
  let reg3 := d.reg3.toNat
  let reg4 := (((d.rfu <<< 1) ||| d.sub2).setWidth 32 <<< 1 : Word).toNat
  let reg1Data ← getR d.reg1.toNat
  let reg2Data ← getR d.reg2.toNat
  let reg3plus1Data ← getR (reg3 + 1)
  let reg3Data ← getR reg3
  checkReg d.reg1.toNat
  checkReg d.reg2.toNat
  checkReg reg3
  checkReg reg4
  failIf (reg3 % 2 ≠ 0)
  failIf (reg4 % 2 ≠ 0)
  let result1 := widen reg2Data * widen reg1Data
  let result2 := (widen reg3plus1Data <<< 32) ||| widen reg3Data
  let result := result1 + result2
  setR reg4 (result.setWidth 32)
  setR (reg4 + 1) ((result >>> 32).setWidth 32)
  addPc 4

abbrev opExecMac11 (d : OpCodeFormatType11) : Exec D Unit :=
  opExecMacWide (BitVec.signExtend 64) d

abbrev opExecMacu11 (d : OpCodeFormatType11) : Exec D Unit :=
  opExecMacWide (BitVec.setWidth 64) d

/-! ## Format 12 -/

/-- The 9-bit immediate of the multiplications. -/
def imm9 (d : OpCodeFormatType12) : Word :=
  ((d.immh &&& 0xF) <<< 5) ||| d.imml

abbrev opExecMulu12 (d : OpCodeFormatType12) : Exec D Unit := do
  checkReg d.reg2.toNat
  checkReg d.reg3.toNat
  let reg2 ← getR d.reg2.toNat
  let result : DoubleWord := reg2.setWidth 64 * (imm9 d).setWidth 64
  setR d.reg2.toNat (result.setWidth 32)
  setR d.reg3.toNat ((result >>> 32).setWidth 32)
  addPc 4

abbrev opExecMul12 (d : OpCodeFormatType12) : Exec D Unit := do
  checkReg d.reg2.toNat
  checkReg d.reg3.toNat
  let reg2 ← getR d.reg2.toNat
  let result : DoubleWord := reg2.signExtend 64 * (opSignExtend 8 (imm9 d)).signExtend 64
  setR d.reg2.toNat (result.setWidth 32)
  setR d.reg3.toNat ((result >>> 32).setWidth 32)
  addPc 4

abbrev opExecCmov12 (d : OpCodeFormatType12) : Exec D Unit := do
  let reg2 ← getR d.reg2.toNat
  let _ ← getR d.reg3.toNat
  checkReg d.reg2.toNat
  checkReg d.reg3.toNat
  let cond : HalfWord := ((d.immh &&& 0x07) <<< 1).setWidth 16 ||| d.sub2
  let holds ← getCpu fun cpu => setfChkCond cpu cond
  setR d.reg3.toNat (if holds then opSignExtend 4 d.imml else reg2)
  addPc 4

/-! ## Saturated operations -/

abbrev opExecSatadd1 (d : OpCodeFormatType1) : Exec D Unit := do
  checkReg d.reg1.toNat
  checkReg d.reg2.toNat
  let reg2 ← getR d.reg2.toNat
  let reg1 ← getR d.reg1.toNat
  let result ← opSatadd reg2 reg1.toInt
  setR d.reg2.toNat result
  addPc 2

abbrev opExecSatsub1 (d : OpCodeFormatType1) : Exec D Unit := do
  checkReg d.reg1.toNat
  checkReg d.reg2.toNat
  let reg2 ← getR d.reg2.toNat
  let reg1 ← getR d.reg1.toNat
  let result ← opSatadd reg2 (-reg1.toInt)
  setR d.reg2.toNat result
  addPc 2

abbrev opExecSatsubr1 (d : OpCodeFormatType1) : Exec D Unit := do
  checkReg d.reg1.toNat
  checkReg d.reg2.toNat
  let reg1 ← getR d.reg1.toNat
  let reg2 ← getR d.reg2.toNat
  let result ← opSatadd reg1 (-reg2.toInt)
  setR d.reg2.toNat result
  addPc 2

abbrev opExecSatadd2 (d : OpCodeFormatType2) : Exec D Unit := do
  checkReg d.reg2.toNat
  let reg2 ← getR d.reg2.toNat
  let result ← opSatadd reg2 (opFormat2ImmSignExtend d.imm).toInt
  setR d.reg2.toNat result
  addPc 2

abbrev opExecSatsubi (d : OpCodeFormatType6) : Exec D Unit := do
  checkReg d.reg1.toNat
  checkReg d.reg2.toNat
  let reg1 ← getR d.reg1.toNat
  let result ← opSatadd reg1 (-(opSignExtend 15 d.imm)).toInt
  setR d.reg2.toNat result
  addPc 4

abbrev opExecSatadd11 (d : OpCodeFormatType11) : Exec D Unit := do
  checkReg d.reg1.toNat
  checkReg d.reg2.toNat
  checkReg d.reg3.toNat
  let reg2 ← getR d.reg2.toNat
  let reg1 ← getR d.reg1.toNat
  let result ← opSatadd reg2 reg1.toInt
  setR d.reg3.toNat result
  addPc 4

abbrev opExecSatsub11 (d : OpCodeFormatType11) : Exec D Unit := do
  checkReg d.reg1.toNat
  checkReg d.reg2.toNat
  checkReg d.reg3.toNat
  let reg2 ← getR d.reg2.toNat
  let reg1 ← getR d.reg1.toNat
  let result ← opSatadd reg2 (-reg1.toInt)
  setR d.reg3.toNat result
  addPc 4

end Exec

end Athrill
