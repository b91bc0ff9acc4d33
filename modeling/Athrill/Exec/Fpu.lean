import Athrill.Exec.FpuOps

/-!
# Floating-point instructions

The executors of `op_exec_fpu.c` that the instruction table refers to.  A
`double` is held in a register and its successor; the checks are on the
successor.  `op_exec_ceilf_dw_F` and the four `op_exec_floorf_d*` executors
report that they are not supported.
-/

namespace Athrill

open Bits

namespace Exec

variable {D : Type}

/-! ## Operands -/

/-- A `double` in a pair of registers. -/
abbrev getDouble (n : Nat) : Exec D DoubleWord := do
  let b0 ← getR n
  let b1 ← getR (n + 1)
  pure (ofBinary b0 b1)

abbrev setDouble (n : Nat) (data : DoubleWord) : Exec D Unit := do
  setR n (binary0 data)
  setR (n + 1) (binary1 data)

/-- The condition bit of `CMOVF`, `CMPF` and `TRFSR`. -/
def fcbit (d : OpCodeFormatTypeF) : Nat :=
  ((d.subopcode &&& 0x0000000F#32) >>> 1).toNat

/-- `reg4` of the multiply-add instructions. -/
def reg4 (d : OpCodeFormatTypeF) : Nat :=
  ((d.subopcode &&& 0x1E#32) ||| ((d.subopcode >>> 7) &&& 1#32)).toNat

/-! ## Moves and signs -/

abbrev opExecAbsfSF (d : OpCodeFormatTypeF) : Exec D Unit := do
  checkReg d.reg2.toNat
  checkReg d.reg3.toNat
  let reg2 ← getR d.reg2.toNat
  setR d.reg3.toNat (clearBit reg2 31)
  addPc 4

/-- `op_exec_cmovf_s_F`. -/
abbrev opExecCmovfSF (d : OpCodeFormatTypeF) : Exec D Unit := do
  checkReg d.reg1.toNat
  checkReg d.reg2.toNat
  checkReg d.reg3.toNat
  let reg1 ← getR d.reg1.toNat
  let reg2 ← getR d.reg2.toNat
  let data ← getCpu sysGetFpsrCc
  setR d.reg3.toNat (if data.getLsbD (fcbit d) then reg1 else reg2)
  addPc 4

abbrev opExecCmovfDF (d : OpCodeFormatTypeF) : Exec D Unit := do
  checkReg (d.reg1.toNat + 1)
  checkReg (d.reg2.toNat + 1)
  checkReg (d.reg3.toNat + 1)
  let reg1 ← getDouble d.reg1.toNat
  let reg2 ← getDouble d.reg2.toNat
  let data ← getCpu sysGetFpsrCc
  setDouble d.reg3.toNat (if data.getLsbD (fcbit d) then reg1 else reg2)
  addPc 4

abbrev opExecTrfsrF (d : OpCodeFormatTypeF) : Exec D Unit := do
  let data ← getCpu sysGetFpsrCc
  setZ (data.getLsbD (fcbit d))
  addPc 4

section Host

variable (host : HostFloat D)

abbrev opExecNegfSF (d : OpCodeFormatTypeF) : Exec D Unit := do
  checkReg d.reg2.toNat
  checkReg d.reg3.toNat
  let reg2 ← getR d.reg2.toNat
  let result ← hostEval (host.float .neg 0 reg2 0)
  setR d.reg3.toNat result
  addPc 4

abbrev opExecAbsfDF (d : OpCodeFormatTypeF) : Exec D Unit := do
  checkReg (d.reg2.toNat + 1)
  checkReg (d.reg3.toNat + 1)
  let reg2 ← getDouble d.reg2.toNat
  let round ← prepareFloatOp host
  let result := clearBit (setSubnormalOperandDouble reg2) 63
  endFloatOp host
  setDouble d.reg3.toNat (setSubnormalResultDouble round result)
  addPc 4

abbrev opExecNegfDF (d : OpCodeFormatTypeF) : Exec D Unit := do
  checkReg (d.reg2.toNat + 1)
  checkReg (d.reg3.toNat + 1)
  let reg2 ← getDouble d.reg2.toNat
  let _ ← prepareFloatOp host
  (if doubleIsSnan reg2 then raiseFpst sysFpsrExprV else pure ())
  endFloatOp host
  setDouble d.reg3.toNat (if doubleIsQnan reg2 then doubleQnan
    else if doubleIsSnan reg2 then doubleSnan
    else doubleSetSignReverse reg2)
  addPc 4

/-! ## Arithmetic in single precision -/

/-- The executors on `reg1` and `reg2`, and the fused ones, which do not flush
`reg3`. -/
abbrev floatOp (expr : FloatExpr) (signReverse : Bool) (d : OpCodeFormatTypeF) :
    Exec D Unit := do
  checkReg d.reg1.toNat
  checkReg d.reg2.toNat
  checkReg d.reg3.toNat
  let reg1 ← getR d.reg1.toNat
  let reg2 ← getR d.reg2.toNat
  let reg3 ← getR d.reg3.toNat
  let round ← prepareFloatOp host
  let result ← hostEval
    (host.float expr (setSubnormalOperand reg1) (setSubnormalOperand reg2) reg3)
  let result := if signReverse then floatSetSignReverse result else result
  endFloatOp host
  setR d.reg3.toNat (setSubnormalResult round result)
  addPc 4

abbrev opExecAddfSF (d : OpCodeFormatTypeF) : Exec D Unit := floatOp host .add false d
abbrev opExecMulfSF (d : OpCodeFormatTypeF) : Exec D Unit := floatOp host .mul false d
abbrev opExecDivfSF (d : OpCodeFormatTypeF) : Exec D Unit := floatOp host .div false d
abbrev opExecSubfSF (d : OpCodeFormatTypeF) : Exec D Unit := floatOp host .sub false d
abbrev opExecFmafSF (d : OpCodeFormatTypeF) : Exec D Unit := floatOp host .fma false d
abbrev opExecFmsfSF (d : OpCodeFormatTypeF) : Exec D Unit := floatOp host .fms false d
abbrev opExecFnmafSF (d : OpCodeFormatTypeF) : Exec D Unit := floatOp host .fma true d
abbrev opExecFnmsfSF (d : OpCodeFormatTypeF) : Exec D Unit := floatOp host .fms true d

/-- The multiply-add executors, which flush all three operands. -/
abbrev floatMulAdd (expr : FloatExpr) (d : OpCodeFormatTypeF) : Exec D Unit := do
  checkReg d.reg1.toNat
  checkReg d.reg2.toNat
  checkReg d.reg3.toNat
  checkReg (reg4 d)
  let reg1 ← getR d.reg1.toNat
  let reg2 ← getR d.reg2.toNat
  let reg3 ← getR d.reg3.toNat
  let round ← prepareFloatOp host
  let result ← hostEval (host.float expr (setSubnormalOperand reg1) (setSubnormalOperand reg2)
    (setSubnormalOperand reg3))
  endFloatOp host
  setR (reg4 d) (setSubnormalResult round result)
  addPc 4

abbrev opExecMaddfSF (d : OpCodeFormatTypeF) : Exec D Unit := floatMulAdd host .madd d
abbrev opExecMsubfSF (d : OpCodeFormatTypeF) : Exec D Unit := floatMulAdd host .msub d
abbrev opExecNmaddfSF (d : OpCodeFormatTypeF) : Exec D Unit := floatMulAdd host .nmadd d
abbrev opExecNmsubfSF (d : OpCodeFormatTypeF) : Exec D Unit := floatMulAdd host .nmsub d

/-- `op_exec_maxf_s_F` and `op_exec_minf_s_F`, with the comparison that selects
`reg1`. -/
abbrev floatSelect (selects : Word → Word → D → Bool × D) (d : OpCodeFormatTypeF) :
    Exec D Unit := do
  checkReg d.reg1.toNat
  checkReg d.reg2.toNat
  checkReg d.reg3.toNat
  let reg1 ← getR d.reg1.toNat
  let reg2 ← getR d.reg2.toNat
  (if floatIsSnan reg1 || floatIsSnan reg2 then do
    raiseFpst sysFpsrExprV
    setR d.reg3.toNat floatQnan
  else do
    let first ← hostEval (selects reg1 reg2)
    setR d.reg3.toNat (if first then reg1 else reg2))
  addPc 4

abbrev opExecMaxfSF (d : OpCodeFormatTypeF) : Exec D Unit :=
  floatSelect (fun reg1 reg2 => host.floatLess reg2 reg1) d
abbrev opExecMinfSF (d : OpCodeFormatTypeF) : Exec D Unit :=
  floatSelect host.floatLess d

/-! ## Arithmetic in double precision -/

abbrev doubleOp (expr : DoubleExpr) (d : OpCodeFormatTypeF) : Exec D Unit := do
  checkReg (d.reg1.toNat + 1)
  checkReg (d.reg2.toNat + 1)
  checkReg (d.reg3.toNat + 1)
  let reg1 ← getDouble d.reg1.toNat
  let reg2 ← getDouble d.reg2.toNat
  let round ← prepareFloatOp host
  let result ← hostEval
    (host.double expr (setSubnormalOperandDouble reg1) (setSubnormalOperandDouble reg2))
  endFloatOp host
  setDouble d.reg3.toNat (setSubnormalResultDouble round result)
  addPc 4

abbrev opExecAddfDF (d : OpCodeFormatTypeF) : Exec D Unit := doubleOp host .add d
abbrev opExecMulfDF (d : OpCodeFormatTypeF) : Exec D Unit := doubleOp host .mul d
abbrev opExecDivfDF (d : OpCodeFormatTypeF) : Exec D Unit := doubleOp host .div d
abbrev opExecSubfDF (d : OpCodeFormatTypeF) : Exec D Unit := doubleOp host .sub d

/-- The executors on `reg2` alone. -/
abbrev doubleOp2 (expr : DoubleExpr) (d : OpCodeFormatTypeF) : Exec D Unit := do
  checkReg (d.reg2.toNat + 1)
  checkReg (d.reg3.toNat + 1)
  let reg2 ← getDouble d.reg2.toNat
  let round ← prepareFloatOp host
  let result ← hostEval (host.double expr 0 (setSubnormalOperandDouble reg2))
  endFloatOp host
  setDouble d.reg3.toNat (setSubnormalResultDouble round result)
  addPc 4

abbrev opExecRsqrtfDF (d : OpCodeFormatTypeF) : Exec D Unit := doubleOp2 host .rsqrt d
abbrev opExecSqrtfDF (d : OpCodeFormatTypeF) : Exec D Unit := doubleOp2 host .sqrt d

/-- The sign of an infinite or zero result is set on the operand and lost. -/
abbrev opExecRecipfDF (d : OpCodeFormatTypeF) : Exec D Unit := do
  checkReg (d.reg2.toNat + 1)
  checkReg (d.reg3.toNat + 1)
  let reg2 ← getDouble d.reg2.toNat
  let _ ← prepareFloatOp host
  let result ← (if doubleIsQnan reg2 then pure doubleQnan
    else if doubleIsSnan reg2 then do
      raiseFpst sysFpsrExprV
      pure doubleSnan
    else if doubleIsInf reg2 then pure 0
    else if doubleIsZero reg2 then do
      raiseFpst sysFpsrExprZ
      pure dblInfinity
    else hostEval (host.double .recip 0 reg2))
  endFloatOp host
  setDouble d.reg3.toNat result
  addPc 4

abbrev opExecMaxfDF (d : OpCodeFormatTypeF) : Exec D Unit := do
  checkReg (d.reg1.toNat + 1)
  checkReg (d.reg2.toNat + 1)
  let reg1 ← getDouble d.reg1.toNat
  let reg2 ← getDouble d.reg2.toNat
  let _ ← prepareFloatOp host
  let result ← (if doubleIsSnan reg1 || doubleIsSnan reg2 then do
      raiseFpst sysFpsrExprV
      pure doubleQnan
    else if doubleIsQnan reg1 || doubleIsQnan reg2 then pure doubleQnan
    else do
      let first ← hostEval (host.doubleLess reg2 reg1)
      pure (if first then reg1 else reg2))
  endFloatOp host
  -- `reg3 + 1` is not checked
  setDouble d.reg3.toNat result
  addPc 4

abbrev opExecMinfDF (d : OpCodeFormatTypeF) : Exec D Unit := do
  checkReg (d.reg1.toNat + 1)
  checkReg (d.reg2.toNat + 1)
  checkReg (d.reg3.toNat + 1)
  let reg1 ← getDouble d.reg1.toNat
  let reg2 ← getDouble d.reg2.toNat
  let result ← (if doubleIsSnan reg1 || doubleIsSnan reg2 then do
      raiseFpst sysFpsrExprV
      pure doubleQnan
    else do
      let first ← hostEval (host.doubleLess reg1 reg2)
      pure (if first then reg1 else reg2))
  setDouble d.reg3.toNat result
  addPc 4

/-! ## Comparison -/

/-- `FPSR.CCn` of a comparison. -/
def cmpfCc (fcond : Nat) (less equal unordered : Bool) : Bool :=
  (less && fcond.testBit 2) || (equal && fcond.testBit 1) || (unordered && fcond.testBit 0)

/-- The end of `CMPF`: the condition bit is written. -/
abbrev cmpfResult (d : OpCodeFormatTypeF) (less equal unordered : Bool) : Exec D Unit := do
  let data ← getCpu sysGetFpsrCc
  putFpsrCc (putBit data (fcbit d) (cmpfCc d.reg3.toNat less equal unordered))
  addPc 4

abbrev opExecCmpfSF (d : OpCodeFormatTypeF) : Exec D Unit := do
  checkReg d.reg1.toNat
  checkReg d.reg2.toNat
  let reg1 ← getR d.reg1.toNat
  let reg2 ← getR d.reg2.toNat
  if floatIsNan reg1 || floatIsNan reg2 then do
    (if d.reg3.toNat.testBit 3 then raiseFpst sysFpsrExprV else pure ())
    cmpfResult d false false true
  else do
    let less ← hostEval (host.floatLess reg2 reg1)
    let equal ← hostEval (host.floatEqual reg2 reg1)
    cmpfResult d less equal false

abbrev opExecCmpfDF (d : OpCodeFormatTypeF) : Exec D Unit := do
  checkReg (d.reg1.toNat + 1)
  checkReg (d.reg2.toNat + 1)
  let reg1 ← getDouble d.reg1.toNat
  let reg2 ← getDouble d.reg2.toNat
  if doubleIsNan reg1 || doubleIsNan reg2 then do
    (if d.reg3.toNat.testBit 3 then raiseFpst sysFpsrExprV else pure ())
    cmpfResult d false false true
  else do
    let less ← hostEval (host.doubleLess reg2 reg1)
    let equal ← hostEval (host.doubleEqual reg2 reg1)
    cmpfResult d less equal false

/-! ## Conversion to floating point -/

/-- `CVTF.WS` and `CVTF.UWS`: from a register. -/
abbrev cvtfWordToFloat (type : NumType) (d : OpCodeFormatTypeF) : Exec D Unit := do
  checkReg d.reg2.toNat
  checkReg d.reg3.toNat
  let reg2 ← getR d.reg2.toNat
  let round ← prepareFloatOp host
  let result ← hostEval (host.toFloat type (reg2.setWidth 64))
  endFloatOp host
  setR d.reg3.toNat (setSubnormalResult round result)
  addPc 4

abbrev opExecCvtfWsF (d : OpCodeFormatTypeF) : Exec D Unit := cvtfWordToFloat host .sint32 d
abbrev opExecCvtfUwsF (d : OpCodeFormatTypeF) : Exec D Unit := cvtfWordToFloat host .uint32 d

/-- `CVTF.LS`, `CVTF.ULS` and `CVTF.DS`: from a pair. -/
abbrev cvtfPairToFloat (type : NumType) (operand : DoubleWord → DoubleWord)
    (d : OpCodeFormatTypeF) : Exec D Unit := do
  checkReg d.reg2.toNat
  checkReg (d.reg2.toNat + 1)
  checkReg d.reg3.toNat
  let reg2 ← getDouble d.reg2.toNat
  let round ← prepareFloatOp host
  let result ← hostEval (host.toFloat type (operand reg2))
  endFloatOp host
  setR d.reg3.toNat (setSubnormalResult round result)
  addPc 4

abbrev opExecCvtfLsF (d : OpCodeFormatTypeF) : Exec D Unit := cvtfPairToFloat host .sint64 id d
abbrev opExecCvtfUlsF (d : OpCodeFormatTypeF) : Exec D Unit := cvtfPairToFloat host .uint64 id d
abbrev opExecCvtfDsF (d : OpCodeFormatTypeF) : Exec D Unit :=
  cvtfPairToFloat host .float setSubnormalOperandDouble d

/-- `CVTF.WD`, `CVTF.UWD` and `CVTF.SD`: from a register to a pair. -/
abbrev cvtfWordToDouble (type : NumType) (operand : Word → Word) (d : OpCodeFormatTypeF) :
    Exec D Unit := do
  checkReg d.reg2.toNat
  checkReg (d.reg3.toNat + 1)
  let reg2 ← getR d.reg2.toNat
  let round ← prepareFloatOp host
  let result ← hostEval (host.toDouble type ((operand reg2).setWidth 64))
  endFloatOp host
  setDouble d.reg3.toNat (setSubnormalResultDouble round result)
  addPc 4

abbrev opExecCvtfWdF (d : OpCodeFormatTypeF) : Exec D Unit := cvtfWordToDouble host .sint32 id d
abbrev opExecCvtfUwdF (d : OpCodeFormatTypeF) : Exec D Unit := cvtfWordToDouble host .uint32 id d
abbrev opExecCvtfSdF (d : OpCodeFormatTypeF) : Exec D Unit :=
  cvtfWordToDouble host .float setSubnormalOperand d

/-- `CVTF.LD` and `CVTF.ULD`: from a pair to a pair. -/
abbrev cvtfPairToDouble (type : NumType) (d : OpCodeFormatTypeF) : Exec D Unit := do
  checkReg (d.reg2.toNat + 1)
  checkReg (d.reg3.toNat + 1)
  let reg2 ← getDouble d.reg2.toNat
  let round ← prepareFloatOp host
  let result ← hostEval (host.toDouble type reg2)
  endFloatOp host
  setDouble d.reg3.toNat (setSubnormalResultDouble round result)
  addPc 4

abbrev opExecCvtfLdF (d : OpCodeFormatTypeF) : Exec D Unit := cvtfPairToDouble host .sint64 d
abbrev opExecCvtfUldF (d : OpCodeFormatTypeF) : Exec D Unit := cvtfPairToDouble host .uint64 d

/-! ## Conversion to integers -/

/-- A single-precision number to an unsigned word, clamped. -/
abbrev floatToUword (fn : RoundFun) (reg2 : Word) : Exec D Word :=
  if floatIsNan reg2 || floatIsInf reg2 then do
    raiseFpst sysFpsrExprV
    pure (if floatIsPlus reg2 then 0xFFFFFFFF else 0)
  else do
    let result ← hostEval (host.floatToInt .uint64 fn reg2)
    if 0xFFFFFFFF < result.toNat then do
      raiseFpst sysFpsrExprV
      pure 0xFFFFFFFF
    else pure (result.setWidth 32)

/-- A single-precision number to a word, clamped to `-INT_MAX` and `INT_MAX`. -/
abbrev floatToSword (fn : RoundFun) (reg2 : Word) : Exec D Word :=
  if floatIsNan reg2 || floatIsInf reg2 then do
    raiseFpst sysFpsrExprV
    pure (if floatIsPlus reg2 then 0x7FFFFFFF else 0x80000001)
  else do
    let result ← hostEval (host.floatToInt .sint64 fn reg2)
    if result.toInt < -2147483647 then do
      raiseFpst sysFpsrExprV
      pure 0x80000001
    else if 2147483647 < result.toInt then do
      raiseFpst sysFpsrExprV
      pure 0x7FFFFFFF
    else pure (result.setWidth 32)

/-- A single-precision number to an unsigned double word, clamped. -/
abbrev floatToUlong (fn : RoundFun) (reg2 : Word) : Exec D DoubleWord :=
  if floatIsNan reg2 then do
    raiseFpst sysFpsrExprV
    pure 0
  else if floatIsInf reg2 then do
    raiseFpst sysFpsrExprV
    pure (if floatIsPlus reg2 then BitVec.allOnes 64 else 0)
  else do
    let negative ← hostEval (host.floatLess reg2 0)
    if negative then do
      raiseFpst sysFpsrExprV
      pure 0
    else do
      let large ← hostEval (host.floatLess floatUlongMax reg2)
      if large then do
        raiseFpst sysFpsrExprV
        pure (BitVec.allOnes 64)
      else hostEval (host.floatToInt .uint64 fn reg2)

/-- A conversion from a register to a register. -/
abbrev cvtfToWord (convert : Word → Exec D Word) (d : OpCodeFormatTypeF) : Exec D Unit := do
  checkReg d.reg2.toNat
  checkReg d.reg3.toNat
  let reg2 ← getR d.reg2.toNat
  let _ ← prepareFloatOp host
  let result ← convert reg2
  endFloatOp host
  setR d.reg3.toNat result
  addPc 4

abbrev opExecCvtfSuwF (d : OpCodeFormatTypeF) : Exec D Unit :=
  cvtfToWord host (floatToUword host .none) d
abbrev opExecTrncfSuwF (d : OpCodeFormatTypeF) : Exec D Unit :=
  cvtfToWord host (floatToUword host .trunc) d
abbrev opExecCvtfSwF (d : OpCodeFormatTypeF) : Exec D Unit :=
  cvtfToWord host (floatToSword host .none) d
abbrev opExecTrncfSwF (d : OpCodeFormatTypeF) : Exec D Unit :=
  cvtfToWord host (floatToSword host .trunc) d

/-- A conversion from a register to a pair. -/
abbrev cvtfToPair (convert : Word → Exec D DoubleWord) (d : OpCodeFormatTypeF) :
    Exec D Unit := do
  checkReg d.reg2.toNat
  checkReg (d.reg3.toNat + 1)
  let reg2 ← getR d.reg2.toNat
  let _ ← prepareFloatOp host
  let result ← convert reg2
  endFloatOp host
  setDouble d.reg3.toNat result
  addPc 4

abbrev opExecTrncfSulF (d : OpCodeFormatTypeF) : Exec D Unit :=
  cvtfToPair host (floatToUlong host .trunc) d

/-- `op_exec_floorf_sul_F` checks `reg3` alone. -/
abbrev opExecFloorfSulF (d : OpCodeFormatTypeF) : Exec D Unit := do
  checkReg d.reg2.toNat
  checkReg d.reg3.toNat
  let reg2 ← getR d.reg2.toNat
  let _ ← prepareFloatOp host
  let result ← floatToUlong host .floor reg2
  endFloatOp host
  setDouble d.reg3.toNat result
  addPc 4

/-- A conversion from a pair to a pair. -/
abbrev cvtfPairToPair (convert : DoubleWord → Exec D DoubleWord) (d : OpCodeFormatTypeF) :
    Exec D DoubleWord := do
  checkReg (d.reg2.toNat + 1)
  checkReg (d.reg3.toNat + 1)
  let reg2 ← getDouble d.reg2.toNat
  let _ ← prepareFloatOp host
  let result ← convert reg2
  endFloatOp host
  pure result

/-- The operand is flushed and cast to a type. -/
abbrev doubleCast (type : NumType) (fn : RoundFun) (reg2 : DoubleWord) : Exec D DoubleWord :=
  hostEval (host.doubleToInt type fn (setSubnormalOperandDouble reg2))

/-- `op_exec_ceilf_dl_F` casts without rounding up. -/
abbrev opExecCeilfDlF (d : OpCodeFormatTypeF) : Exec D Unit := do
  let result ← cvtfPairToPair host (doubleCast host .sint64 .none) d
  setDouble d.reg3.toNat result
  addPc 4

/-- The two words are stored the other way round. -/
abbrev opExecCvtfDlF (d : OpCodeFormatTypeF) : Exec D Unit := do
  let result ← cvtfPairToPair host (doubleCast host .sint64 .none) d
  setR d.reg3.toNat (binary1 result)
  setR (d.reg3.toNat + 1) (binary0 result)
  addPc 4

/-- The two words are stored the other way round. -/
abbrev opExecCvtfDulF (d : OpCodeFormatTypeF) : Exec D Unit := do
  let result ← cvtfPairToPair host (doubleCast host .uint64 .none) d
  setR d.reg3.toNat (binary1 result)
  setR (d.reg3.toNat + 1) (binary0 result)
  addPc 4

/-- Every result but the last is flagged as invalid. -/
abbrev ceilDul (reg2 : DoubleWord) : Exec D DoubleWord :=
  if doubleIsNan reg2 || doubleIsInf reg2 then do
    raiseFpst sysFpsrExprV
    pure (if doubleIsPlus reg2 && doubleIsInf reg2 then BitVec.allOnes 64 else 0)
  else do
    let truncated ← hostEval (host.double .trunc 0 reg2)
    let negative ← hostEval (host.doubleLess truncated 0)
    if negative then do
      raiseFpst sysFpsrExprV
      pure 0
    else do
      let large ← hostEval (host.doubleLess doubleUlongMax truncated)
      if large then do
        raiseFpst sysFpsrExprV
        pure (BitVec.allOnes 64)
      else hostEval (host.doubleToInt .uint64 .trunc reg2)

abbrev opExecCeilfDulF (d : OpCodeFormatTypeF) : Exec D Unit := do
  let result ← cvtfPairToPair host (ceilDul host) d
  setDouble d.reg3.toNat result
  addPc 4

abbrev trncDul (reg2 : DoubleWord) : Exec D DoubleWord :=
  if doubleIsNan reg2 then do
    raiseFpst sysFpsrExprV
    pure 0
  else if doubleIsInf reg2 then do
    raiseFpst sysFpsrExprV
    pure (if doubleIsPlus reg2 then BitVec.allOnes 64 else 0)
  else do
    let negative ← hostEval (host.doubleLess reg2 0)
    if negative then do
      raiseFpst sysFpsrExprV
      pure 0
    else do
      let large ← hostEval (host.doubleLess doubleUlongMax reg2)
      if large then do
        raiseFpst sysFpsrExprV
        pure (BitVec.allOnes 64)
      else hostEval (host.doubleToInt .uint64 .trunc reg2)

abbrev opExecTrncfDulF (d : OpCodeFormatTypeF) : Exec D Unit := do
  let result ← cvtfPairToPair host (trncDul host) d
  setDouble d.reg3.toNat result
  addPc 4

/-- `LONG_MAX` and its negative bound the result. -/
abbrev trncDl (reg2 : DoubleWord) : Exec D DoubleWord :=
  if doubleIsNan reg2 || doubleIsInf reg2 then do
    raiseFpst sysFpsrExprV
    pure (if doubleIsPlus reg2 then BitVec.intMax 64 else BitVec.intMin 64 + 1)
  else do
    let result ← hostEval (host.doubleToInt .sint64 .trunc reg2)
    if result.toInt < -(2 ^ 63 - 1) then do
      raiseFpst sysFpsrExprV
      pure (BitVec.intMin 64 + 1)
    else pure result

abbrev opExecTrncfDlF (d : OpCodeFormatTypeF) : Exec D Unit := do
  let result ← cvtfPairToPair host (trncDl host) d
  setDouble d.reg3.toNat result
  addPc 4

/-- A conversion from a pair to a register. -/
abbrev cvtfPairToWord (type : NumType) (d : OpCodeFormatTypeF) : Exec D Unit := do
  checkReg (d.reg2.toNat + 1)
  checkReg d.reg3.toNat
  let reg2 ← getDouble d.reg2.toNat
  let _ ← prepareFloatOp host
  let result ← doubleCast host type .none reg2
  endFloatOp host
  setR d.reg3.toNat (result.setWidth 32)
  addPc 4

abbrev opExecCvtfDuwF (d : OpCodeFormatTypeF) : Exec D Unit := cvtfPairToWord host .uint32 d
abbrev opExecCvtfDwF (d : OpCodeFormatTypeF) : Exec D Unit := cvtfPairToWord host .sint32 d
abbrev opExecTrncfDuwF (d : OpCodeFormatTypeF) : Exec D Unit := cvtfPairToWord host .uint32 d
abbrev opExecTrncfDwF (d : OpCodeFormatTypeF) : Exec D Unit := cvtfPairToWord host .sint32 d

/-- The host's exception flags are not read. -/
abbrev opExecCeilfDuwF (d : OpCodeFormatTypeF) : Exec D Unit := do
  checkReg (d.reg2.toNat + 1)
  checkReg d.reg3.toNat
  let reg2 ← getDouble d.reg2.toNat
  let _ ← prepareFloatOp host
  let result ← doubleCast host .sint32 .trunc reg2
  setR d.reg3.toNat (result.setWidth 32)
  addPc 4

end Host

/-- `op_exec_ceilf_dw_F` and `op_exec_floorf_dl_F` to `op_exec_floorf_dw_F`. -/
abbrev notSupported (_ : OpCodeFormatTypeF) : Exec D Unit :=
  fail

end Exec

end Athrill
