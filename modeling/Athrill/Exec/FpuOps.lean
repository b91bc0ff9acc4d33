import Athrill.Exec.Ordinary

/-!
# Floating-point formats and status registers

`cpu_fpu_ops.h` and the helpers at the head of `op_exec_fpu.c`.  The arithmetic
itself is the host's: `HostFloat` holds the C expressions on `float` and
`double` that the executors evaluate and the functions of `fenv.h`.  The
floating-point environment of the host is part of the state `D`.

* `floatIsNan` and the other classes of a bit pattern.
* `sysSetFpsrXc` and the other fields of the status registers.
* `prepareFloatOp`, `endFloatOp`: the frame of an operation.
* `setSubnormalOperand`, `setSubnormalResult`: the flushing of subnormal
  numbers.
-/

namespace Athrill

open TargetCore Routine Bits

variable {D : Type}

/-! ## Single precision -/

def getFloatExpValue (x : Word) : Word := (0x7F800000#32 &&& x) >>> 23
def getFloatMantissaValue (x : Word) : Word := 0x007FFFFF#32 &&& x

def floatIsZero (x : Word) : Bool :=
  decide (getFloatExpValue x = 0) && decide (getFloatMantissaValue x = 0)
def floatIsNormal (x : Word) : Bool :=
  decide (1 ≤ getFloatExpValue x) && decide (getFloatExpValue x ≤ 254)
def floatIsSbnorm (x : Word) : Bool :=
  decide (getFloatExpValue x = 0) && decide (getFloatMantissaValue x ≠ 0)
def floatIsInf (x : Word) : Bool :=
  decide (getFloatExpValue x = 255) && decide (getFloatMantissaValue x = 0)
def floatIsNan (x : Word) : Bool :=
  decide (getFloatExpValue x = 255) && decide (getFloatMantissaValue x ≠ 0)
def floatIsPlus (x : Word) : Bool := !x.getLsbD 31
def floatIsMinus (x : Word) : Bool := x.getLsbD 31

def floatIsQnan (x : Word) : Bool := floatIsNan x && x.getLsbD 22
def floatIsSnan (x : Word) : Bool := floatIsNan x && !x.getLsbD 22

def floatQnan : Word := 0x7FFFFFFF

/-- `FLT_MIN`. -/
def fltMin : Word := 0x00800000

/-- `FLOAT_SET_SIGN_REVERSE`. -/
def floatSetSignReverse (x : Word) : Word :=
  if floatIsPlus x then setBit x 31 else clearBit x 31

/-! ## Double precision -/

/-- `binary[0]` of a `DoubleBinaryDataType`. -/
def binary0 (x : DoubleWord) : Word := x.setWidth 32

/-- `binary[1]`, the half with the sign. -/
def binary1 (x : DoubleWord) : Word := (x >>> 32).setWidth 32

/-- The double with the given halves. -/
def ofBinary (b0 b1 : Word) : DoubleWord := b1 ++ b0

def getDoubleExpValue (x : DoubleWord) : Word := (0x7FE00000#32 &&& binary1 x) >>> 20
def getDoubleMantissa1Value (x : DoubleWord) : Word := 0x007FFFFF#32 &&& binary1 x
def getDoubleMantissa0Value (x : DoubleWord) : Word := binary0 x

/-- Both parts of the mantissa are zero. -/
def doubleMantissaIsZero (x : DoubleWord) : Bool :=
  decide (getDoubleMantissa0Value x = 0) && decide (getDoubleMantissa1Value x = 0)

def doubleIsZero (x : DoubleWord) : Bool :=
  decide (getDoubleExpValue x = 0) && doubleMantissaIsZero x
def doubleIsNormal (x : DoubleWord) : Bool :=
  decide (1 ≤ getDoubleExpValue x) && decide (getDoubleExpValue x ≤ 2046)
def doubleIsSbnorm (x : DoubleWord) : Bool :=
  decide (getDoubleExpValue x = 0) && !doubleMantissaIsZero x
def doubleIsInf (x : DoubleWord) : Bool :=
  decide (getDoubleExpValue x = 2047) && doubleMantissaIsZero x
def doubleIsNan (x : DoubleWord) : Bool :=
  decide (getDoubleExpValue x = 2047) && !doubleMantissaIsZero x
def doubleIsPlus (x : DoubleWord) : Bool := !x.getLsbD 63
def doubleIsMinus (x : DoubleWord) : Bool := x.getLsbD 63

def doubleIsQnan (x : DoubleWord) : Bool := doubleIsNan x && (binary1 x).getLsbD 19
def doubleIsSnan (x : DoubleWord) : Bool := doubleIsNan x && !(binary1 x).getLsbD 19

def doubleQnan : DoubleWord := ofBinary 0xFFFFFFFF 0x7FFFFFFF
def doubleSnan : DoubleWord := ofBinary 0xFFFFFFFF 0x7FF7FFFF

/-- `DBL_MIN`. -/
def dblMin : DoubleWord := 0x0010000000000000

/-- `(double)INFINITY`. -/
def dblInfinity : DoubleWord := 0x7FF0000000000000

/-- `DOUBLE_SET_SIGN_REVERSE`. -/
def doubleSetSignReverse (x : DoubleWord) : DoubleWord :=
  if doubleIsPlus x then setBit x 63 else clearBit x 63

/-! ## Status registers -/

/-- `SYS_GET_DATA2` to `SYS_GET_DATA8`. -/
def sysGetData (mask : Byte) (pos : Nat) (data : Word) : Byte :=
  (data >>> pos).setWidth 8 &&& mask

/-- `SYS_SET_DATA2` to `SYS_SET_DATA8`; the new value is not masked. -/
def sysSetData (mask : Word) (pos : Nat) (value : Byte) (data : Word) : Word :=
  (data &&& ~~~(mask <<< pos)) ||| (value.setWidth 32 <<< pos)

/-- One register is rewritten. -/
def modifySysreg (id : SysReg) (f : Word → Word) (cpu : TargetCore) : TargetCore :=
  cpu.setSysreg2 id (f (cpu.getSysreg2 id))

/-- `SYS_FPSR_EXPR_I` to `SYS_FPSR_EXPR_V`. -/
def sysFpsrExprI : Byte := 0x01
def sysFpsrExprU : Byte := 0x02
def sysFpsrExprO : Byte := 0x04
def sysFpsrExprZ : Byte := 0x08
def sysFpsrExprV : Byte := 0x10

/-- `sys_set_fpsr_cc`: the register and its alias; both masks have 16 bits. -/
def sysSetFpsrCc (data : Byte) (cpu : TargetCore) : TargetCore :=
  modifySysreg .fpcc (sysSetData 0xFFFF 0 data) (modifySysreg .fpsr (sysSetData 0xFFFF 24 data) cpu)

def sysGetFpsrCc (cpu : TargetCore) : Byte :=
  sysGetData 0xFF 24 (cpu.getSysreg2 .fpsr)

/-- `sys_set_fpsr_xc`, also `sys_set_fpst_xc`. -/
def sysSetFpsrXc (data : Byte) (cpu : TargetCore) : TargetCore :=
  modifySysreg .fpst (sysSetData 0x003F 8 data) (modifySysreg .fpsr (sysSetData 0x003F 10 data) cpu)

/-- `sys_set_fpsr_xp`, also `sys_set_fpst_xp`. -/
def sysSetFpsrXp (data : Byte) (cpu : TargetCore) : TargetCore :=
  modifySysreg .fpst (sysSetData 0x001F 0 data) (modifySysreg .fpsr (sysSetData 0x001F 0 data) cpu)

def sysGetFpstXc (cpu : TargetCore) : Byte :=
  sysGetData 0x3F 8 (cpu.getSysreg2 .fpst)

def sysGetFpstXp (cpu : TargetCore) : Byte :=
  sysGetData 0x1F 0 (cpu.getSysreg2 .fpst)

/-- `sys_set_fpsr_if` and `sys_clr_fpsr_if`. -/
def sysPutFpsrIf (flag : Bool) (cpu : TargetCore) : TargetCore :=
  modifySysreg .fpst (putBit · 5 flag) (modifySysreg .fpsr (putBit · 22 flag) cpu)

def sysIssetFpstIf (cpu : TargetCore) : Bool :=
  (cpu.getSysreg2 .fpst).getLsbD 5

def sysGetFpsrRm (cpu : TargetCore) : Byte :=
  sysGetData 0x03 18 (cpu.getSysreg2 .fpsr)

def sysSetFpsrRm (data : Byte) (cpu : TargetCore) : TargetCore :=
  modifySysreg .fpcfg (sysSetData 0x0003 8 data) (modifySysreg .fpsr (sysSetData 0x0003 18 data) cpu)

def sysSetFpsrXe (data : Byte) (cpu : TargetCore) : TargetCore :=
  modifySysreg .fpcfg (sysSetData 0x001F 0 data) (modifySysreg .fpsr (sysSetData 0x001F 5 data) cpu)

def sysGetFpccCc (cpu : TargetCore) : Byte :=
  sysGetData 0xFF 0 (cpu.getSysreg2 .fpcc)

def sysGetFpcfgRm (cpu : TargetCore) : Byte :=
  sysGetData 0x03 8 (cpu.getSysreg2 .fpcfg)

def sysGetFpcfgXe (cpu : TargetCore) : Byte :=
  sysGetData 0x1F 0 (cpu.getSysreg2 .fpcfg)

/-- `fpu_sync_sysreg`. -/
def fpuSyncSysreg (id : SysReg) (cpu : TargetCore) : TargetCore :=
  if id = .fpst then
    let cpu := sysSetFpsrXc (sysGetFpstXc cpu) cpu
    let cpu := sysSetFpsrXp (sysGetFpstXp cpu) cpu
    sysPutFpsrIf (sysIssetFpstIf cpu) cpu
  else if id = .fpcc then sysSetFpsrCc (sysGetFpccCc cpu) cpu
  else if id = .fpcfg then
    let cpu := sysSetFpsrRm (sysGetFpcfgRm cpu) cpu
    sysSetFpsrXe (sysGetFpcfgXe cpu) cpu
  else cpu

/-- It writes system registers only. -/
theorem eq_of_fpuSyncSysreg (id : SysReg) (cpu : TargetCore) :
    ∃ sys, fpuSyncSysreg id cpu = { cpu with sys := sys } := by
  -- every setter rewrites a register and its alias
  have hpair (id id' : SysReg) (f g : Word → Word) (cpu' : TargetCore)
      (h : ∃ sys, cpu' = { cpu with sys := sys }) :
      ∃ sys, modifySysreg id' g (modifySysreg id f cpu') = { cpu with sys := sys } := by
    obtain ⟨sys, hsys⟩ := h
    rw [hsys]
    exact ⟨_, rfl⟩
  unfold fpuSyncSysreg
  dsimp only
  split_ifs
  · exact hpair _ _ _ _ _ (hpair _ _ _ _ _ (hpair _ _ _ _ _ ⟨_, rfl⟩))
  · exact hpair _ _ _ _ _ ⟨_, rfl⟩
  · exact hpair _ _ _ _ _ (hpair _ _ _ _ _ ⟨_, rfl⟩)
  · exact ⟨_, rfl⟩

/-! ## The host -/

/-- `FpuConfigRoundingType`. -/
inductive FpuRounding where
  | rn | ru | rd | rz
  deriving DecidableEq, Repr

/-- The flags that `fetestexcept` reads. -/
structure FeExcept where
  divbyzero : Bool
  inexact : Bool
  invalid : Bool
  overflow : Bool
  underflow : Bool
  deriving DecidableEq, Repr

/-- The `float` expressions, on the data of `reg1`, `reg2` and `reg3`. -/
inductive FloatExpr where
  /-- `reg1 + reg2` -/
  | add
  /-- `reg1 * reg2` -/
  | mul
  /-- `reg2 / reg1` -/
  | div
  /-- `reg2 - reg1` -/
  | sub
  /-- `fmaf(reg2, reg1, reg3)` -/
  | fma
  /-- `fmaf(reg2, reg1, -reg3)` -/
  | fms
  /-- `reg2 * reg1 + reg3` -/
  | madd
  /-- `reg2 * reg1 - reg3` -/
  | msub
  /-- `-(reg2 * reg1 + reg3)` -/
  | nmadd
  /-- `-(reg2 * reg1 - reg3)` -/
  | nmsub
  /-- `-reg2` -/
  | neg
  deriving DecidableEq, Repr

/-- The `double` expressions, on the data of `reg1` and `reg2`. -/
inductive DoubleExpr where
  /-- `reg1 + reg2` -/
  | add
  /-- `reg1 * reg2` -/
  | mul
  /-- `reg2 / reg1` -/
  | div
  /-- `reg2 - reg1` -/
  | sub
  /-- `(double)1 / reg2` -/
  | recip
  /-- `1 / sqrt(reg2)` -/
  | rsqrt
  /-- `sqrt(reg2)` -/
  | sqrt
  /-- `trunc(reg2)` -/
  | trunc
  deriving DecidableEq, Repr

/-- The type of a number that is converted to `float` or `double`. -/
inductive NumType where
  | sint32 | uint32 | sint64 | uint64 | float
  deriving DecidableEq, Repr

/-- What is applied to a number before it is cast to an integer. -/
inductive RoundFun where
  | none | trunc | floor
  deriving DecidableEq, Repr

/-- The floating-point operations of the host on the state `D`. -/
structure HostFloat (D : Type) where
  fesetround : FpuRounding → D → D
  feclearexcept : D → D
  fetestexcept : D → FeExcept
  float : FloatExpr → Word → Word → Word → D → Word × D
  double : DoubleExpr → DoubleWord → DoubleWord → D → DoubleWord × D
  floatLess : Word → Word → D → Bool × D
  floatEqual : Word → Word → D → Bool × D
  doubleLess : DoubleWord → DoubleWord → D → Bool × D
  doubleEqual : DoubleWord → DoubleWord → D → Bool × D
  /-- `(float32)`; a `double` is converted for `NumType.float`. -/
  toFloat : NumType → DoubleWord → D → Word × D
  /-- `(float64)`; a `float` is converted for `NumType.float`. -/
  toDouble : NumType → DoubleWord → D → DoubleWord × D
  /-- A cast of a `float` to `sint64` or `uint64`. -/
  floatToInt : NumType → RoundFun → Word → D → DoubleWord × D
  /-- A cast of a `double` to an integer type. -/
  doubleToInt : NumType → RoundFun → DoubleWord → D → DoubleWord × D

/-- `(uint64)ULONG_MAX`, converted to `float`. -/
def floatUlongMax : Word := 0x5F800000

/-- `(uint64)ULONG_MAX`, converted to `double`. -/
def doubleUlongMax : DoubleWord := 0x43F0000000000000

/-! ## Subnormal numbers -/

/-- `set_subnormal_operand`: the zero of the same sign. -/
def setSubnormalOperand (operand : Word) : Word :=
  if floatIsSbnorm operand then
    if floatIsMinus operand then setBit 0 31 else 0
  else operand

/-- `set_subnormal_result`; to nearest and toward zero, the sign is set before
the whole word is cleared. -/
def setSubnormalResult (round : FpuRounding) (result : Word) : Word :=
  if floatIsSbnorm result then
    match round with
    | .rn | .rz => 0
    | .ru => if floatIsMinus result then setBit 0 31 else fltMin
    | .rd => if floatIsMinus result then setBit fltMin 31 else 0
  else result

/-- `set_subnormal_operand_double`. -/
def setSubnormalOperandDouble (operand : DoubleWord) : DoubleWord :=
  if doubleIsSbnorm operand then
    if doubleIsMinus operand then setBit 0 63 else 0
  else operand

/-- `set_subnormal_result_double`. -/
def setSubnormalResultDouble (round : FpuRounding) (result : DoubleWord) : DoubleWord :=
  if doubleIsSbnorm result then
    match round with
    | .rn | .rz => 0
    | .ru => if doubleIsMinus result then setBit 0 63 else dblMin
    | .rd => if doubleIsMinus result then setBit dblMin 63 else 0
  else result

/-! ## The frame of an operation -/

/-- The `switch` of `prepare_float_op`; the field has two bits, so the codes
`0x10` and `0x11` do not occur. -/
def fpuRoundType (cfg : Byte) : FpuRounding :=
  match cfg.toNat with
  | 0x00 => .rn
  | 0x01 => .rz
  | 0x10 => .ru
  | 0x11 => .rd
  | _ => .rn

namespace Exec

/-- One evaluation by the host. -/
def hostEval {α : Type} (f : D → α × D) : Exec D α :=
  lift fun s =>
    let result := f s.dev
    (.ok result.1, { s with dev := result.2 })

/-- The floating-point environment is changed. -/
abbrev hostModify (f : D → D) : Exec D Unit :=
  hostEval fun dev => ((), f dev)


/-- The bits are added to the exception fields `XC` and `XP`. -/
def raiseFpst (bits : Byte) : Exec D Unit :=
  modifyCpu fun cpu =>
    let cpu := sysSetFpsrXc (sysGetFpstXc cpu ||| bits) cpu
    sysSetFpsrXp (sysGetFpstXp cpu ||| bits) cpu

/-- `sys_set_fpsr_cc`, called by an executor. -/
def putFpsrCc (data : Byte) : Exec D Unit :=
  modifyCpu (sysSetFpsrCc data)

variable (host : HostFloat D)

abbrev prepareFloatOp : Exec D FpuRounding := do
  let cfg ← getCpu sysGetFpsrRm
  hostModify (host.fesetround (fpuRoundType cfg))
  hostModify host.feclearexcept
  pure (fpuRoundType cfg)

abbrev endFloatOp : Exec D Unit := do
  let flags ← gets fun s => host.fetestexcept s.dev
  (if flags.divbyzero then raiseFpst sysFpsrExprZ else pure ())
  (if flags.inexact then raiseFpst sysFpsrExprI else pure ())
  (if flags.invalid then raiseFpst sysFpsrExprV else pure ())
  (if flags.overflow then raiseFpst sysFpsrExprO else pure ())
  (if flags.underflow then raiseFpst sysFpsrExprU else pure ())

/-! ## What these steps keep -/

/-- A write to one floating-point status register. -/
theorem ordinaryStep_modifySysreg {id : SysReg} (hid : id ∈ fpuStatusRegs) (f : Word → Word)
    (s : CpuState D) : OrdinaryStep s { s with cpu := modifySysreg id f s.cpu } := by
  have hpsw : SysReg.psw ≠ id := by
    intro h
    rw [← h] at hid
    exact absurd hid (by decide)
  refine ⟨fun id' _ hid' => ?_, ?_, ⟨_, rfl⟩, rfl, rfl⟩
  · have hne : id' ≠ id := by
      intro h
      rw [h] at hid'
      exact hid' hid
    exact getSysreg2_setSysreg2_of_ne _ _ hne
  · have hsame : (modifySysreg id f s.cpu).psw = s.cpu.psw :=
      getSysreg2_setSysreg2_of_ne _ _ hpsw
    rw [hsame]
    exact AgreeOff.refl _ _

/-- A write to a status register and then to another. -/
theorem ordinaryStep_modifySysreg₂ {id id' : SysReg} (hid : id ∈ fpuStatusRegs)
    (hid' : id' ∈ fpuStatusRegs) (f g : Word → Word) (s : CpuState D) :
    OrdinaryStep s { s with cpu := modifySysreg id' g (modifySysreg id f s.cpu) } :=
  trans_of OrdinaryStep (ordinaryStep_modifySysreg hid f s) (ordinaryStep_modifySysreg hid' g _)

instance keeps_hostEval {α : Type} (f : D → α × D) :
    Keeps OrdinaryStep (hostEval f : Exec D α) :=
  keeps_lift fun _ => ⟨fun _ _ _ => rfl, AgreeOff.refl _ _, ⟨_, rfl⟩, rfl, rfl⟩

instance keeps_raiseFpst (bits : Byte) : Keeps OrdinaryStep (raiseFpst bits : Exec D Unit) := by
  refine keeps_modify fun s => ?_
  have hfpsr : SysReg.fpsr ∈ fpuStatusRegs := by decide
  have hfpst : SysReg.fpst ∈ fpuStatusRegs := by decide
  exact trans_of OrdinaryStep (ordinaryStep_modifySysreg₂ hfpsr hfpst _ _ s)
    (ordinaryStep_modifySysreg₂ hfpsr hfpst _ _ _)

instance keeps_putFpsrCc (data : Byte) : Keeps OrdinaryStep (putFpsrCc data : Exec D Unit) :=
  keeps_modify fun s => ordinaryStep_modifySysreg₂ (by decide) (by decide) _ _ s

end Exec

end Athrill
