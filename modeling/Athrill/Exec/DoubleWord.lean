import Athrill.Exec.Compute
import Athrill.Exec.Saturate
import Athrill.Lib.Limbs

/-!
# Double-word sums and differences

A 64-bit value in two general registers.  `ADD` works on the low words and `ADF`
with the carry condition on the high words; `SUB` and `SBF` go together in the
same way.  The flags carry one bit from the first instruction to the second.

* `sumFlags3`, `differenceFlags3`: the flags that `ADF` and `SBF` leave.
* `DoubleOp`: the two pairs of instructions and the operation they compute.
* `doubleWord_exact`: the result and the flags of a pair.
-/

namespace Athrill

open TargetCore Routine

namespace Exec

variable {D : Type}

/-! ## The flags of three operands -/

/-- The flags that `ADF` leaves. -/
def sumFlags3 (left right data : Word) (cpu : TargetCore) : TargetCore :=
  (((cpu.writePsw pswCY
    (decide (0xFFFFFFFF < left.toNat + right.toNat + data.toNat))).writePsw pswOV
    (decide (cpuRegPlusMax < left.toInt + right.toInt + data.toInt) ||
      decide (left.toInt + right.toInt + data.toInt < cpuRegMinusMax))).writePsw pswZ
    (decide (left + right + data = 0))).writePsw pswS (left + right + data).msb

/-- The flags that `SBF` leaves. -/
def differenceFlags3 (left right data : Word) (cpu : TargetCore) : TargetCore :=
  (((cpu.writePsw pswCY
    ((left.setWidth 64 - right.setWidth 64 - data.setWidth 64).getLsbD 32)).writePsw pswOV
    (decide (cpuRegPlusMax < left.toInt + -right.toInt + -data.toInt) ||
      decide (left.toInt + -right.toInt + -data.toInt < cpuRegMinusMax))).writePsw pswZ
    (decide (left - right - data = 0))).writePsw pswS (left - right - data).msb

section Flags3

variable (left right data : Word) (cpu : TargetCore)

theorem cy_sumFlags3 :
    (sumFlags3 left right data cpu).issetPsw pswCY =
      decide (2 ^ 32 ≤ left.toNat + right.toNat + data.toNat) := by
  unfold sumFlags3
  rw [issetPsw_writePsw_of_ne (by decide), issetPsw_writePsw_of_ne (by decide),
    issetPsw_writePsw_of_ne (by decide), issetPsw_writePsw_self (by decide), decide_eq_decide]
  omega

theorem ov_sumFlags3 :
    (sumFlags3 left right data cpu).issetPsw pswOV =
      decide (Flags.OutOfRange 32 (left.toInt + right.toInt + data.toInt)) := by
  unfold sumFlags3
  rw [issetPsw_writePsw_of_ne (by decide), issetPsw_writePsw_of_ne (by decide),
    issetPsw_writePsw_self (by decide), ← Bool.decide_or, decide_eq_decide]
  exact (outOfRange_iff _).symm

theorem cy_differenceFlags3 (hdata : right.toNat + data.toNat ≤ 2 ^ 32) :
    (differenceFlags3 left right data cpu).issetPsw pswCY =
      decide (left.toNat < right.toNat + data.toNat) := by
  unfold differenceFlags3
  rw [issetPsw_writePsw_of_ne (by decide), issetPsw_writePsw_of_ne (by decide),
    issetPsw_writePsw_of_ne (by decide), issetPsw_writePsw_self (by decide)]
  exact Flags.testBit_sub_sub (by omega) left right data hdata

theorem ov_differenceFlags3 :
    (differenceFlags3 left right data cpu).issetPsw pswOV =
      decide (Flags.OutOfRange 32 (left.toInt - right.toInt - data.toInt)) := by
  unfold differenceFlags3
  rw [issetPsw_writePsw_of_ne (by decide), issetPsw_writePsw_of_ne (by decide),
    issetPsw_writePsw_self (by decide), ← Bool.decide_or, decide_eq_decide]
  exact (outOfRange_iff _).symm

theorem r_sumFlags3 : (sumFlags3 left right data cpu).r = cpu.r := by
  unfold sumFlags3
  simp only [r_writePsw]

theorem r_differenceFlags3 : (differenceFlags3 left right data cpu).r = cpu.r := by
  unfold differenceFlags3
  simp only [r_writePsw]

theorem r_sumFlags : (sumFlags left right cpu).r = cpu.r := by
  unfold sumFlags
  simp only [r_writePsw]

theorem r_differenceFlags : (differenceFlags left right cpu).r = cpu.r := by
  unfold differenceFlags
  simp only [r_writePsw]

end Flags3

/-! ## The four instructions -/

section Run

variable {d : OpCodeFormatType1} {d' : OpCodeFormatType11}

theorem run_add1 (h1 : d.reg1.toNat < 32) (h2 : d.reg2.toNat < 32) (s : CpuState D) :
    (opExecAdd1 d).run s =
      (.ok (), after s (Function.update s.cpu.r ⟨_, h2⟩ (s.cpu.reg d.reg2 + s.cpu.reg d.reg1))
        (sumFlags (s.cpu.reg d.reg2) (s.cpu.reg d.reg1)) 2) := by
  unfold opExecAdd1
  rw [run_bind, run_checkReg h1, andThen_ok, run_bind, run_checkReg h2, andThen_ok, run_bind,
    run_getR h2, andThen_ok, run_bind, run_getR h1, andThen_ok, ← reg_of_lt h1, ← reg_of_lt h2,
    run_bind, run_setR h2, andThen_ok]
  rfl

theorem run_sub1 (h1 : d.reg1.toNat < 32) (h2 : d.reg2.toNat < 32) (s : CpuState D) :
    (opExecSub d).run s =
      (.ok (), after s (Function.update s.cpu.r ⟨_, h2⟩ (s.cpu.reg d.reg2 - s.cpu.reg d.reg1))
        (differenceFlags (s.cpu.reg d.reg2) (s.cpu.reg d.reg1)) 2) := by
  unfold opExecSub
  rw [run_bind, run_checkReg h1, andThen_ok, run_bind, run_checkReg h2, andThen_ok, run_bind,
    run_getR h2, andThen_ok, run_bind, run_getR h1, andThen_ok, ← reg_of_lt h1, ← reg_of_lt h2,
    run_bind, run_setR h2, andThen_ok]
  rfl

/-- What `ADF` adds and `SBF` subtracts beside the registers. -/
def addData (d : OpCodeFormatType11) (cpu : TargetCore) : Word :=
  if opExecCond cpu (cond11 d) then 1 else 0

theorem run_adf11 (h1 : d'.reg1.toNat < 32) (h2 : d'.reg2.toNat < 32) (h3 : d'.reg3.toNat < 32)
    (s : CpuState D) :
    (opExecAdf11 d').run s =
      (.ok (), after s
        (Function.update s.cpu.r ⟨_, h3⟩
          (s.cpu.reg d'.reg2 + s.cpu.reg d'.reg1 + addData d' s.cpu))
        (sumFlags3 (s.cpu.reg d'.reg2) (s.cpu.reg d'.reg1) (addData d' s.cpu)) 4) := by
  unfold opExecAdf11
  rw [run_bind, run_checkReg h1, andThen_ok, run_bind, run_checkReg h2, andThen_ok, run_bind,
    run_checkReg h3, andThen_ok, run_bind, run_getR h1, andThen_ok, run_bind, run_getR h2,
    andThen_ok, ← reg_of_lt h1, ← reg_of_lt h2, run_bind]
  show (setR _ _ >>= fun _ => _).run s = _
  rw [run_bind, run_setR h3, andThen_ok]
  rfl

theorem run_sbf11 (h1 : d'.reg1.toNat < 32) (h2 : d'.reg2.toNat < 32) (h3 : d'.reg3.toNat < 32)
    (s : CpuState D) :
    (opExecSbf11 d').run s =
      (.ok (), after s
        (Function.update s.cpu.r ⟨_, h3⟩
          (s.cpu.reg d'.reg2 - s.cpu.reg d'.reg1 - addData d' s.cpu))
        (differenceFlags3 (s.cpu.reg d'.reg2) (s.cpu.reg d'.reg1) (addData d' s.cpu)) 4) := by
  unfold opExecSbf11
  rw [run_bind, run_checkReg h1, andThen_ok, run_bind, run_checkReg h2, andThen_ok, run_bind,
    run_checkReg h3, andThen_ok, run_bind]
  show (getR _ >>= fun _ => _).run s = _
  rw [run_bind, run_getR h2, andThen_ok, run_bind, run_getR h1, andThen_ok, ← reg_of_lt h1,
    ← reg_of_lt h2]
  show (setR _ _ >>= fun _ => _).run s = _
  rw [run_bind, run_setR h3, andThen_ok]
  rfl

/-- Under the carry condition the carry flag is added. -/
theorem addData_of_carry (hcond : cond11 d' = Condition.l.code) (cpu : TargetCore) :
    addData d' cpu = if cpu.issetPsw pswCY then 1 else 0 := by
  unfold addData
  rw [hcond]
  rfl

end Run

/-! ## The carry flag as a word -/

theorem toNat_flagWord (c : Prop) [Decidable c] :
    (if c then 1 else 0 : Word).toNat = if c then 1 else 0 := by
  split_ifs <;> rfl

theorem toInt_flagWord (c : Prop) [Decidable c] :
    (if c then 1 else 0 : Word).toInt = if c then 1 else 0 := by
  split_ifs <;> rfl

section Halves

variable (x₁ y₁ x₀ y₀ : Word)

/-- The overflow of a double-word sum is that of the high words and the carry. -/
theorem outOfRange_add_iff :
    Flags.OutOfRange 64
        ((x₁ ++ x₀ : DoubleWord).toInt + (y₁ ++ y₀ : DoubleWord).toInt) ↔
      Flags.OutOfRange 32
        (x₁.toInt + y₁.toInt + if 2 ^ 32 ≤ x₀.toNat + y₀.toNat then 1 else 0) := by
  have hx : x₀.toNat < 2 ^ 32 := x₀.isLt
  have hy : y₀.toNat < 2 ^ 32 := y₀.isLt
  have hsum : (x₁ ++ x₀ : DoubleWord).toInt + (y₁ ++ y₀ : DoubleWord).toInt =
      2 ^ 32 * (x₁.toInt + y₁.toInt + if 2 ^ 32 ≤ x₀.toNat + y₀.toNat then 1 else 0) +
        ((x₀.toNat + y₀.toNat -
          if 2 ^ 32 ≤ x₀.toNat + y₀.toNat then 2 ^ 32 else 0 : Nat) : Int) := by
    rw [Limbs.toInt_append (by omega), Limbs.toInt_append (by omega)]
    split_ifs <;> omega
  rw [hsum]
  refine Limbs.outOfRange_append_iff (by omega) _ (by omega) ?_
  split_ifs <;> omega

/-- The overflow of a double-word difference is that of the high words and the
borrow. -/
theorem outOfRange_sub_iff :
    Flags.OutOfRange 64
        ((x₁ ++ x₀ : DoubleWord).toInt - (y₁ ++ y₀ : DoubleWord).toInt) ↔
      Flags.OutOfRange 32
        (x₁.toInt - y₁.toInt - if x₀.toNat < y₀.toNat then 1 else 0) := by
  have hx : x₀.toNat < 2 ^ 32 := x₀.isLt
  have hy : y₀.toNat < 2 ^ 32 := y₀.isLt
  have hdiff : (x₁ ++ x₀ : DoubleWord).toInt - (y₁ ++ y₀ : DoubleWord).toInt =
      2 ^ 32 * (x₁.toInt - y₁.toInt - if x₀.toNat < y₀.toNat then 1 else 0) +
        (((if x₀.toNat < y₀.toNat then 2 ^ 32 else 0) + x₀.toNat - y₀.toNat : Nat) : Int) := by
    rw [Limbs.toInt_append (by omega), Limbs.toInt_append (by omega)]
    split_ifs <;> omega
  rw [hdiff]
  refine Limbs.outOfRange_append_iff (by omega) _ (by omega) ?_
  split_ifs <;> omega

end Halves

/-! ## Pairs of instructions -/

/-- The double-word operations. -/
inductive DoubleOp where
  | add
  | sub

/-- A double word in two registers. -/
def regPair (cpu : TargetCore) (hi lo : HalfWord) : DoubleWord :=
  cpu.reg hi ++ cpu.reg lo

namespace DoubleOp

/-- The instruction for the low words. -/
def low : DoubleOp → OpCodeFormatType1 → Exec D Unit
  | add => opExecAdd1
  | sub => opExecSub

/-- The instruction for the high words. -/
def high : DoubleOp → OpCodeFormatType11 → Exec D Unit
  | add => opExecAdf11
  | sub => opExecSbf11

section Width

variable {w : Nat} (x y : BitVec w)

/-- The operation modulo `2 ^ w`. -/
def result : DoubleOp → BitVec w
  | add => x + y
  | sub => x - y

/-- The carry or the borrow of the operation. -/
def carry : DoubleOp → Bool
  | add => decide (2 ^ w ≤ x.toNat + y.toNat)
  | sub => decide (x.toNat < y.toNat)

/-- The exact signed result. -/
def exact : DoubleOp → Int
  | add => x.toInt + y.toInt
  | sub => x.toInt - y.toInt

end Width

/-- The result on the high words and the data of the condition. -/
def result3 (x y data : Word) : DoubleOp → Word
  | add => x + y + data
  | sub => x - y - data

def flags (x y : Word) : DoubleOp → TargetCore → TargetCore
  | add => sumFlags x y
  | sub => differenceFlags x y

def flags3 (x y data : Word) : DoubleOp → TargetCore → TargetCore
  | add => sumFlags3 x y data
  | sub => differenceFlags3 x y data

theorem r_flags (op : DoubleOp) (x y : Word) (cpu : TargetCore) :
    (op.flags x y cpu).r = cpu.r := by
  cases op with
  | add => exact r_sumFlags x y cpu
  | sub => exact r_differenceFlags x y cpu

theorem r_flags3 (op : DoubleOp) (x y data : Word) (cpu : TargetCore) :
    (op.flags3 x y data cpu).r = cpu.r := by
  cases op with
  | add => exact r_sumFlags3 x y data cpu
  | sub => exact r_differenceFlags3 x y data cpu

theorem run_low (op : DoubleOp) {d : OpCodeFormatType1} (h1 : d.reg1.toNat < 32)
    (h2 : d.reg2.toNat < 32) (s : CpuState D) :
    (op.low d).run s =
      (.ok (), after s
        (Function.update s.cpu.r ⟨_, h2⟩ (op.result (s.cpu.reg d.reg2) (s.cpu.reg d.reg1)))
        (op.flags (s.cpu.reg d.reg2) (s.cpu.reg d.reg1)) 2) := by
  cases op with
  | add => exact run_add1 h1 h2 s
  | sub => exact run_sub1 h1 h2 s

theorem run_high (op : DoubleOp) {d : OpCodeFormatType11} (h1 : d.reg1.toNat < 32)
    (h2 : d.reg2.toNat < 32) (h3 : d.reg3.toNat < 32) (s : CpuState D) :
    (op.high d).run s =
      (.ok (), after s
        (Function.update s.cpu.r ⟨_, h3⟩
          (op.result3 (s.cpu.reg d.reg2) (s.cpu.reg d.reg1) (addData d s.cpu)))
        (op.flags3 (s.cpu.reg d.reg2) (s.cpu.reg d.reg1) (addData d s.cpu)) 4) := by
  cases op with
  | add => exact run_adf11 h1 h2 h3 s
  | sub => exact run_sbf11 h1 h2 h3 s

theorem cy_flags (op : DoubleOp) (x y : Word) (cpu : TargetCore) :
    (op.flags x y cpu).issetPsw pswCY = op.carry x y := by
  cases op with
  | add => exact cy_sumFlags x y cpu
  | sub => exact cy_differenceFlags x y cpu

section Halves

variable (op : DoubleOp) (x₁ y₁ x₀ y₀ : Word) (cpu : TargetCore)

/-- The carry of the low words, as the second instruction gets it. -/
def carryWord : Word :=
  if op.carry x₀ y₀ then 1 else 0

theorem result_append :
    op.result (x₁ ++ x₀) (y₁ ++ y₀) =
      op.result3 x₁ y₁ (op.carryWord x₀ y₀) ++ op.result x₀ y₀ := by
  unfold carryWord carry
  cases op with
  | add =>
    simp only [decide_eq_true_eq]
    exact Limbs.append_add_append x₁ y₁ x₀ y₀
  | sub =>
    simp only [decide_eq_true_eq]
    exact Limbs.append_sub_append x₁ y₁ x₀ y₀

theorem cy_flags3 :
    (op.flags3 x₁ y₁ (op.carryWord x₀ y₀) cpu).issetPsw pswCY =
      op.carry (x₁ ++ x₀) (y₁ ++ y₀) := by
  unfold carryWord carry
  cases op with
  | add =>
    simp only [decide_eq_true_eq]
    unfold flags3
    rw [cy_sumFlags3, toNat_flagWord]
    exact decide_eq_decide.mpr (Limbs.carry_append_iff x₁ y₁ x₀ y₀).symm
  | sub =>
    have hy : y₁.toNat < 2 ^ 32 := y₁.isLt
    simp only [decide_eq_true_eq]
    unfold flags3
    rw [cy_differenceFlags3, toNat_flagWord]
    · exact decide_eq_decide.mpr (Limbs.borrow_append_iff x₁ y₁ x₀ y₀).symm
    · rw [toNat_flagWord]
      split_ifs <;> omega

theorem ov_flags3 :
    (op.flags3 x₁ y₁ (op.carryWord x₀ y₀) cpu).issetPsw pswOV =
      decide (Flags.OutOfRange 64 (op.exact (x₁ ++ x₀) (y₁ ++ y₀))) := by
  unfold carryWord carry exact
  cases op with
  | add =>
    simp only [decide_eq_true_eq]
    unfold flags3
    rw [ov_sumFlags3, toInt_flagWord]
    exact decide_eq_decide.mpr (outOfRange_add_iff x₁ y₁ x₀ y₀).symm
  | sub =>
    simp only [decide_eq_true_eq]
    unfold flags3
    rw [ov_differenceFlags3, toInt_flagWord]
    exact decide_eq_decide.mpr (outOfRange_sub_iff x₁ y₁ x₀ y₀).symm

end Halves

end DoubleOp

/-- The core `cpu'` holds a double-word result and its flags. -/
structure DoubleCorrect (op : DoubleOp) (x y : DoubleWord) (hi lo : HalfWord)
    (cpu' : TargetCore) : Prop where
  result : regPair cpu' hi lo = op.result x y
  cy : cpu'.issetPsw pswCY = op.carry x y
  ov : cpu'.issetPsw pswOV = decide (Flags.OutOfRange 64 (op.exact x y))

/-- An instruction on the low words and one on the high words under the carry
condition compute the double-word operation and its flags, whatever the
operands are.  The low result overwrites no high word. -/
theorem doubleWord_exact (op : DoubleOp) {d : OpCodeFormatType1} {d' : OpCodeFormatType11}
    (hlow : d.reg1.toNat < 32 ∧ d.reg2.toNat < 32)
    (hhigh : d'.reg1.toNat < 32 ∧ d'.reg2.toNat < 32 ∧ d'.reg3.toNat < 32)
    (hcond : cond11 d' = Condition.l.code)
    (hdistinct : d'.reg1 ≠ d.reg2 ∧ d'.reg2 ≠ d.reg2 ∧ d'.reg3 ≠ d.reg2) (s : CpuState D) :
    ∃ s', (op.low d >>= fun _ => op.high d').run s = (.ok (), s') ∧
      DoubleCorrect op (regPair s.cpu d'.reg2 d.reg2) (regPair s.cpu d'.reg1 d.reg1)
        d'.reg3 d.reg2 s'.cpu := by
  obtain ⟨h1, h2⟩ := hlow
  obtain ⟨h1', h2', h3'⟩ := hhigh
  obtain ⟨hne1, hne2, hne3⟩ := hdistinct
  -- the state between the two instructions
  obtain ⟨s₁, hs₁⟩ : ∃ s₁, s₁ = after s
      (Function.update s.cpu.r ⟨_, h2⟩ (op.result (s.cpu.reg d.reg2) (s.cpu.reg d.reg1)))
      (op.flags (s.cpu.reg d.reg2) (s.cpu.reg d.reg1)) 2 := ⟨_, rfl⟩
  have hreg : ∀ m, s₁.cpu.reg m =
      if m = d.reg2 then op.result (s.cpu.reg d.reg2) (s.cpu.reg d.reg1) else s.cpu.reg m := by
    rw [hs₁]
    exact reg_after s 2 h2 _ (op.r_flags _ _)
  have hcy : s₁.cpu.issetPsw pswCY = op.carry (s.cpu.reg d.reg2) (s.cpu.reg d.reg1) := by
    rw [hs₁, issetPsw_after]
    exact op.cy_flags _ _ _
  have hdata : addData d' s₁.cpu = op.carryWord (s.cpu.reg d.reg2) (s.cpu.reg d.reg1) := by
    rw [addData_of_carry hcond, hcy]
    rfl
  have hrun := op.run_high h1' h2' h3' s₁
  rw [hdata, hreg d'.reg2, hreg d'.reg1, if_neg hne1, if_neg hne2] at hrun
  have hbind : (op.low d >>= fun _ => op.high d').run s = (op.high d').run s₁ := by
    rw [run_bind, op.run_low h1 h2, ← hs₁, andThen_ok]
  refine ⟨_, hbind.trans hrun, ?_⟩
  unfold regPair
  exact
    { result := by
        unfold regPair
        rw [reg_after s₁ 4 h3' _ (op.r_flags3 _ _ _), reg_after s₁ 4 h3' _ (op.r_flags3 _ _ _),
          if_pos rfl, if_neg hne3.symm, hreg, if_pos rfl]
        exact (op.result_append _ _ _ _).symm
      cy := by
        rw [issetPsw_after]
        exact op.cy_flags3 _ _ _ _ _
      ov := by
        rw [issetPsw_after]
        exact op.ov_flags3 _ _ _ _ _ }

/-- `ADD r1, r2` and `ADF L, r3, r4, r4` carry from the low word to the high
one. -/
theorem doubleWord_exact_carry :
    ∃ s', (DoubleOp.add.low ⟨0, 1, 2⟩ >>= fun _ =>
        DoubleOp.add.high ⟨0, 3, 4, 4, 0, 1, 0⟩).run (operandState 0xFFFFFFFF 1) = (.ok (), s') ∧
      DoubleCorrect .add 1 0xFFFFFFFF 4 2 s'.cpu :=
  @doubleWord_exact _ .add ⟨0, 1, 2⟩ ⟨0, 3, 4, 4, 0, 1, 0⟩
    ⟨by decide, by decide⟩ ⟨by decide, by decide, by decide⟩ (by decide)
    ⟨by decide, by decide, by decide⟩ (operandState 0xFFFFFFFF 1)

end Exec

end Athrill
