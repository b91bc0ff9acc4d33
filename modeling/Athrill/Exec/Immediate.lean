import Athrill.Exec.Compute
import Athrill.Exec.Displacement
import Athrill.Exec.Logic

/-!
# Logical operations and their immediate forms

`AND`, `OR` and `XOR` take a second register, `ANDI`, `ORI` and `XORI` a
zero-extended halfword, and `TST` is an `AND` that keeps its register.  All are
executors of their own.  That of `ORI` does not clear the overflow flag.

* `LogicInstr`: the encodings and their operands.
* `logic_outcome`: registers and flags after each of them.
* `LogicCorrect`, `logic_exact`: when the forms agree.
-/

namespace Athrill

open TargetCore Routine

namespace Exec

variable {D : Type}

/-! ## The encodings -/

inductive LogicOp where
  | and | or | xor
  deriving DecidableEq

def LogicOp.apply (a b : Word) : LogicOp → Word
  | and => a &&& b
  | or => a ||| b
  | xor => a ^^^ b

inductive LogicInstr where
  | register (op : LogicOp) (d : OpCodeFormatType1)
  | immediate (op : LogicOp) (d : OpCodeFormatType6)
  | test (d : OpCodeFormatType1)

namespace LogicInstr

def exec : LogicInstr → Exec D Unit
  | register .and d => opExecAnd d
  | register .or d => opExecOr d
  | register .xor d => opExecXor d
  | immediate .and d => opExecAndi d
  | immediate .or d => opExecOri d
  | immediate .xor d => opExecXori d
  | test d => opExecTst d

def op : LogicInstr → LogicOp
  | register op _ | immediate op _ => op
  | test _ => .and

def first (cpu : TargetCore) : LogicInstr → Word
  | register _ d | test d => cpu.reg d.reg2
  | immediate _ d => cpu.reg d.reg1

/-- The other register, or the immediate. -/
def second (cpu : TargetCore) : LogicInstr → Word
  | register _ d | test d => cpu.reg d.reg1
  | immediate _ d => (d.imm.setWidth 16).setWidth 32

def result (cpu : TargetCore) (i : LogicInstr) : Word :=
  i.op.apply (i.first cpu) (i.second cpu)

/-- The register that is written. -/
def dest : LogicInstr → Option HalfWord
  | register _ d => some d.reg2
  | immediate _ d => some d.reg2
  | test _ => none

/-- The registers exist. -/
def Valid : LogicInstr → Prop
  | register _ d | test d => d.reg1.toNat < 32 ∧ d.reg2.toNat < 32
  | immediate _ d => d.reg1.toNat < 32 ∧ d.reg2.toNat < 32

def isOri : LogicInstr → Bool
  | immediate .or _ => true
  | _ => false

/-- The flags that the executor writes. -/
def flags (result : Word) (i : LogicInstr) : List (Nat × Bool) :=
  [(pswZ, decide (result = 0)), (pswS, result.msb)] ++
    if i.isOri then [] else [(pswOV, false)]

end LogicInstr

/-! ## Runs -/

/-- The immediate that `ORI` and `XORI` narrow to 16 bits. -/
theorem setWidth_opZeroExtend (data : Word) :
    ((opZeroExtend 16 data).setWidth 16 : HalfWord) = data.setWidth 16 := by
  rw [opZeroExtend_eq, BitVec.setWidth_setWidth_of_le _ (by omega)]
  exact BitVec.setWidth_eq _

section Run

variable (s : CpuState D)

/-- The two-register forms with a helper of `cpu_ops.h`. -/
theorem run_logic_register {op : LogicOp} {d : OpCodeFormatType1} (h1 : d.reg1.toNat < 32)
    (h2 : d.reg2.toNat < 32) :
    (LogicInstr.register op d).exec.run s =
      (.ok (), after s
        (Function.update s.cpu.r ⟨_, h2⟩ ((LogicInstr.register op d).result s.cpu))
        (writeFlags ((LogicInstr.register op d).flags ((LogicInstr.register op d).result s.cpu)))
        2) := by
  cases op with
  | and =>
    show (opExecAnd d).run s = _
    unfold opExecAnd opAnd
    rw [run_bind, run_checkReg h1, andThen_ok, run_bind, run_checkReg h2, andThen_ok, run_bind,
      run_getR h2, andThen_ok, run_bind, run_getR h1, andThen_ok, ← reg_of_lt h2, ← reg_of_lt h1]
    refine Eq.trans ?_ (run_setR_after s _ h2 _ 2)
    rw [BitVec.and_comm]
    rfl
  | or =>
    show (opExecOr d).run s = _
    unfold opExecOr opOr
    rw [run_bind, run_checkReg h1, andThen_ok, run_bind, run_checkReg h2, andThen_ok, run_bind,
      run_getR h2, andThen_ok, run_bind, run_getR h1, andThen_ok, ← reg_of_lt h2, ← reg_of_lt h1]
    refine Eq.trans ?_ (run_setR_after s _ h2 _ 2)
    rw [BitVec.or_comm]
    rfl
  | xor =>
    show (opExecXor d).run s = _
    unfold opExecXor
    rw [run_bind, run_checkReg h1, andThen_ok, run_bind, run_checkReg h2, andThen_ok, run_bind,
      run_getR h2, andThen_ok, run_bind, run_getR h1, andThen_ok, ← reg_of_lt h2, ← reg_of_lt h1]
    show (setR _ _ >>= fun _ => _).run s = _
    rw [run_bind, run_setR h2, andThen_ok]
    rfl

theorem run_logic_immediate {op : LogicOp} {d : OpCodeFormatType6} (h1 : d.reg1.toNat < 32)
    (h2 : d.reg2.toNat < 32) :
    (LogicInstr.immediate op d).exec.run s =
      (.ok (), after s
        (Function.update s.cpu.r ⟨_, h2⟩ ((LogicInstr.immediate op d).result s.cpu))
        (writeFlags ((LogicInstr.immediate op d).flags ((LogicInstr.immediate op d).result s.cpu)))
        4) := by
  refine Eq.trans ?_ (run_setR_after s _ h2 _ 4)
  cases op with
  | and =>
    show (opExecAndi d).run s = _
    unfold opExecAndi opAndi
    rw [run_bind, run_checkReg h1, andThen_ok, run_bind, run_checkReg h2, andThen_ok, run_bind,
      run_getR h1, andThen_ok, ← reg_of_lt h1, opZeroExtend_eq]
    rfl
  | or =>
    show (opExecOri d).run s = _
    unfold opExecOri opOri
    rw [run_bind, run_checkReg h1, andThen_ok, run_bind, run_checkReg h2, andThen_ok, run_bind,
      run_getR h1, andThen_ok, ← reg_of_lt h1, setWidth_opZeroExtend]
    rfl
  | xor =>
    show (opExecXori d).run s = _
    unfold opExecXori opXori
    rw [run_bind, run_checkReg h1, andThen_ok, run_bind, run_checkReg h2, andThen_ok, run_bind,
      run_getR h1, andThen_ok, ← reg_of_lt h1, setWidth_opZeroExtend]
    rfl

theorem run_logic_test {d : OpCodeFormatType1} (h1 : d.reg1.toNat < 32)
    (h2 : d.reg2.toNat < 32) :
    (LogicInstr.test d).exec.run s =
      (.ok (), after s s.cpu.r
        (writeFlags ((LogicInstr.test d).flags ((LogicInstr.test d).result s.cpu))) 2) := by
  show (opExecTst d).run s = _
  unfold opExecTst opAnd
  rw [run_bind, run_checkReg h1, andThen_ok, run_bind, run_checkReg h2, andThen_ok, run_bind,
    run_getR h2, andThen_ok, run_bind, run_getR h1, andThen_ok, ← reg_of_lt h2, ← reg_of_lt h1,
    BitVec.and_comm]
  rfl

end Run

/-- The registers and the flags after a logical instruction. -/
theorem logic_outcome {i : LogicInstr} (hvalid : i.Valid) (s : CpuState D) :
    ∃ s', i.exec.run s = (.ok (), s') ∧
      (∀ n, s'.cpu.reg n = if i.dest = some n then i.result s.cpu else s.cpu.reg n) ∧
      ∀ bit < 32, s'.cpu.issetPsw bit =
        ((i.flags (i.result s.cpu)).reverse.lookup bit).getD (s.cpu.issetPsw bit) := by
  cases i with
  | register op d =>
    obtain ⟨h1, h2⟩ := hvalid
    refine ⟨_, run_logic_register s h1 h2, ?_, ?_⟩
    · intro n
      rw [reg_after s 2 h2 _ (r_writeFlags _)]
      simp only [LogicInstr.dest, Option.some.injEq, eq_comm]
    · intro bit hbit
      rw [issetPsw_after, issetPsw_writeFlags _ _ hbit]
      rfl
  | immediate op d =>
    obtain ⟨h1, h2⟩ := hvalid
    refine ⟨_, run_logic_immediate s h1 h2, ?_, ?_⟩
    · intro n
      rw [reg_after s 4 h2 _ (r_writeFlags _)]
      simp only [LogicInstr.dest, Option.some.injEq, eq_comm]
    · intro bit hbit
      rw [issetPsw_after, issetPsw_writeFlags _ _ hbit]
      rfl
  | test d =>
    obtain ⟨h1, h2⟩ := hvalid
    refine ⟨_, run_logic_test s h1 h2, ?_, ?_⟩
    · intro n
      rw [if_neg (by simp [LogicInstr.dest])]
      exact reg_congr (r_after s _ 2 (r_writeFlags _)) n
    · intro bit hbit
      rw [issetPsw_after, issetPsw_writeFlags _ _ hbit]

section Flags

variable {i : LogicInstr} (hvalid : i.Valid) {s s' : CpuState D}
  (hrun : i.exec.run s = (.ok (), s'))
include hvalid hrun

theorem reg_logic (n : HalfWord) :
    s'.cpu.reg n = if i.dest = some n then i.result s.cpu else s.cpu.reg n := by
  obtain ⟨t, ht, hreg, -⟩ := logic_outcome hvalid s
  rw [ht] at hrun
  cases hrun
  exact hreg n

theorem issetPsw_logic {bit : Nat} (hbit : bit < 32) :
    s'.cpu.issetPsw bit =
      ((i.flags (i.result s.cpu)).reverse.lookup bit).getD (s.cpu.issetPsw bit) := by
  obtain ⟨t, ht, -, hflags⟩ := logic_outcome hvalid s
  rw [ht] at hrun
  cases hrun
  exact hflags bit hbit

theorem zero_logic : s'.cpu.issetPsw pswZ = decide (i.result s.cpu = 0) := by
  rw [issetPsw_logic hvalid hrun (by decide)]
  unfold LogicInstr.flags
  cases i.isOri <;> rfl

theorem sign_logic : s'.cpu.issetPsw pswS = (i.result s.cpu).msb := by
  rw [issetPsw_logic hvalid hrun (by decide)]
  unfold LogicInstr.flags
  cases i.isOri <;> rfl

theorem overflow_logic :
    s'.cpu.issetPsw pswOV = (i.isOri && s.cpu.issetPsw pswOV) := by
  rw [issetPsw_logic hvalid hrun (by decide)]
  unfold LogicInstr.flags
  cases i.isOri <;> rfl

theorem carry_logic : s'.cpu.issetPsw pswCY = s.cpu.issetPsw pswCY := by
  rw [issetPsw_logic hvalid hrun (by decide)]
  unfold LogicInstr.flags
  cases i.isOri <;> rfl

theorem saturation_logic : s'.cpu.issetPsw pswSAT = s.cpu.issetPsw pswSAT := by
  rw [issetPsw_logic hvalid hrun (by decide)]
  unfold LogicInstr.flags
  cases i.isOri <;> rfl

end Flags

/-! ## Correctness -/

/-- What a logical instruction promises of the state `s'` it leaves.  The
two-register form on the same operands, from a state with the same flags, has
the same result and the same flags. -/
structure LogicCorrect (i : LogicInstr) (s s' : CpuState D) : Prop where
  result : ∀ n, s'.cpu.reg n = if i.dest = some n then i.result s.cpu else s.cpu.reg n
  overflow : s'.cpu.issetPsw pswOV = false
  carry : s'.cpu.issetPsw pswCY = s.cpu.issetPsw pswCY
  saturation : s'.cpu.issetPsw pswSAT = s.cpu.issetPsw pswSAT
  agrees : ∀ (d : OpCodeFormatType1) (t t' : CpuState D),
    (LogicInstr.register i.op d).Valid →
    (LogicInstr.register i.op d).first t.cpu = i.first s.cpu →
    (LogicInstr.register i.op d).second t.cpu = i.second s.cpu →
    (∀ bit, t.cpu.issetPsw bit = s.cpu.issetPsw bit) →
    (LogicInstr.register i.op d).exec.run t = (.ok (), t') →
    t'.cpu.reg d.reg2 = i.result s.cpu ∧
      ∀ bit ∈ [pswS, pswZ, pswOV, pswCY], t'.cpu.issetPsw bit = s'.cpu.issetPsw bit

theorem logicCorrect_iff {i : LogicInstr} (hvalid : i.Valid) {s s' : CpuState D}
    (hrun : i.exec.run s = (.ok (), s')) :
    LogicCorrect i s s' ↔ i.isOri = false ∨ s.cpu.issetPsw pswOV = false := by
  have hov := overflow_logic hvalid hrun
  constructor
  · intro h
    rw [h.overflow] at hov
    cases hori : i.isOri with
    | true => exact Or.inr (by simpa [hori] using hov.symm)
    | false => exact Or.inl rfl
  · intro h
    have hclear : s'.cpu.issetPsw pswOV = false := by
      rcases h with h | h <;> rw [hov, h] <;> simp
    exact
      { result := reg_logic hvalid hrun
        overflow := hclear
        carry := carry_logic hvalid hrun
        saturation := saturation_logic hvalid hrun
        agrees := by
          intro d t t' hvalid' hfirst hsecond hpsw hrun'
          have hresult : (LogicInstr.register i.op d).result t.cpu = i.result s.cpu := by
            unfold LogicInstr.result
            rw [hfirst, hsecond]
            rfl
          constructor
          · rw [reg_logic hvalid' hrun', hresult]
            exact if_pos rfl
          · intro bit hbit
            simp only [List.mem_cons, List.not_mem_nil, or_false] at hbit
            rcases hbit with rfl | rfl | rfl | rfl
            · rw [sign_logic hvalid' hrun', sign_logic hvalid hrun, hresult]
            · rw [zero_logic hvalid' hrun', zero_logic hvalid hrun, hresult]
            · rw [hclear, overflow_logic hvalid' hrun']
              rfl
            · rw [carry_logic hvalid' hrun', carry_logic hvalid hrun, hpsw] }

/-- All forms agree, except that `ORI` keeps an overflow flag that is set. -/
theorem logic_exact {i : LogicInstr} (hvalid : i.Valid) (s : CpuState D) :
    (∃ s', i.exec.run s = (.ok (), s') ∧ LogicCorrect i s s') ↔
      i.isOri = false ∨ s.cpu.issetPsw pswOV = false := by
  constructor
  · rintro ⟨s', hrun, hcorrect⟩
    exact (logicCorrect_iff hvalid hrun).mp hcorrect
  · intro h
    obtain ⟨s', hrun, -⟩ := logic_outcome hvalid s
    exact ⟨s', hrun, (logicCorrect_iff hvalid hrun).mpr h⟩

/-- `ORI 0, r1, r2`. -/
def oriZero : LogicInstr :=
  .immediate .or ⟨0x34, 0, 1, 2⟩

/-- `ORI 0xF00F, r1, r2` with a number in `r1`. -/
theorem logic_exact_operand :
    ∃ s', (LogicInstr.immediate .or ⟨0x34, 0xF00F, 1, 2⟩).exec.run (operandState 0x12345678 0) =
        (.ok (), s') ∧
      LogicCorrect (.immediate .or ⟨0x34, 0xF00F, 1, 2⟩) (operandState 0x12345678 0) s' :=
  (logic_exact (i := .immediate .or ⟨0x34, 0xF00F, 1, 2⟩) ⟨by decide, by decide⟩
    (operandState 0x12345678 0)).mpr (Or.inr (by decide))

/-- The machine after reset with the overflow flag set. -/
def overflowState : CpuState Unit :=
  { resetState with cpu := resetState.cpu.setPsw pswOV }

/-- `ORI` leaves the overflow flag of an earlier instruction. -/
theorem ori_keeps_overflow :
    ¬ ∃ s', oriZero.exec.run overflowState = (.ok (), s') ∧
      LogicCorrect oriZero overflowState s' := by
  rintro ⟨s', hrun, hcorrect⟩
  have hs' : s' = (oriZero.exec.run overflowState).2 := by
    rw [hrun]
  have hov := hcorrect.overflow
  rw [hs'] at hov
  revert hov
  decide +kernel

end Exec

end Athrill
