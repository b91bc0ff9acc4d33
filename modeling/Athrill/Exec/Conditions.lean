import Mathlib.Data.Fintype.Basic
import Athrill.Cpu.Run
import Athrill.Exec.Arithm
import Athrill.Lib.Flags

/-!
# Conditions after a comparison

`CMP` leaves the flags of the difference of its operands, and the two
evaluators of a condition code read them.  On all codes but one, both say how
the operands compare; on `SA` they are each other's opposite.

* `TargetCore.writePsw`, `differenceFlags`: the flags of a difference.
* `Cmp`, `run_cmp`: the encodings of `CMP`.
* `Condition`, `Condition.Holds`: what each code says about the operands.
* `conditions_exact`: both evaluators after `CMP`.
-/

namespace Athrill

open TargetCore Routine Bits

/-! ## Flags -/

namespace TargetCore

/-- A bit of `PSW` becomes `flag`. -/
def writePsw (bit : Nat) (flag : Bool) (cpu : TargetCore) : TargetCore :=
  if flag then cpu.setPsw bit else cpu.clrPsw bit

theorem issetPsw_writePsw_self {bit : Nat} (hbit : bit < 32) (flag : Bool) (cpu : TargetCore) :
    (cpu.writePsw bit flag).issetPsw bit = flag := by
  unfold writePsw issetPsw
  cases flag with
  | true =>
    rw [if_pos rfl, psw_setPsw, getLsbD_setBit]
    simp [hbit]
  | false =>
    rw [if_neg (by decide), psw_clrPsw, getLsbD_clearBit]
    simp

theorem issetPsw_writePsw_of_ne {bit bit' : Nat} (hne : bit ≠ bit') (flag : Bool)
    (cpu : TargetCore) : (cpu.writePsw bit flag).issetPsw bit' = cpu.issetPsw bit' := by
  unfold writePsw issetPsw
  cases flag with
  | true =>
    rw [if_pos rfl, psw_setPsw, getLsbD_setBit]
    simp [hne]
  | false =>
    rw [if_neg (by decide), psw_clrPsw, getLsbD_clearBit]
    simp [hne]

@[simp] theorem r_writePsw (bit : Nat) (flag : Bool) (cpu : TargetCore) :
    (cpu.writePsw bit flag).r = cpu.r := by
  unfold writePsw
  split_ifs <;> rfl

/-- A general register by its number. -/
def reg (cpu : TargetCore) (n : HalfWord) : Word :=
  if h : n.toNat < 32 then cpu.r ⟨n.toNat, h⟩ else 0

theorem reg_of_lt {n : HalfWord} (h : n.toNat < 32) (cpu : TargetCore) :
    cpu.reg n = cpu.r ⟨n.toNat, h⟩ :=
  dif_pos h

end TargetCore

namespace Exec

variable {D : Type} {s s' : CpuState D}

theorem run_putPsw (bit : Nat) (flag : Bool) (s : CpuState D) :
    (putPsw bit flag).run s = (.ok (), { s with cpu := s.cpu.writePsw bit flag }) :=
  rfl

theorem run_addPc (n : Word) (s : CpuState D) :
    (addPc n).run s = (.ok (), { s with cpu := { s.cpu with pc := s.cpu.pc + n } }) :=
  rfl

/-- The flags that `SUB` and `CMP` leave. -/
def differenceFlags (left right : Word) (cpu : TargetCore) : TargetCore :=
  (((cpu.writePsw pswCY ((left.setWidth 64 - right.setWidth 64).getLsbD 32)).writePsw pswOV
    (decide (cpuRegPlusMax < left.toInt + -right.toInt) ||
      decide (left.toInt + -right.toInt < cpuRegMinusMax))).writePsw pswZ
    (decide (left - right = 0))).writePsw pswS (left - right).msb

/-- The encodings of `CMP`. -/
inductive Cmp where
  | format1 (d : OpCodeFormatType1)
  | format2 (d : OpCodeFormatType2)

namespace Cmp

def exec : Cmp → Exec D Unit
  | format1 d => opExecCmp1 d
  | format2 d => opExecCmp2 d

/-- The register that is compared. -/
def left (cpu : TargetCore) : Cmp → Word
  | format1 d => cpu.reg d.reg2
  | format2 d => cpu.reg d.reg2

/-- The operand that is subtracted. -/
def right (cpu : TargetCore) : Cmp → Word
  | format1 d => cpu.reg d.reg1
  | format2 d => opFormat2ImmSignExtend d.imm

end Cmp

open Cmp in
/-- `CMP` writes the flags of the difference and moves on. -/
theorem run_cmp {cmp : Cmp} {s s' : CpuState D} (h : cmp.exec.run s = (.ok (), s')) :
    s' = { s with cpu :=
      { differenceFlags (cmp.left s.cpu) (cmp.right s.cpu) s.cpu with pc := s'.cpu.pc } } := by
  cases cmp with
  | format1 d =>
    obtain ⟨h1, h⟩ := checkReg_ok h
    obtain ⟨h2, h⟩ := checkReg_ok h
    rw [run_bind, run_getR h2, andThen_ok, run_bind, run_getR h1, andThen_ok] at h
    cases h
    have hleft : (format1 d).left s.cpu = s.cpu.r ⟨_, h2⟩ := reg_of_lt h2 s.cpu
    have hright : (format1 d).right s.cpu = s.cpu.r ⟨_, h1⟩ := reg_of_lt h1 s.cpu
    rw [hleft, hright]
    rfl
  | format2 d =>
    obtain ⟨h2, h⟩ := checkReg_ok h
    rw [run_bind, run_getR h2, andThen_ok] at h
    cases h
    have hleft : (format2 d).left s.cpu = s.cpu.r ⟨_, h2⟩ := reg_of_lt h2 s.cpu
    rw [hleft]
    rfl

/-! ## The flags of a difference -/

section Difference

variable (left right : Word) (cpu : TargetCore)

theorem cy_differenceFlags :
    (differenceFlags left right cpu).issetPsw pswCY = decide (left.toNat < right.toNat) := by
  unfold differenceFlags
  rw [issetPsw_writePsw_of_ne (by decide), issetPsw_writePsw_of_ne (by decide),
    issetPsw_writePsw_of_ne (by decide), issetPsw_writePsw_self (by decide)]
  exact Flags.testBit_sub (by omega) left right

theorem ov_differenceFlags :
    (differenceFlags left right cpu).issetPsw pswOV =
      decide (Flags.OutOfRange 32 (left.toInt - right.toInt)) := by
  unfold differenceFlags
  rw [issetPsw_writePsw_of_ne (by decide), issetPsw_writePsw_of_ne (by decide),
    issetPsw_writePsw_self (by decide), ← Bool.decide_or]
  rfl

theorem z_differenceFlags :
    (differenceFlags left right cpu).issetPsw pswZ = decide (left = right) := by
  have hsub : left - right = 0 ↔ left = right := by
    constructor
    · intro h
      have hval : left.toNat = right.toNat := by
        have hdiff := congrArg BitVec.toNat h
        rw [BitVec.toNat_sub] at hdiff
        have hl : left.toNat < 2 ^ 32 := left.isLt
        have hr : right.toNat < 2 ^ 32 := right.isLt
        simp at hdiff
        omega
      exact BitVec.eq_of_toNat_eq hval
    · intro h
      rw [h]
      exact BitVec.sub_self right
  unfold differenceFlags
  rw [issetPsw_writePsw_of_ne (by decide), issetPsw_writePsw_self (by decide), decide_eq_decide]
  exact hsub

theorem s_differenceFlags :
    (differenceFlags left right cpu).issetPsw pswS = (left - right).msb := by
  unfold differenceFlags
  rw [issetPsw_writePsw_self (by decide)]

theorem sat_differenceFlags :
    (differenceFlags left right cpu).issetPsw pswSAT = cpu.issetPsw pswSAT := by
  unfold differenceFlags
  rw [issetPsw_writePsw_of_ne (by decide), issetPsw_writePsw_of_ne (by decide),
    issetPsw_writePsw_of_ne (by decide), issetPsw_writePsw_of_ne (by decide)]

/-- The sign flag corrected by the overflow flag is the signed comparison. -/
theorem lt_differenceFlags :
    ((differenceFlags left right cpu).issetPsw pswS ^^
        (differenceFlags left right cpu).issetPsw pswOV) =
      decide (left.toInt < right.toInt) := by
  rw [s_differenceFlags, ov_differenceFlags]
  exact Flags.sign_xor_overflow (by omega) left right

end Difference

/-! ## Condition codes -/

/-- The sixteen condition codes. -/
inductive Condition where
  | v | l | z | nh | n | t | lt | le | nv | nl | nz | h | p | sa | ge | gt
  deriving DecidableEq

namespace Condition

/-- The number of a code. -/
def code : Condition → HalfWord
  | v => 0b0000
  | l => 0b0001
  | z => 0b0010
  | nh => 0b0011
  | n => 0b0100
  | t => 0b0101
  | lt => 0b0110
  | le => 0b0111
  | nv => 0b1000
  | nl => 0b1001
  | nz => 0b1010
  | h => 0b1011
  | p => 0b1100
  | sa => 0b1101
  | ge => 0b1110
  | gt => 0b1111

/-- What a code says of the operands of a comparison and of the saturation
flag before it. -/
def Holds (left right : Word) (sat : Bool) : Condition → Prop
  | v => Flags.OutOfRange 32 (left.toInt - right.toInt)
  | l => left.toNat < right.toNat
  | z => left = right
  | nh => left.toNat ≤ right.toNat
  | n => (left - right).toInt < 0
  | t => True
  | lt => left.toInt < right.toInt
  | le => left.toInt ≤ right.toInt
  | nv => ¬ Flags.OutOfRange 32 (left.toInt - right.toInt)
  | nl => right.toNat ≤ left.toNat
  | nz => left ≠ right
  | h => right.toNat < left.toNat
  | p => 0 ≤ (left - right).toInt
  | sa => sat = true
  | ge => right.toInt ≤ left.toInt
  | gt => right.toInt < left.toInt

end Condition

/-- The evaluator of the branches answers what the code says. -/
theorem opExecCond_differenceFlags (left right : Word) (cpu : TargetCore) (c : Condition) :
    opExecCond (differenceFlags left right cpu) c.code = true ↔
      c.Holds left right (cpu.issetPsw pswSAT) := by
  have hlt := lt_differenceFlags left right cpu
  have hmsb : (left - right).msb = decide ((left - right).toInt < 0) := BitVec.msb_eq_toInt
  unfold opExecCond
  dsimp only
  rw [hlt, cy_differenceFlags, ov_differenceFlags, z_differenceFlags, s_differenceFlags,
    sat_differenceFlags, hmsb]
  have hnat : left = right ↔ left.toNat = right.toNat := BitVec.toNat_inj.symm
  have hint : left = right ↔ left.toInt = right.toInt := BitVec.toInt_inj.symm
  cases c with
  | nh | h =>
    simp only [Condition.code, Condition.Holds, hnat]
    simp
    omega
  | le | gt =>
    simp only [Condition.code, Condition.Holds, hint]
    simp
    omega
  | _ => simp [Condition.code, Condition.Holds]

/-- The evaluator of `SETF` and `CMOV` agrees on every code but `SA`, where it
answers the opposite. -/
theorem setfChkCond_code (cpu : TargetCore) (c : Condition) :
    setfChkCond cpu c.code = (opExecCond cpu c.code ^^ decide (c = .sa)) := by
  cases c with
  | sa =>
    show (!cpu.issetPsw pswSAT) = (cpu.issetPsw pswSAT ^^ true)
    rw [Bool.xor_true]
  | _ => exact (Bool.xor_false _).symm

/-- After a comparison, both evaluators answer how the operands compare, on
every code but `SA`. -/
theorem conditions_exact {cmp : Cmp} (hrun : cmp.exec.run s = (.ok (), s')) (c : Condition) :
    (opExecCond s'.cpu c.code = setfChkCond s'.cpu c.code ∧
        (opExecCond s'.cpu c.code = true ↔
          c.Holds (cmp.left s.cpu) (cmp.right s.cpu) (s.cpu.issetPsw pswSAT))) ↔
      c ≠ .sa := by
  have hcond := opExecCond_differenceFlags (cmp.left s.cpu) (cmp.right s.cpu) s.cpu c
  -- the program counter is not read
  have hpc : ∀ (cpu : TargetCore) (pc : Word),
      opExecCond { cpu with pc := pc } c.code = opExecCond cpu c.code := fun _ _ => rfl
  rw [run_cmp hrun, setfChkCond_code]
  rw [hpc]
  constructor
  · rintro ⟨hagree, -⟩ rfl
    rw [decide_eq_true rfl, Bool.xor_true] at hagree
    exact Bool.not_ne_self _ hagree.symm
  · intro hne
    rw [decide_eq_false hne, Bool.xor_false]
    exact ⟨rfl, hcond⟩

/-- `CMP r1, r2` compares -5 with 7. -/
theorem conditions_exact_negative :
    (opExecCond ((Cmp.format1 ⟨0, 1, 2⟩).exec.run (operandState 7 (-5))).2.cpu
          Condition.lt.code =
        setfChkCond ((Cmp.format1 ⟨0, 1, 2⟩).exec.run (operandState 7 (-5))).2.cpu
          Condition.lt.code ∧
      (opExecCond ((Cmp.format1 ⟨0, 1, 2⟩).exec.run (operandState 7 (-5))).2.cpu
            Condition.lt.code = true ↔
        Condition.lt.Holds ((Cmp.format1 ⟨0, 1, 2⟩).left (operandState 7 (-5)).cpu)
          ((Cmp.format1 ⟨0, 1, 2⟩).right (operandState 7 (-5)).cpu)
          ((operandState 7 (-5)).cpu.issetPsw pswSAT))) :=
  (conditions_exact
    (show (Cmp.format1 ⟨0, 1, 2⟩).exec.run (operandState 7 (-5)) =
      (.ok (), ((Cmp.format1 ⟨0, 1, 2⟩).exec.run (operandState 7 (-5))).2) from rfl) .lt).mpr
    (by decide)

/-- The two evaluators differ on `SA` after it. -/
theorem conditions_differ :
    opExecCond ((Cmp.format1 ⟨0, 0, 0⟩).exec.run resetState).2.cpu Condition.sa.code = false ∧
      setfChkCond ((Cmp.format1 ⟨0, 0, 0⟩).exec.run resetState).2.cpu Condition.sa.code =
        true := by
  decide +kernel

end Exec

end Athrill
