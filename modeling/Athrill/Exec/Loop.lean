import Mathlib.Logic.Function.Iterate
import Athrill.Dec.Extended
import Athrill.Exec.Bit
import Athrill.Exec.Compute
import Athrill.Exec.Displacement

/-!
# LOOP

`LOOP` counts a register down and branches back until it is zero.  Its flags
should be those of an addition of -1.  The executor clears the carry flag on the
last pass and tests the overflow on the unsigned values.

* `run_loop`: registers, flags and program counter.
* `countsDown_loop`: a loop runs its body as often as the counter says.
* `LoopCorrect`, `loop_exact`: when the flags are right.
-/

namespace Athrill

open TargetCore Routine

namespace Exec

variable {D : Type}

/-! ## The executor -/

/-- The displacement: bits 31 to 17 and a zero bit. -/
def loopDisp (code : OpCode) : Word :=
  ((bits code 31 17 : BitVec 15) ++ 0#1).setWidth 32

/-- The flags that `LOOP` leaves. -/
def loopFlags (reg1 : Word) : List (Nat × Bool) :=
  [(pswCY, decide (reg1 - 1 ≠ 0 ∧ 0xFFFFFFFF < reg1.toNat + 0xFFFFFFFF)), (pswOV, true),
    (pswZ, decide (reg1 - 1 = 0)), (pswS, (reg1 - 1).msb)]

section Run

variable (code : OpCode) (s : CpuState D)

theorem opZeroExtend_loopDisp :
    opZeroExtend 16 ((opDecode7 code).disp <<< 1) = loopDisp code := by
  rw [disp_opDecode7, bits_setWidth code (show 31 + 1 - 17 = 15 by omega), shiftLeft_setWidth (by omega)]
  exact opZeroExtend_setWidth (Nat.le_refl 16) _

theorem run_loop :
    ∃ h1 : (bits code 4 0 : HalfWord).toNat < 32, (opExecLoop7 (opDecode7 code)).run s =
      (.ok (), { s with cpu :=
        { writeFlags (loopFlags (s.cpu.reg (bits code 4 0)))
            { s.cpu with
              r := Function.update s.cpu.r ⟨_, h1⟩ (s.cpu.reg (bits code 4 0) - 1) } with
          pc := if s.cpu.reg (bits code 4 0) - 1 = 0 then s.cpu.pc + 4
            else s.cpu.pc - loopDisp code } }) := by
  have h1 : (bits code 4 0 : HalfWord).toNat < 32 := toNat_bits_lt code 4 0
  have hresult : ∀ reg1 : Word, reg1 + 0xFFFFFFFF = reg1 - 1 := fun reg1 =>
    (BitVec.sub_eq_add_neg reg1 1).symm
  have hcarry : ∀ reg1 : Word,
      (if reg1 - 1 = 0 then setCY false else opChkAndSetCarry reg1 0xFFFFFFFF : Exec D Unit) =
        setCY (decide (reg1 - 1 ≠ 0 ∧ 0xFFFFFFFF < reg1.toNat + 0xFFFFFFFF)) := by
    intro reg1
    by_cases hzero : reg1 - 1 = 0
    · rw [if_pos hzero, decide_eq_false (fun h => h.1 hzero)]
    · rw [if_neg hzero]
      simp only [ne_eq, hzero, not_false_eq_true, true_and]
      rfl
  have hover : ∀ reg1 : Word, (opChkAndSetOverflow reg1.toNat (0xFFFFFFFF : Word).toNat :
      Exec D Unit) = setOV true := by
    intro reg1
    have hbig : cpuRegPlusMax < (reg1.toNat : Int) + ((0xFFFFFFFF : Word).toNat : Int) := by
      show (2147483647 : Int) < reg1.toNat + 4294967295
      omega
    unfold opChkAndSetOverflow
    rw [decide_eq_true hbig, Bool.true_or]
  refine ⟨h1, ?_⟩
  unfold opExecLoop7
  rw [reg1_opDecode7, opZeroExtend_loopDisp, run_bind]
  show (getR _ >>= fun _ => _).run s = _
  rw [run_bind, run_getR h1, andThen_ok, ← reg_of_lt h1]
  obtain ⟨reg1, hreg1⟩ : ∃ x, s.cpu.reg (bits code 4 0) = x := ⟨_, rfl⟩
  rw [hreg1]
  show (do
    (if reg1 + 0xFFFFFFFF = 0 then setCY false else opChkAndSetCarry reg1 0xFFFFFFFF)
    opChkAndSetOverflow reg1.toNat (0xFFFFFFFF : Word).toNat
    opChkAndSetZero (reg1 + 0xFFFFFFFF)
    opChkAndSetSign (reg1 + 0xFFFFFFFF)
    setR (bits code 4 0 : HalfWord).toNat (reg1 + 0xFFFFFFFF)
    setPc (if reg1 + 0xFFFFFFFF = 0 then s.cpu.pc + 4 else s.cpu.pc - loopDisp code) :
      Exec D Unit).run s = _
  rw [hresult, hcarry, hover]
  exact run_setR_writeFlags s (loopFlags reg1) h1 (reg1 - 1)
    (setPc (if reg1 - 1 = 0 then s.cpu.pc + 4 else s.cpu.pc - loopDisp code))

end Run

section Step

variable {code : OpCode} {s s' : CpuState D}
  (hrun : (opExecLoop7 (opDecode7 code)).run s = (.ok (), s'))
include hrun

theorem reg_loop (n : HalfWord) :
    s'.cpu.reg n = if n = bits code 4 0 then s.cpu.reg n - 1 else s.cpu.reg n := by
  obtain ⟨h1, hafter⟩ := run_loop code s
  rw [hafter] at hrun
  cases hrun
  refine (reg_update h1 (r_writeFlags _ _) n).trans ?_
  by_cases hn : n = bits code 4 0
  · rw [if_pos hn, if_pos hn, hn]
  · rw [if_neg hn, if_neg hn]

theorem pc_loop :
    s'.cpu.pc = if s.cpu.reg (bits code 4 0) - 1 = 0 then s.cpu.pc + 4
      else s.cpu.pc - loopDisp code := by
  obtain ⟨h1, hafter⟩ := run_loop code s
  rw [hafter] at hrun
  cases hrun
  rfl

theorem issetPsw_loop {bit : Nat} (hbit : bit < 32) :
    s'.cpu.issetPsw bit = ((loopFlags (s.cpu.reg (bits code 4 0))).reverse.lookup bit).getD
      (s.cpu.issetPsw bit) := by
  obtain ⟨h1, hafter⟩ := run_loop code s
  rw [hafter] at hrun
  cases hrun
  exact issetPsw_writeFlags _ _ hbit

end Step

/-! ## A counted loop -/

section Passes

variable (code : OpCode) (pc : Word)

/-- One pass: the body, and the `LOOP` behind it. -/
def loopPass (body : CpuState D → CpuState D) (s : CpuState D) : CpuState D :=
  ((opExecLoop7 (opDecode7 code)).run (body s)).2

/-- A body that starts at the target of the `LOOP` at `pc`, comes to it and
keeps the counter. -/
structure LoopBody (body : CpuState D → CpuState D) : Prop where
  arrives : ∀ s, s.cpu.pc = pc - loopDisp code → (body s).cpu.pc = pc
  keeps : ∀ s, (body s).cpu.reg (bits code 4 0) = s.cpu.reg (bits code 4 0)

/-- A loop that starts with `n > 0` in the counter is left at the end of pass `n`
and not before. -/
def CountsDown (D : Type) : Prop :=
  ∀ (body : CpuState D → CpuState D), LoopBody code pc body → ∀ s,
    s.cpu.pc = pc - loopDisp code → ∀ k, 0 < k → k ≤ (s.cpu.reg (bits code 4 0)).toNat →
      (((loopPass code body)^[k] s).cpu.pc = pc + 4 ↔
        k = (s.cpu.reg (bits code 4 0)).toNat)

theorem sub_one_eq_zero_iff (value : Word) : value - 1 = 0 ↔ value = 1 := by
  constructor
  · intro h
    have hback : value - 1 + 1 = 0 + 1 := by rw [h]
    rw [BitVec.sub_add_cancel] at hback
    exact hback
  · rintro rfl
    rfl

theorem pc_add_ne_target : pc + 4 ≠ pc - loopDisp code := by
  intro h
  have hlt : (loopDisp code).toNat < 2 ^ 16 := by
    unfold loopDisp
    rw [BitVec.toNat_setWidth]
    exact Nat.lt_of_le_of_lt (Nat.mod_le _ _) (BitVec.isLt _)
  have hnat := congrArg BitVec.toNat h
  rw [BitVec.toNat_add, BitVec.toNat_sub] at hnat
  have hfour : (4 : Word).toNat = 4 := rfl
  omega

/-- The counter and the program counter after a pass. -/
theorem loopPass_step {body : CpuState D → CpuState D} (hbody : LoopBody code pc body)
    {s : CpuState D} (hpc : s.cpu.pc = pc - loopDisp code) :
    (loopPass code body s).cpu.reg (bits code 4 0) = s.cpu.reg (bits code 4 0) - 1 ∧
      (loopPass code body s).cpu.pc =
        if s.cpu.reg (bits code 4 0) - 1 = 0 then pc + 4 else pc - loopDisp code := by
  obtain ⟨h1, hafter⟩ := run_loop code (body s)
  have hrun : (opExecLoop7 (opDecode7 code)).run (body s) = (.ok (), loopPass code body s) := by
    unfold loopPass
    rw [hafter]
  constructor
  · rw [reg_loop hrun, if_pos rfl, hbody.keeps]
  · rw [pc_loop hrun, hbody.keeps, hbody.arrives s hpc]

/-- Before the last pass the loop is at its target, with the passes left in the
counter. -/
theorem loopPass_iterate {body : CpuState D → CpuState D} (hbody : LoopBody code pc body)
    {s : CpuState D} (hpc : s.cpu.pc = pc - loopDisp code) {k : Nat}
    (hk : k < (s.cpu.reg (bits code 4 0)).toNat) :
    ((loopPass code body)^[k] s).cpu.pc = pc - loopDisp code ∧
      (((loopPass code body)^[k] s).cpu.reg (bits code 4 0)).toNat =
        (s.cpu.reg (bits code 4 0)).toNat - k := by
  induction k with
  | zero => exact ⟨hpc, rfl⟩
  | succ k ih =>
    obtain ⟨hat, hleft⟩ := ih (by omega)
    obtain ⟨hreg, hnext⟩ := loopPass_step code pc hbody hat
    rw [Function.iterate_succ_apply']
    have hone : (1 : Word).toNat = 1 := rfl
    have hcount : (((loopPass code body)^[k] s).cpu.reg (bits code 4 0) - 1).toNat =
        (s.cpu.reg (bits code 4 0)).toNat - (k + 1) := by
      rw [BitVec.toNat_sub_of_le (by rw [BitVec.le_def, hleft, hone]; omega), hleft, hone]
      omega
    refine ⟨?_, by rw [hreg, hcount]⟩
    rw [hnext, if_neg]
    intro hzero
    rw [hzero] at hcount
    have hzero' : (0 : Word).toNat = 0 := rfl
    omega

/-- A loop runs its body as often as the counter says. -/
theorem countsDown_loop (D : Type) : CountsDown code pc D := by
  intro body hbody s hpc k hpos hk
  obtain ⟨j, rfl⟩ : ∃ j, k = j + 1 := ⟨k - 1, by omega⟩
  obtain ⟨hat, hleft⟩ := loopPass_iterate code pc hbody hpc (show j < _ by omega)
  obtain ⟨-, hnext⟩ := loopPass_step code pc hbody hat
  have hlast : ((loopPass code body)^[j] s).cpu.reg (bits code 4 0) - 1 = 0 ↔
      j + 1 = (s.cpu.reg (bits code 4 0)).toNat := by
    rw [sub_one_eq_zero_iff, ← BitVec.toNat_inj, hleft]
    show _ - j = 1 ↔ _
    omega
  rw [Function.iterate_succ_apply', hnext, ← hlast]
  constructor
  · intro h
    by_contra hne
    rw [if_neg hne] at h
    exact pc_add_ne_target code pc h.symm
  · intro h
    rw [if_pos h]

end Passes

/-! ## Correctness -/

/-- What `LOOP` promises of the state `s'` it leaves.  The flags are compared
with those of `ADD -1`, from a state with the same counter and flags. -/
structure LoopCorrect (code : OpCode) (s s' : CpuState D) : Prop where
  decremented : ∀ n, s'.cpu.reg n =
    if n = bits code 4 0 then s.cpu.reg n - 1 else s.cpu.reg n
  branch : s'.cpu.pc = if s'.cpu.reg (bits code 4 0) ≠ 0 then s.cpu.pc - loopDisp code
    else s.cpu.pc + 4
  flags : ∀ (d : OpCodeFormatType2) (t t' : CpuState D), d.reg2.toNat < 32 →
    opFormat2ImmSignExtend d.imm = -1 → t.cpu.reg d.reg2 = s.cpu.reg (bits code 4 0) →
    (∀ bit, t.cpu.issetPsw bit = s.cpu.issetPsw bit) →
    (opExecAdd2 d).run t = (.ok (), t') →
    ∀ bit < 32, s'.cpu.issetPsw bit = t'.cpu.issetPsw bit
  passes : CountsDown code s.cpu.pc D

/-- The flags that an addition leaves. -/
def addFlags (left right : Word) : List (Nat × Bool) :=
  [(pswCY, decide (0xFFFFFFFF < left.toNat + right.toNat)),
    (pswOV, decide (cpuRegPlusMax < left.toInt + right.toInt) ||
      decide (left.toInt + right.toInt < cpuRegMinusMax)),
    (pswZ, decide (left + right = 0)), (pswS, (left + right).msb)]

theorem run_add2 {d : OpCodeFormatType2} (h2 : d.reg2.toNat < 32) (t : CpuState D) :
    (opExecAdd2 d).run t = (.ok (), after t
      (Function.update t.cpu.r ⟨_, h2⟩ (t.cpu.reg d.reg2 + opFormat2ImmSignExtend d.imm))
      (writeFlags (addFlags (t.cpu.reg d.reg2) (opFormat2ImmSignExtend d.imm))) 2) := by
  unfold opExecAdd2
  rw [run_bind, run_checkReg h2, andThen_ok, run_bind, run_getR h2, andThen_ok, ← reg_of_lt h2]
  show (setR _ _ >>= fun _ => _).run t = _
  rw [run_bind, run_setR h2, andThen_ok]
  rfl

theorem issetPsw_add2 {d : OpCodeFormatType2} {t t' : CpuState D} (h2 : d.reg2.toNat < 32)
    (hrun : (opExecAdd2 d).run t = (.ok (), t')) {bit : Nat} (hbit : bit < 32) :
    t'.cpu.issetPsw bit =
      ((addFlags (t.cpu.reg d.reg2) (opFormat2ImmSignExtend d.imm)).reverse.lookup bit).getD
        (t.cpu.issetPsw bit) := by
  rw [run_add2 h2] at hrun
  cases hrun
  rw [issetPsw_after, issetPsw_writeFlags _ _ hbit]
  rfl

/-- Of the additions of -1, only that to the most negative number overflows. -/
theorem decrement_overflow_iff (value : Word) :
    (decide (cpuRegPlusMax < value.toInt + (-1 : Word).toInt) ||
      decide (value.toInt + (-1 : Word).toInt < cpuRegMinusMax)) =
      decide (value = 0x80000000) := by
  have hone : (-1 : Word).toInt = -1 := by decide
  have hmin : (0x80000000 : Word).toInt = -2147483648 := by decide
  have hlt := BitVec.toInt_lt (x := value)
  have hle := BitVec.le_toInt (x := value)
  have heq : value = 0x80000000 ↔ value.toInt = -2147483648 := by
    rw [← hmin, BitVec.toInt_inj]
  rw [hone, ← Bool.decide_or, decide_eq_decide, heq]
  unfold cpuRegPlusMax cpuRegMinusMax
  omega

theorem loopFlags_min : loopFlags 0x80000000 = addFlags 0x80000000 (-1) := by
  unfold addFlags
  rw [decrement_overflow_iff]
  decide

theorem loopCorrect_iff {code : OpCode} {s s' : CpuState D}
    (hrun : (opExecLoop7 (opDecode7 code)).run s = (.ok (), s')) :
    LoopCorrect code s s' ↔ s.cpu.reg (bits code 4 0) = 0x80000000 := by
  constructor
  · intro h
    -- `LOOP` sets `OV` in any case, the addition for this value only
    have h1 : (bits code 4 0 : HalfWord).toNat < 32 := toNat_bits_lt code 4 0
    have hadd := run_add2 (d := ⟨0x12, 31, bits code 4 0⟩) h1 s
    have himm : opFormat2ImmSignExtend 31 = -1 := by decide
    have hflags := h.flags ⟨0x12, 31, bits code 4 0⟩ s _ h1 himm rfl (fun _ => rfl) hadd pswOV
      (by decide)
    rw [issetPsw_loop hrun (by decide), issetPsw_add2 h1 hadd (by decide), himm] at hflags
    have hov : true = (decide (cpuRegPlusMax <
          (s.cpu.reg (bits code 4 0)).toInt + (-1 : Word).toInt) ||
        decide ((s.cpu.reg (bits code 4 0)).toInt + (-1 : Word).toInt < cpuRegMinusMax)) := hflags
    rw [decrement_overflow_iff] at hov
    exact of_decide_eq_true hov.symm
  · intro hmin
    exact
      { decremented := reg_loop hrun
        branch := by
          rw [pc_loop hrun, reg_loop hrun, if_pos rfl]
          exact (ite_not ..).symm
        flags := by
          intro d t t' h2 himm hvalue hpsw hadd bit hbit
          rw [issetPsw_loop hrun hbit, issetPsw_add2 h2 hadd hbit, himm, hvalue, hpsw, hmin,
            loopFlags_min]
        passes := countsDown_loop code s.cpu.pc D }

/-- `LOOP` is an `ADD -1` with a branch for the most negative counter only; the
count, the branch and the number of passes are right for all. -/
theorem loop_exact (code : OpCode) (s : CpuState D) :
    (∃ s', (opExecLoop7 (opDecode7 code)).run s = (.ok (), s') ∧ LoopCorrect code s s') ↔
      s.cpu.reg (bits code 4 0) = 0x80000000 := by
  constructor
  · rintro ⟨s', hrun, hcorrect⟩
    exact (loopCorrect_iff hrun).mp hcorrect
  · intro hmin
    obtain ⟨h1, hrun⟩ := run_loop code s
    exact ⟨_, hrun, (loopCorrect_iff hrun).mpr hmin⟩

/-- `LOOP r1, 4`. -/
def loopCode : OpCode := fun n => [0x06E1, 0x0005].getD n 0

/-- `LOOP` on a zero counter sets the overflow flag, which `ADD -1` clears. -/
theorem loop_overflow_always :
    parseOptype loopCode = some ⟨.loop_7, .format7⟩ ∧
      ¬ ∃ s', (opExecLoop7 (opDecode7 loopCode)).run resetState = (.ok (), s') ∧
        LoopCorrect loopCode resetState s' := by
  refine ⟨by decide +kernel, ?_⟩
  rintro ⟨s', hrun, hcorrect⟩
  have hs' : s' = ((opExecLoop7 (opDecode7 loopCode)).run resetState).2 := by
    rw [hrun]
  have hflags := hcorrect.flags ⟨0x12, 31, 1⟩ resetState _ (by decide) (by decide)
    (by decide +kernel) (fun _ => rfl) (run_add2 (by decide) resetState) pswOV (by decide)
  rw [hs'] at hflags
  revert hflags
  decide +kernel

end Exec

end Athrill
