import Athrill.Dec.Lossless
import Athrill.Exec.Compute
import Athrill.Exec.Displacement
import Athrill.Exec.DoubleWord

/-!
# Products of 64 bits

`MUL` and `MULU` with a register or a 9-bit immediate, `MAC` and `MACU`.  All go
through 64-bit arithmetic and split the result; `MAC` puts its accumulator
together from words that were sign-extended, the low one too.

* `MulInstr`: the instructions, with the exact product and the accumulator.
* `macAccumulator_eq`: the accumulator that `MAC` adds to.
* `MulCorrect`, `product_exact`: when an instruction is right.
-/

namespace Athrill

open TargetCore Routine

namespace Exec

variable {D : Type}

/-! ## The instructions -/

/-- The documented 9-bit immediate: bits 21 to 18 and bits 4 to 0. -/
def documentedImm9 (code : OpCode) : BitVec 9 :=
  (bits code 21 18 : BitVec 4) ++ (bits code 4 0 : BitVec 5)

/-- The multiplications; those with an immediate come with their encoding. -/
inductive MulInstr where
  | mul11 (d : OpCodeFormatType11)
  | mulu11 (d : OpCodeFormatType11)
  | mul12 (code : OpCode)
  | mulu12 (code : OpCode)
  | mac (d : OpCodeFormatType11)
  | macu (d : OpCodeFormatType11)

namespace MulInstr

def exec : MulInstr → Exec D Unit
  | mul11 d => opExecMul d
  | mulu11 d => opExecMulu d
  | mul12 code => opExecMul12 (opDecode12 code)
  | mulu12 code => opExecMulu12 (opDecode12 code)
  | mac d => opExecMac11 d
  | macu d => opExecMacu11 d

/-- The exact product of the operands. -/
def product (cpu : TargetCore) : MulInstr → Int
  | mul11 d | mac d => (cpu.reg d.reg2).toInt * (cpu.reg d.reg1).toInt
  | mulu11 d | macu d => (cpu.reg d.reg2).toNat * (cpu.reg d.reg1).toNat
  | mul12 code => (cpu.reg (opDecode12 code).reg2).toInt * (documentedImm9 code).toInt
  | mulu12 code => (cpu.reg (opDecode12 code).reg2).toNat * (documentedImm9 code).toNat

/-- The register pair `reg4` of `MAC`. -/
def reg4 (d : OpCodeFormatType11) : HalfWord :=
  ((d.rfu <<< 1) ||| d.sub2) <<< 1

/-- The register of the low word of the result. -/
def lo : MulInstr → HalfWord
  | mul11 d | mulu11 d => d.reg2
  | mul12 code | mulu12 code => (opDecode12 code).reg2
  | mac d | macu d => reg4 d

/-- The register of the high word of the result. -/
def hi : MulInstr → HalfWord
  | mul11 d | mulu11 d => d.reg3
  | mul12 code | mulu12 code => (opDecode12 code).reg3
  | mac d | macu d => reg4 d + 1

/-- What the product is added to. -/
def accumulator (cpu : TargetCore) : MulInstr → DoubleWord
  | mac d | macu d => regPair cpu (d.reg3 + 1) d.reg3
  | _ => 0#64

/-- The 64-bit result. -/
def expected (cpu : TargetCore) (i : MulInstr) : DoubleWord :=
  i.accumulator cpu + BitVec.ofInt 64 (i.product cpu)

/-- The registers exist, and those of a pair are even. -/
def Valid : MulInstr → Prop
  | mul11 d | mulu11 d => d.reg1.toNat < 32 ∧ d.reg2.toNat < 32 ∧ d.reg3.toNat < 32
  | mul12 _ | mulu12 _ => True
  | mac d | macu d => d.reg1.toNat < 32 ∧ d.reg2.toNat < 32 ∧ d.reg3.toNat < 32 ∧
      d.reg3.toNat % 2 = 0 ∧ (d.rfu.toNat < 8 ∧ d.sub2.toNat < 2)

end MulInstr

/-! ## Runs -/

/-- The registers after the two words of a result are written. -/
def split (r : Fin 32 → Word) {lo hi : Nat} (hlo : lo < 32) (hhi : hi < 32)
    (result : DoubleWord) : Fin 32 → Word :=
  Function.update (Function.update r ⟨lo, hlo⟩ (result.setWidth 32)) ⟨hi, hhi⟩
    ((result >>> 32).setWidth 32)

/-- The state after a multiplication. -/
abbrev afterMul (s : CpuState D) {lo hi : Nat} (hlo : lo < 32) (hhi : hi < 32)
    (result : DoubleWord) : CpuState D :=
  after s (split s.cpu.r hlo hhi result) id 4

theorem run_mulWide {d : OpCodeFormatType11} (widen : Word → DoubleWord)
    (h1 : d.reg1.toNat < 32) (h2 : d.reg2.toNat < 32) (h3 : d.reg3.toNat < 32) (s : CpuState D) :
    (opExecMulWide widen d).run s =
      (.ok (), afterMul s h2 h3 (widen (s.cpu.reg d.reg1) * widen (s.cpu.reg d.reg2))) := by
  unfold opExecMulWide
  rw [run_bind, run_getR h1, andThen_ok, run_bind, run_getR h2, andThen_ok, run_bind, run_getR h3,
    andThen_ok, run_bind, run_checkReg h1, andThen_ok, run_bind, run_checkReg h2, andThen_ok,
    run_bind, run_checkReg h3, andThen_ok, ← reg_of_lt h1, ← reg_of_lt h2]
  show (setR _ _ >>= fun _ => setR _ _ >>= fun _ => addPc 4).run s = _
  rw [run_bind, run_setR h2, andThen_ok, run_bind, run_setR h3, andThen_ok, run_addPc]
  rfl

section Format12

variable {d : OpCodeFormatType12} (h2 : d.reg2.toNat < 32) (h3 : d.reg3.toNat < 32)
  (s : CpuState D)

theorem run_mulu12 :
    (opExecMulu12 d).run s =
      (.ok (), afterMul s h2 h3 ((s.cpu.reg d.reg2).setWidth 64 * (imm9 d).setWidth 64)) := by
  unfold opExecMulu12
  rw [run_bind, run_checkReg h2, andThen_ok, run_bind, run_checkReg h3, andThen_ok, run_bind,
    run_getR h2, andThen_ok, ← reg_of_lt h2]
  show (setR _ _ >>= fun _ => setR _ _ >>= fun _ => addPc 4).run s = _
  rw [run_bind, run_setR h2, andThen_ok, run_bind, run_setR h3, andThen_ok, run_addPc]
  rfl

theorem run_mul12 :
    (opExecMul12 d).run s =
      (.ok (), afterMul s h2 h3
        ((s.cpu.reg d.reg2).signExtend 64 * (opSignExtend 8 (imm9 d)).signExtend 64)) := by
  unfold opExecMul12
  rw [run_bind, run_checkReg h2, andThen_ok, run_bind, run_checkReg h3, andThen_ok, run_bind,
    run_getR h2, andThen_ok, ← reg_of_lt h2]
  show (setR _ _ >>= fun _ => setR _ _ >>= fun _ => addPc 4).run s = _
  rw [run_bind, run_setR h2, andThen_ok, run_bind, run_setR h3, andThen_ok, run_addPc]
  rfl

end Format12

section Mac

variable {d : OpCodeFormatType11}

/-- The number of `reg4` as the executor computes it. -/
theorem toNat_reg4 (hrfu : d.rfu.toNat < 8) (hsub2 : d.sub2.toNat < 2) :
    (((d.rfu <<< 1) ||| d.sub2).setWidth 32 <<< 1 : Word).toNat = (MulInstr.reg4 d).toNat ∧
      (MulInstr.reg4 d).toNat % 2 = 0 ∧ (MulInstr.reg4 d).toNat < 31 := by
  obtain ⟨x, hx⟩ : ∃ x : HalfWord, (d.rfu <<< 1) ||| d.sub2 = x := ⟨_, rfl⟩
  have hsmall : x.toNat < 2 ^ 4 := by
    have hshift : (d.rfu <<< 1).toNat < 2 ^ 4 := by
      rw [BitVec.toNat_shiftLeft, Nat.shiftLeft_eq]
      omega
    rw [← hx, BitVec.toNat_or]
    exact Nat.or_lt_two_pow hshift (by omega)
  unfold MulInstr.reg4
  rw [hx, BitVec.toNat_shiftLeft, BitVec.toNat_shiftLeft, BitVec.toNat_setWidth,
    Nat.shiftLeft_eq, Nat.shiftLeft_eq]
  omega

theorem toNat_succ {n : HalfWord} (hn : n.toNat < 31) : (n + 1).toNat = n.toNat + 1 := by
  rw [BitVec.toNat_add]
  show (n.toNat + 1) % 2 ^ 16 = _
  omega

theorem run_macWide (widen : Word → DoubleWord)
    (h1 : d.reg1.toNat < 32) (h2 : d.reg2.toNat < 32) (h3 : d.reg3.toNat < 31)
    (heven : d.reg3.toNat % 2 = 0) (hrfu : d.rfu.toNat < 8) (hsub2 : d.sub2.toNat < 2)
    (hlo : (MulInstr.reg4 d).toNat < 32) (hhi : (MulInstr.reg4 d + 1).toNat < 32)
    (s : CpuState D) :
    (opExecMacWide widen d).run s =
      (.ok (), afterMul s hlo hhi
        (widen (s.cpu.reg d.reg2) * widen (s.cpu.reg d.reg1) +
          ((widen (s.cpu.reg (d.reg3 + 1)) <<< 32) ||| widen (s.cpu.reg d.reg3)))) := by
  obtain ⟨hreg4, hreg4even, hreg4lt⟩ := toNat_reg4 hrfu hsub2
  have h3' : d.reg3.toNat < 32 := by omega
  have h3succ : (d.reg3 + 1).toNat = d.reg3.toNat + 1 := toNat_succ h3
  have h3lt : d.reg3.toNat + 1 < 32 := by omega
  have hhigh : s.cpu.r ⟨d.reg3.toNat + 1, h3lt⟩ = s.cpu.reg (d.reg3 + 1) := by
    rw [reg_of_lt (show (d.reg3 + 1).toNat < 32 by omega)]
    congr 1
    exact Fin.ext h3succ.symm
  unfold opExecMacWide
  rw [run_bind, run_getR h1, andThen_ok, run_bind, run_getR h2, andThen_ok, run_bind,
    run_getR h3lt, andThen_ok, run_bind, run_getR h3', andThen_ok, run_bind, run_checkReg h1,
    andThen_ok, run_bind, run_checkReg h2, andThen_ok, run_bind, run_checkReg h3', andThen_ok,
    hreg4, run_bind, run_checkReg hlo, andThen_ok, hhigh, ← reg_of_lt h1, ← reg_of_lt h2,
    ← reg_of_lt h3']
  unfold failIf
  rw [if_neg (by omega), if_neg (by omega)]
  show (setR _ _ >>= fun _ => setR _ _ >>= fun _ => addPc 4).run s = _
  have hhi' : (MulInstr.reg4 d).toNat + 1 < 32 := by omega
  have hfin : (⟨(MulInstr.reg4 d).toNat + 1, hhi'⟩ : Fin 32) =
      ⟨(MulInstr.reg4 d + 1).toNat, hhi⟩ := Fin.ext (toNat_succ hreg4lt).symm
  rw [run_bind, run_setR hlo, andThen_ok, run_bind, run_setR hhi', andThen_ok, run_addPc, hfin]
  rfl

end Mac

/-! ## Words and their exact values -/

section Values

variable (hi lo : Word)

/-- Two words put together without their signs. -/
theorem join_unsigned :
    ((hi.setWidth 64 <<< 32) ||| lo.setWidth 64 : DoubleWord) = (hi ++ lo : DoubleWord) := by
  apply BitVec.eq_of_getLsbD_eq
  intro i hi64
  rw [BitVec.getLsbD_or, BitVec.getLsbD_shiftLeft, BitVec.getLsbD_setWidth,
    BitVec.getLsbD_setWidth, BitVec.getLsbD_append]
  by_cases hlow : i < 32
  · simp [hlow, hi64]
  · have hsub : i - 32 < 64 := by omega
    simp [hlow, hi64, hsub, BitVec.getLsbD_of_ge lo i (by omega)]

/-- Two words put together after sign extension: the sign of the low word covers
the high word. -/
theorem join_signed :
    ((hi.signExtend 64 <<< 32) ||| lo.signExtend 64 : DoubleWord) =
      ((if lo.msb then BitVec.allOnes 32 else hi) ++ lo : DoubleWord) := by
  apply BitVec.eq_of_getLsbD_eq
  intro i hi64
  rw [BitVec.getLsbD_or, BitVec.getLsbD_shiftLeft, BitVec.getLsbD_signExtend,
    BitVec.getLsbD_signExtend, BitVec.getLsbD_append]
  by_cases hlow : i < 32
  · simp [hlow, hi64]
  · have hsub : i - 32 < 64 := by omega
    have hsub32 : i - 32 < 32 := by omega
    cases lo.msb with
    | true => simp [hlow, hi64, hsub, hsub32, -BitVec.reduceAllOnes]
    | false => simp [hlow, hi64, hsub, hsub32]

theorem setWidth_eq_ofInt {w v : Nat} (x : BitVec w) : x.setWidth v = BitVec.ofInt v x.toNat := by
  rw [BitVec.ofInt_natCast, BitVec.ofNat_toNat]

end Values

/-- The immediate of the encoding, as the executors read it. -/
theorem imm9_opDecode12 (code : OpCode) :
    imm9 (opDecode12 code) = (documentedImm9 code).setWidth 32 := by
  have hlow : (opDecode12 code).imml = bits code 4 0 :=
    field32_zero code 4 0 (by omega) (by decide)
  have hhigh : (opDecode12 code).immh = bits code 22 18 :=
    field32_one code 6 2 (by omega) (by decide)
  unfold imm9 documentedImm9
  rw [hlow, hhigh]
  apply BitVec.eq_of_getLsbD_eq
  intro i hi
  rw [BitVec.getLsbD_or, BitVec.getLsbD_shiftLeft, BitVec.getLsbD_and, BitVec.getLsbD_setWidth,
    BitVec.getLsbD_append, getLsbD_bits, getLsbD_bits, getLsbD_bits, getLsbD_bits]
  have hmask : ∀ j : Fin 32, (0xF : Word).getLsbD j.val = decide (j.val < 4) := by decide
  by_cases hlt : i < 5
  · simp [hlt, hi]
  · have hsub : i - 5 < 32 := by omega
    rw [hmask ⟨i - 5, hsub⟩]
    by_cases h4 : i - 5 < 4
    · have h5 : i - 5 < 5 := by omega
      simp [hlt, hi, hsub, h4, h5]
    · simp [hlt, h4]

theorem toNat_imm9 (code : OpCode) :
    (imm9 (opDecode12 code)).toNat = (documentedImm9 code).toNat := by
  have hlt : (documentedImm9 code).toNat < 2 ^ 9 := (documentedImm9 code).isLt
  rw [imm9_opDecode12, BitVec.toNat_setWidth]
  omega

theorem toInt_imm9 (code : OpCode) :
    (opSignExtend 8 (imm9 (opDecode12 code))).toInt = (documentedImm9 code).toInt := by
  rw [imm9_opDecode12, opSignExtend_setWidth (by omega),
    BitVec.toInt_signExtend_of_le (by omega)]

/-! ## Correctness -/

namespace MulInstr

/-- The accumulator as the executor puts it together. -/
def builtAccumulator (cpu : TargetCore) : MulInstr → DoubleWord
  | mac d => (if (cpu.reg d.reg3).msb then BitVec.allOnes 32 else cpu.reg (d.reg3 + 1)) ++
      cpu.reg d.reg3
  | i => i.accumulator cpu

theorem run_exec {i : MulInstr} (hvalid : i.Valid) (s : CpuState D) :
    ∃ (hlo : i.lo.toNat < 32) (hhi : i.hi.toNat < 32), i.exec.run s =
      (.ok (), afterMul s hlo hhi
        (i.builtAccumulator s.cpu + BitVec.ofInt 64 (i.product s.cpu))) := by
  cases i with
  | mul11 d =>
    obtain ⟨h1, h2, h3⟩ := hvalid
    refine ⟨h2, h3, ?_⟩
    show (opExecMulWide _ d).run s = (.ok (), afterMul s h2 h3 (0#64 + BitVec.ofInt 64 (_ * _)))
    rw [run_mulWide _ h1 h2 h3, BitVec.zero_add, BitVec.ofInt_mul, BitVec.mul_comm]
    rfl
  | mulu11 d =>
    obtain ⟨h1, h2, h3⟩ := hvalid
    refine ⟨h2, h3, ?_⟩
    show (opExecMulWide _ d).run s = (.ok (), afterMul s h2 h3 (0#64 + BitVec.ofInt 64 (_ * _)))
    rw [run_mulWide _ h1 h2 h3, BitVec.zero_add, BitVec.ofInt_mul, ← setWidth_eq_ofInt,
      ← setWidth_eq_ofInt, BitVec.mul_comm]
  | mul12 code =>
    have h2 : (opDecode12 code).reg2.toNat < 32 := field_lt _ _
    have h3 : (opDecode12 code).reg3.toNat < 32 := field_lt _ _
    refine ⟨h2, h3, ?_⟩
    show (opExecMul12 _).run s = (.ok (), afterMul s h2 h3 (0#64 + BitVec.ofInt 64 (_ * _)))
    rw [run_mul12 h2 h3, BitVec.zero_add, BitVec.ofInt_mul, ← toInt_imm9]
    rfl
  | mulu12 code =>
    have h2 : (opDecode12 code).reg2.toNat < 32 := field_lt _ _
    have h3 : (opDecode12 code).reg3.toNat < 32 := field_lt _ _
    refine ⟨h2, h3, ?_⟩
    show (opExecMulu12 _).run s = (.ok (), afterMul s h2 h3 (0#64 + BitVec.ofInt 64 (_ * _)))
    rw [run_mulu12 h2 h3, BitVec.zero_add, BitVec.ofInt_mul, ← toNat_imm9,
      ← setWidth_eq_ofInt, ← setWidth_eq_ofInt]
  | mac d =>
    obtain ⟨h1, h2, h3, heven, hrfu, hsub2⟩ := hvalid
    obtain ⟨-, -, hreg4⟩ := toNat_reg4 hrfu hsub2
    have hsucc := toNat_succ hreg4
    refine ⟨show (reg4 d).toNat < 32 by omega, show (reg4 d + 1).toNat < 32 by omega, ?_⟩
    have hrun := run_macWide (BitVec.signExtend 64) h1 h2 (by omega) heven hrfu hsub2
      (show (reg4 d).toNat < 32 by omega) (show (reg4 d + 1).toNat < 32 by omega) s
    rw [join_signed, BitVec.add_comm (_ * _)] at hrun
    show (opExecMacWide _ d).run s = _
    rw [hrun]
    unfold product
    rw [BitVec.ofInt_mul]
    rfl
  | macu d =>
    obtain ⟨h1, h2, h3, heven, hrfu, hsub2⟩ := hvalid
    obtain ⟨-, -, hreg4⟩ := toNat_reg4 hrfu hsub2
    have hsucc := toNat_succ hreg4
    refine ⟨show (reg4 d).toNat < 32 by omega, show (reg4 d + 1).toNat < 32 by omega, ?_⟩
    have hrun := run_macWide (BitVec.setWidth 64) h1 h2 (by omega) heven hrfu hsub2
      (show (reg4 d).toNat < 32 by omega) (show (reg4 d + 1).toNat < 32 by omega) s
    rw [join_unsigned, BitVec.add_comm (_ * _)] at hrun
    show (opExecMacWide _ d).run s = _
    rw [hrun]
    unfold product
    rw [BitVec.ofInt_mul, ← setWidth_eq_ofInt, ← setWidth_eq_ofInt]
    rfl

/-- The accumulator comes out right: the low word of `MAC` has no sign to
spread, or there is nothing left for it to change. -/
def Faithful (cpu : TargetCore) : MulInstr → Prop
  | mac d => (cpu.reg d.reg3).msb = false ∨ cpu.reg (d.reg3 + 1) = 0xFFFFFFFF
  | _ => True

theorem builtAccumulator_iff (i : MulInstr) (cpu : TargetCore) :
    i.builtAccumulator cpu = i.accumulator cpu ↔ i.Faithful cpu := by
  cases i with
  | mac d =>
    show ((if (cpu.reg d.reg3).msb then BitVec.allOnes 32 else cpu.reg (d.reg3 + 1)) ++
      cpu.reg d.reg3 : DoubleWord) = (cpu.reg (d.reg3 + 1) ++ cpu.reg d.reg3 : DoubleWord) ↔ _
    show _ ↔ (cpu.reg d.reg3).msb = false ∨ cpu.reg (d.reg3 + 1) = 0xFFFFFFFF
    by_cases hmsb : (cpu.reg d.reg3).msb = true
    · rw [if_pos hmsb, BitVec.append_left_inj]
      constructor
      · intro h
        exact Or.inr h.symm
      · rintro (hfalse | hones)
        · rw [hmsb] at hfalse
          cases hfalse
        · rw [hones]
          rfl
    · rw [if_neg hmsb]
      exact ⟨fun _ => Or.inl (Bool.eq_false_iff.mpr hmsb), fun _ => rfl⟩
  | _ => exact ⟨fun _ => trivial, fun _ => rfl⟩

/-- The instruction adds to an accumulator. -/
def accumulates : MulInstr → Bool
  | mac _ | macu _ => true
  | _ => false

def signed : MulInstr → Bool
  | mul11 _ | mul12 _ | mac _ => true
  | _ => false

end MulInstr

/-- A multiplication does what it should.  Where both words go to one register
the high word stays. -/
structure MulCorrect (i : MulInstr) (s : CpuState D) : Prop where
  /-- the product is exact in 64 bits -/
  exact : i.accumulates = false →
    (if i.signed then (i.expected s.cpu).toInt else ((i.expected s.cpu).toNat : Int)) =
      i.product s.cpu
  result : ∃ s', i.exec.run s = (.ok (), s') ∧
    s'.cpu.reg i.hi = (i.expected s.cpu >>> 32).setWidth 32 ∧
    (i.lo ≠ i.hi → s'.cpu.reg i.lo = (i.expected s.cpu).setWidth 32)

/-- Products of words fit 64 bits. -/
theorem natAbs_mul_le (a b : Word) : (a.toInt * b.toInt).natAbs ≤ 2 ^ 31 * 2 ^ 31 := by
  have ha : a.toInt.natAbs ≤ 2 ^ 31 := by
    have hlow := a.le_toInt
    have hhigh := a.toInt_lt
    omega
  have hb : b.toInt.natAbs ≤ 2 ^ 31 := by
    have hlow := b.le_toInt
    have hhigh := b.toInt_lt
    omega
  rw [Int.natAbs_mul]
  exact Nat.mul_le_mul ha hb

theorem toInt_ofInt_mul (a b : Word) :
    (BitVec.ofInt 64 (a.toInt * b.toInt)).toInt = a.toInt * b.toInt := by
  have hbound := natAbs_mul_le a b
  exact BitVec.toInt_ofInt_eq_self (by omega) (by omega) (by omega)

theorem toNat_ofInt_mul (a b : Word) :
    (BitVec.ofInt 64 ((a.toNat : Int) * b.toNat)).toNat = a.toNat * b.toNat := by
  have hbound : a.toNat * b.toNat < 2 ^ 32 * 2 ^ 32 := Nat.mul_lt_mul'' a.isLt b.isLt
  have hcast : (a.toNat : Int) * b.toNat = ((a.toNat * b.toNat : Nat) : Int) := by push_cast; rfl
  rw [hcast, BitVec.ofInt_natCast, BitVec.toNat_ofNat, Nat.mod_eq_of_lt (by omega)]

/-- The exact product survives in 64 bits. -/
theorem expected_exact (i : MulInstr) (cpu : TargetCore) (hacc : i.accumulates = false) :
    (if i.signed then (i.expected cpu).toInt else ((i.expected cpu).toNat : Int)) =
      i.product cpu := by
  cases i with
  | mul11 d =>
    show (0#64 + BitVec.ofInt 64 (_ * _)).toInt = _
    rw [BitVec.zero_add]
    exact toInt_ofInt_mul _ _
  | mulu11 d =>
    show ((0#64 + BitVec.ofInt 64 (_ * _)).toNat : Int) = _
    rw [BitVec.zero_add, toNat_ofInt_mul]
    exact Int.natCast_mul _ _
  | mul12 code =>
    show (0#64 + BitVec.ofInt 64 (_ * _)).toInt = (_ * _ : Int)
    rw [BitVec.zero_add, ← toInt_imm9]
    exact toInt_ofInt_mul _ _
  | mulu12 code =>
    show ((0#64 + BitVec.ofInt 64 (_ * _)).toNat : Int) = (_ * _ : Int)
    rw [BitVec.zero_add, ← toNat_imm9, toNat_ofInt_mul]
    exact Int.natCast_mul _ _
  | mac d => cases hacc
  | macu d => cases hacc

/-- A multiplication is right if and only if it is not a `MAC` whose accumulator
has the top bit of its low word set and a high word that is not all ones. -/
theorem product_exact {i : MulInstr} (hvalid : i.Valid) (s : CpuState D) :
    MulCorrect i s ↔ i.Faithful s.cpu := by
  obtain ⟨hlo, hhi, hrun⟩ := MulInstr.run_exec hvalid s
  obtain ⟨result, hresult⟩ :
      ∃ x, i.builtAccumulator s.cpu + BitVec.ofInt 64 (i.product s.cpu) = x := ⟨_, rfl⟩
  rw [hresult] at hrun
  have hreg : ∀ m, (afterMul s hlo hhi result).cpu.reg m =
      if m = i.hi then (result >>> 32).setWidth 32
      else if m = i.lo then result.setWidth 32 else s.cpu.reg m :=
    reg_update_update hlo hhi rfl
  have hsame : result = i.expected s.cpu ↔ i.Faithful s.cpu := by
    rw [← hresult, ← MulInstr.builtAccumulator_iff]
    exact BitVec.add_left_inj _
  constructor
  · intro h
    obtain ⟨s', hrun', hhigh, hlow⟩ := h.result
    rw [hrun] at hrun'
    cases hrun'
    rw [hreg, if_pos rfl] at hhigh
    cases i with
    | mac d =>
      obtain ⟨-, -, -, -, hrfu, hsub2⟩ := hvalid
      obtain ⟨-, -, hreg4⟩ := toNat_reg4 hrfu hsub2
      have hsucc := toNat_succ hreg4
      have hne : (MulInstr.mac d).lo ≠ (MulInstr.mac d).hi := fun heq => by
        have hnat : (MulInstr.reg4 d).toNat = (MulInstr.reg4 d + 1).toNat :=
          congrArg BitVec.toNat heq
        omega
      have hlow := hlow hne
      rw [hreg, if_neg hne, if_pos rfl] at hlow
      rw [← hsame, ← Limbs.append_limbs (m := 32) (n := 32) result, hhigh, hlow]
      exact Limbs.append_limbs (m := 32) (n := 32) _
    | _ => trivial
  · intro h
    have hexpected := hsame.mpr h
    exact
      { exact := expected_exact i s.cpu
        result := by
          refine ⟨_, hrun, ?_, ?_⟩
          · rw [hreg, if_pos rfl, hexpected]
          · intro hne
            rw [hreg, if_neg hne, if_pos rfl, hexpected] }

/-- -5, 7 and the accumulator 100 in registers. -/
def productState : CpuState Unit :=
  let s := operandState (-5) 7
  { s with cpu := { s.cpu with r := Function.update s.cpu.r 4 100 } }

/-- `MAC r1, r2, r4, r6` leaves 65 in `r6` and `r7`. -/
theorem product_exact_mac :
    MulCorrect (.mac ⟨0, 1, 2, 4, 0, 1, 1⟩) productState ∧
      (MulInstr.mac ⟨0, 1, 2, 4, 0, 1, 1⟩).expected productState.cpu = 65 := by
  have hlow : (productState.cpu.reg 4).msb = false := by decide
  refine ⟨(product_exact (i := .mac ⟨0, 1, 2, 4, 0, 1, 1⟩) ?_ productState).mpr (Or.inl hlow),
    by decide⟩
  exact ⟨by decide, by decide, by decide, by decide, by decide, by decide⟩

/-- The machine after reset with `0x80000000` in `r4`. -/
def accumulatorState : CpuState Unit :=
  { resetState with cpu :=
    { resetState.cpu with r := Function.update resetState.cpu.r 4 0x80000000 } }

/-- `MAC r1, r2, r4, r6` adds nothing to the accumulator `0x00000000_80000000`,
and its high word comes out as `0xFFFFFFFF`. -/
theorem mac_sign :
    ¬ MulCorrect (.mac ⟨0, 1, 2, 4, 0, 1, 1⟩) accumulatorState := by
  intro h
  obtain ⟨s', hrun, hhigh, -⟩ := h.result
  have hs' : s' = ((MulInstr.mac ⟨0, 1, 2, 4, 0, 1, 1⟩).exec.run accumulatorState).2 := by
    rw [hrun]
  rw [hs'] at hhigh
  revert hhigh
  decide +kernel

end Exec

end Athrill
