import Athrill.Cpu.Run
import Athrill.Exec.Classes

/-!
# Subnormal numbers

An operation reads the direction of rounding from `FPSR`, and subnormal
operands and results are replaced.  The two directed modes have the codes
`0x10` and `0x11`, which a field of two bits never holds, and the sign of a
result is set before the word is cleared.

* `roundingMode`: what the field `RM` means.
* `FpuNumber.Flushes`: operands and results are replaced as documented.
* `flush_exact`: when they are.
-/

namespace Athrill

open Ieee

variable {D : Type}

/-! ## The direction of rounding -/

/-- The field `RM`, bits 19 and 18 of `FPSR`. -/
def roundingMode (cpu : TargetCore) : Rounding :=
  match (cpu.getSysreg2 .fpsr).toNat / 2 ^ 18 % 4 with
  | 0 => .nearest
  | 1 => .towardZero
  | 2 => .up
  | _ => .down

theorem toNat_sysGetFpsrRm (cpu : TargetCore) :
    (sysGetFpsrRm cpu).toNat = (cpu.getSysreg2 .fpsr).toNat / 2 ^ 18 % 4 := by
  have hmask := Bits.toNat_mask_and (show ∀ i : Fin 8, (0x03#8).getLsbD i.val =
    decide (0 ≤ i.val ∧ i.val < 0 + 2) by decide) ((cpu.getSysreg2 .fpsr >>> 18).setWidth 8)
  rw [BitVec.and_comm] at hmask
  show ((cpu.getSysreg2 .fpsr >>> 18).setWidth 8 &&& 0x03#8).toNat = _
  rw [hmask, BitVec.toNat_setWidth, BitVec.toNat_ushiftRight, Nat.shiftRight_eq_div_pow]
  omega

/-- The directed modes are never selected. -/
theorem fpuRoundType_eq (cpu : TargetCore) :
    fpuRoundType (sysGetFpsrRm cpu) = .rn ∨ fpuRoundType (sysGetFpsrRm cpu) = .rz := by
  have hlt : (sysGetFpsrRm cpu).toNat < 4 := by
    rw [toNat_sysGetFpsrRm]
    omega
  unfold fpuRoundType
  split
  · exact Or.inl rfl
  · exact Or.inr rfl
  · omega
  · omega
  · exact Or.inl rfl

theorem Exec.run_prepareFloatOp (host : HostFloat D) (s : CpuState D) :
    (Exec.prepareFloatOp host).run s =
      (.ok (fpuRoundType (sysGetFpsrRm s.cpu)),
        { s with dev :=
          host.feclearexcept (host.fesetround (fpuRoundType (sysGetFpsrRm s.cpu)) s.dev) }) :=
  rfl

/-! ## What the code replaces -/

namespace FpuNumber

/-- `set_subnormal_operand` and `set_subnormal_operand_double`. -/
def setOperand : FpuNumber → FpuNumber
  | single x => single (setSubnormalOperand x)
  | double x => double (setSubnormalOperandDouble x)

/-- `set_subnormal_result` and `set_subnormal_result_double`. -/
def setResult (round : FpuRounding) : FpuNumber → FpuNumber
  | single x => single (setSubnormalResult round x)
  | double x => double (setSubnormalResultDouble round x)

/-- What is documented for an operand. -/
def flushOperand : FpuNumber → FpuNumber
  | single x => single (binary32.flushOperand x)
  | double x => double (binary64.flushOperand x)

/-- What is documented for a result. -/
def flushResult (rounding : Rounding) : FpuNumber → FpuNumber
  | single x => single (binary32.flushResult rounding x)
  | double x => double (binary64.flushResult rounding x)

def sign : FpuNumber → Bool
  | single x => binary32.sign x
  | double x => binary64.sign x

/-- The number is replaced as documented before and after the operation that
the state `s` begins. -/
def Flushes (host : HostFloat D) (x : FpuNumber) (s : CpuState D) : Prop :=
  x.setOperand = x.flushOperand ∧
    ∃ round s', (Exec.prepareFloatOp host).run s = (.ok round, s') ∧
      x.setResult round = x.flushResult (roundingMode s.cpu)

/-- A subnormal result is replaced by the positive zero. -/
def BecomesZero (x : FpuNumber) (rounding : Rounding) : Prop :=
  x.classify = .subnormal → x.sign = false ∧ rounding ≠ .up

/-- The exponent field is not 1, or the precision is single. -/
def ExponentRead : FpuNumber → Prop
  | single _ => True
  | double x => binary64.exponent x ≠ 1

end FpuNumber

/-! ## A zero in place of every subnormal result -/

section Zero

variable {f : Format} {w : Nat}

/-- The signed zero and the smallest normal numbers are other patterns than the
positive zero. -/
structure ZeroApart (f : Format) (w : Nat) : Prop where
  positive : f.zero w false = 0
  negative : f.zero w true ≠ 0
  normal : ∀ b, f.minNormal w b ≠ 0

theorem flushResult_eq_zero_iff (h : ZeroApart f w) (rounding : Rounding) {x : BitVec w}
    (hx : f.classify x = .subnormal) :
    f.flushResult rounding x = 0 ↔ f.sign x = false ∧ rounding ≠ .up := by
  unfold Format.flushResult
  rw [if_pos hx]
  cases hsign : f.sign x with
  | false =>
    cases rounding with
    | nearest => exact iff_of_true h.positive ⟨rfl, by decide⟩
    | towardZero => exact iff_of_true h.positive ⟨rfl, by decide⟩
    | up => exact iff_of_false (h.normal false) fun hup => hup.2 rfl
    | down => exact iff_of_true h.positive ⟨rfl, by decide⟩
  | true =>
    refine iff_of_false ?_ fun hneg => absurd hneg.1 (by decide)
    cases rounding with
    | nearest => exact h.negative
    | towardZero => exact h.negative
    | up => exact h.negative
    | down => exact h.normal true

theorem flushResult_of_ne (rounding : Rounding) {x : BitVec w} (hx : f.classify x ≠ .subnormal) :
    f.flushResult rounding x = x :=
  if_neg hx

theorem zeroApart_binary32 : ZeroApart binary32 32 :=
  ⟨by decide, by decide, by decide⟩

theorem zeroApart_binary64 : ZeroApart binary64 64 :=
  ⟨by decide, by decide, by decide⟩

end Zero

theorem setSubnormalResult_eq {round : FpuRounding} (hround : round = .rn ∨ round = .rz)
    (x : Word) : setSubnormalResult round x = if floatIsSbnorm x then 0 else x := by
  rcases hround with rfl | rfl <;> rfl

theorem setSubnormalResultDouble_eq {round : FpuRounding} (hround : round = .rn ∨ round = .rz)
    (x : DoubleWord) :
    setSubnormalResultDouble round x = if doubleIsSbnorm x then 0 else x := by
  rcases hround with rfl | rfl <;> rfl

/-! ## Single precision -/

section Single

variable (x : Word)

theorem floatIsSbnorm_iff : floatIsSbnorm x = true ↔ binary32.classify x = .subnormal :=
  floatIs_iff x .subnormal

theorem setSubnormalOperand_eq : setSubnormalOperand x = binary32.flushOperand x := by
  unfold setSubnormalOperand Format.flushOperand
  by_cases hx : binary32.classify x = .subnormal
  · rw [if_pos ((floatIsSbnorm_iff x).mpr hx), if_pos hx]
    show (if binary32.sign x = true then _ else _) = _
    cases binary32.sign x <;> decide
  · rw [if_neg fun h => hx ((floatIsSbnorm_iff x).mp h), if_neg hx]

theorem setSubnormalResult_iff {round : FpuRounding} (hround : round = .rn ∨ round = .rz)
    (rounding : Rounding) :
    setSubnormalResult round x = binary32.flushResult rounding x ↔
      (FpuNumber.single x).BecomesZero rounding := by
  rw [setSubnormalResult_eq hround]
  by_cases hx : binary32.classify x = .subnormal
  · rw [if_pos ((floatIsSbnorm_iff x).mpr hx), eq_comm,
      flushResult_eq_zero_iff zeroApart_binary32 rounding hx]
    exact ⟨fun h _ => h, fun h => h hx⟩
  · rw [if_neg fun h => hx ((floatIsSbnorm_iff x).mp h), flushResult_of_ne rounding hx]
    exact iff_of_true rfl fun h => absurd h hx

end Single

/-! ## Double precision -/

section Double

variable {x : DoubleWord}

theorem doubleIsSbnorm_iff_classify (hone : binary64.exponent x ≠ 1) :
    doubleIsSbnorm x = true ↔ binary64.classify x = .subnormal := by
  rw [Format.classify_eq_subnormal_iff]
  exact (doubleIsSbnorm_iff x).trans (or_iff_left hone)

/-- The normal numbers with the smallest exponent are cleared, too. -/
theorem setSubnormalOperandDouble_iff :
    setSubnormalOperandDouble x = binary64.flushOperand x ↔ binary64.exponent x ≠ 1 := by
  constructor
  · intro heq hone
    have hsbnorm := (doubleIsSbnorm_iff x).mpr (Or.inr hone)
    have hnormal : binary64.classify x ≠ .subnormal := by
      rw [ne_eq, Format.classify_eq_subnormal_iff]
      omega
    unfold setSubnormalOperandDouble Format.flushOperand at heq
    rw [if_pos hsbnorm, if_neg hnormal] at heq
    rw [← heq] at hone
    revert hone
    split_ifs <;> decide
  · intro hone
    unfold setSubnormalOperandDouble Format.flushOperand
    by_cases hx : binary64.classify x = .subnormal
    · rw [if_pos ((doubleIsSbnorm_iff_classify hone).mpr hx), if_pos hx]
      show (if binary64.sign x = true then _ else _) = _
      cases binary64.sign x <;> decide
    · rw [if_neg fun h => hx ((doubleIsSbnorm_iff_classify hone).mp h), if_neg hx]

theorem setSubnormalResultDouble_iff (hone : binary64.exponent x ≠ 1) {round : FpuRounding}
    (hround : round = .rn ∨ round = .rz) (rounding : Rounding) :
    setSubnormalResultDouble round x = binary64.flushResult rounding x ↔
      (FpuNumber.double x).BecomesZero rounding := by
  rw [setSubnormalResultDouble_eq hround]
  by_cases hx : binary64.classify x = .subnormal
  · rw [if_pos ((doubleIsSbnorm_iff_classify hone).mpr hx), eq_comm,
      flushResult_eq_zero_iff zeroApart_binary64 rounding hx]
    exact ⟨fun h _ => h, fun h => h hx⟩
  · rw [if_neg fun h => hx ((doubleIsSbnorm_iff_classify hone).mp h),
      flushResult_of_ne rounding hx]
    exact iff_of_true rfl fun h => absurd h hx

end Double

/-! ## Both precisions -/

theorem setOperand_iff (x : FpuNumber) : x.setOperand = x.flushOperand ↔ x.ExponentRead := by
  cases x with
  | single x => exact iff_of_true (congrArg _ (setSubnormalOperand_eq x)) trivial
  | double x =>
    show FpuNumber.double _ = FpuNumber.double _ ↔ _
    rw [FpuNumber.double.injEq]
    exact setSubnormalOperandDouble_iff

theorem setResult_iff {x : FpuNumber} (hx : x.ExponentRead) {round : FpuRounding}
    (hround : round = .rn ∨ round = .rz) (rounding : Rounding) :
    x.setResult round = x.flushResult rounding ↔ x.BecomesZero rounding := by
  cases x with
  | single x =>
    show FpuNumber.single _ = FpuNumber.single _ ↔ _
    rw [FpuNumber.single.injEq]
    exact setSubnormalResult_iff x hround rounding
  | double x =>
    show FpuNumber.double _ = FpuNumber.double _ ↔ _
    rw [FpuNumber.double.injEq]
    exact setSubnormalResultDouble_iff hx hround rounding

theorem flush_exact (host : HostFloat D) (x : FpuNumber) (s : CpuState D) :
    x.Flushes host s ↔ x.ExponentRead ∧ x.BecomesZero (roundingMode s.cpu) := by
  have hround := fpuRoundType_eq s.cpu
  constructor
  · rintro ⟨hoperand, round, s', hrun, hresult⟩
    have hread := (setOperand_iff x).mp hoperand
    rw [Exec.run_prepareFloatOp] at hrun
    cases hrun
    exact ⟨hread, (setResult_iff hread hround _).mp hresult⟩
  · rintro ⟨hread, hzero⟩
    exact ⟨(setOperand_iff x).mpr hread, _, _, Exec.run_prepareFloatOp host s,
      (setResult_iff hread hround _).mpr hzero⟩

/-- To nearest, the sign of a negative result is lost. -/
theorem negative_result_loses_sign :
    ¬ ∀ (x : FpuNumber) (s : CpuState Unit), x.Flushes zeroHost s := by
  intro h
  obtain ⟨-, round, s', hrun, hresult⟩ := h (.single 0x80000001) resetState
  rw [Exec.run_prepareFloatOp] at hrun
  cases hrun
  exact absurd hresult (by decide +kernel)

end Athrill
